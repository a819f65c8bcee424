import PersistLayer.Files.Place

/-!
# File trees

Files and directories at places.  A directory exists when it is given, when it is
listed, or when a file stands below it.  A tree also says where nothing can be made or
written, and what the process is given on its input.

Writing a file empties it before the first byte goes to disk.  So a disk that takes
only the beginning of a text leaves that beginning, and what the file held before is
gone.
-/

namespace PersistLayer.Files

/-- Files with their contents, directories, the places in which nothing can be made or
written, and what the input gives each time that it is read.  Of directories inside each
other only the innermost has to be listed. -/
structure Tree where
  files : List (Place × ByteArray)
  directories : List Place
  closed : List Place
  input : List ByteArray

/-- What is found at a path. -/
inductive Entry where
  | missing
  | directory
  | file (content : ByteArray)

namespace Tree

/-- The tree with the given files, by path, on a system with the usual directories and
with nothing on the input. -/
def ofFiles (files : List (String × ByteArray)) : Tree where
  files := files.map fun (path, content) =>
    ((steps path).foldl Place.after (Place.start path), content)
  directories := Place.systemDirectories
  closed := Place.systemFilled
  input := []

/-- The content of the file at a place. -/
def file? (tree : Tree) (place : Place) : Option ByteArray := tree.files.lookup place

/-- What is read at a place: the content of a file, or what a device gives. -/
def content? (tree : Tree) (place : Place) : Option ByteArray :=
  if place = Place.emptyDevice then some ByteArray.empty
  else if place = Place.inputDevice then some (tree.input.headD ByteArray.empty)
  else tree.file? place

/-- A directory stands at a place. -/
def isDirectory (tree : Tree) (place : Place) : Bool :=
  place.isGiven || tree.directories.any (place.leadsTo ·) ||
    tree.files.any fun (other, _) => place.leadsTo other && place.names.length < other.names.length

/-- The files in and below the working directory, by path. -/
def localFiles (tree : Tree) : List (String × ByteArray) :=
  (tree.files.filter fun (place, _) => Place.working.leadsTo place).map fun (place, content) =>
    ("/".intercalate place.names, content)

/-! ## Reading -/

/-- The place that steps lead to through directories that exist. -/
def follow? (tree : Tree) (place : Place) : List Step → Option Place
  | [] => some place
  | step :: rest =>
    if tree.isDirectory place then tree.follow? (place.after step) rest else none

/-- The place that a path leads to. -/
def place? (tree : Tree) (path : String) : Option Place :=
  if isUsable path then tree.follow? (Place.start path) (steps path) else none

/-- What is found at a path. -/
def find (tree : Tree) (path : String) : Entry :=
  match tree.place? path with
  | none => .missing
  | some place =>
    match tree.content? place with
    | some content => .file content
    | none => if tree.isDirectory place then .directory else .missing

/-- The tree behind the reading of what is found at a path.  The input does not give the
same again. -/
def behindReading (tree : Tree) (path : String) : Tree :=
  if tree.place? path = some Place.inputDevice then { tree with input := tree.input.tail }
  else tree

/-! ## Making directories -/

/-- A place is in a part of the tree where nothing can be made or written. -/
def isClosed (tree : Tree) (place : Place) : Bool := tree.closed.any (·.leadsTo place)

/-- A directory can be made at a place where none is. -/
def admitsDirectory (tree : Tree) (place : Place) : Bool :=
  (tree.content? place).isNone && place.hasFittingName && !tree.isClosed place

/-- Adds a directory. -/
def addDirectory (tree : Tree) (place : Place) : Tree :=
  { tree with directories := place :: tree.directories.filter fun other => !other.leadsTo place }

/-- Makes the directories that are missing on the way of some steps, one after the other.
The result is the tree that is left behind, and the place that the steps lead to where
all directories could be made. -/
def makeWay (tree : Tree) (place : Place) : List Step → Tree × Option Place
  | [] => (tree, some place)
  | step :: rest =>
    let next := place.after step
    if tree.isDirectory next then tree.makeWay next rest
    else if tree.admitsDirectory next then (tree.addDirectory next).makeWay next rest
    else (tree, none)

/-- Makes a directory and those on the way to it, with a result as `makeWay`.  When a
path ends in a dot, the directory in front of the dot is on the way to nothing but itself
and must exist already. -/
def makeDirectory (tree : Tree) (path : String) : Tree × Option Place :=
  let way := (steps path).filter (· ≠ .stay)
  if !isUsable path then (tree, none)
  else
    match endsInDot path, way.getLast? with
    | true, some (.into name) =>
      match tree.makeWay (Place.start path) way.dropLast with
      | (made, some place) =>
        (made, if made.isDirectory (place.child name) then some (place.child name) else none)
      | (made, none) => (made, none)
    | _, _ => tree.makeWay (Place.start path) way

/-! ## Writing -/

/-- Puts content at a place. -/
def put (place : Place) (content : ByteArray) :
    List (Place × ByteArray) → List (Place × ByteArray)
  | [] => [(place, content)]
  | (other, old) :: rest =>
    if other = place then (other, content) :: rest else (other, old) :: put place content rest

/-- A file can be opened for writing at a place in a directory that exists. -/
def admitsFile (tree : Tree) (place : Place) : Bool :=
  !tree.isDirectory place && place.hasFittingName && !tree.isClosed place

/-- Writes content to the file at a place and says whether all of it was written.  With a
limit the disk takes no more bytes than that, and the file is left with those. -/
def writeFile (tree : Tree) (place : Place) (content : ByteArray) (limit : Option Nat) :
    Tree × Bool :=
  match limit.filter (· < content.size) with
  | none => ({ tree with files := put place content tree.files }, true)
  | some size => ({ tree with files := put place (content.extract 0 size) tree.files }, false)

/-- Writes a text to a file in a directory that is made where it is missing.  The result
is the tree that is left behind, and whether the file was written.  A file that cannot be
opened leaves the directories that were made for it. -/
def write (tree : Tree) (directory name text : String) (limit : Option Nat := none) :
    Tree × Bool :=
  match tree.makeDirectory directory with
  | (made, none) => (made, false)
  | (made, some place) =>
    let target := place.child name
    if isUsable (join directory name) && made.admitsFile target then
      made.writeFile target text.toUTF8 limit
    else (made, false)

end Tree

end PersistLayer.Files
