/-!
# Paths

A path is read as steps.  A step goes into a directory, stays where it is or goes
up; empty segments and single dots stay.
-/

namespace PersistLayer.Files

/-- A step of a path. -/
inductive Step where
  | stay
  | up
  | into (name : String)
  deriving Repr, DecidableEq

/-- The step that a segment of a path stands for. -/
def Step.ofSegment (segment : String) : Step :=
  if segment == "" || segment == "." then stay
  else if segment == ".." then up
  else into segment

/-- The segments of a path. -/
def segments (path : String) : List String := (path.toList.splitOn '/').map String.ofList

/-- The steps of a path. -/
def steps (path : String) : List Step := (segments path).map Step.ofSegment

/-- A path that begins at the root. -/
def isAbsolute (path : String) : Bool := path.toList.head? == some '/'

/-- A path whose last segment is a dot. -/
def endsInDot (path : String) : Bool :=
  ((segments path).filter fun segment => segment != "").getLast? == some "."

/-- A path without the dots and slashes it may begin with. -/
def relative (path : String) : String :=
  let kept := ((segments path).dropWhile fun segment => segment == "" || segment == ".")
  "/".intercalate kept

/-- The path of a file in a directory.  The empty path is the working
directory. -/
def join (directory name : String) : String :=
  if directory == "" || directory.toList.getLast? == some '/' then directory ++ name
  else directory ++ "/" ++ name

/-! ## Limits -/

/-- The bytes that a name can have. -/
def maxNameLength : Nat := 255

/-- The bytes that a path can have. -/
def maxPathLength : Nat := 4095

/-- A path that can be used at all: not too long, and without the character that
ends texts for the system. -/
def isUsable (path : String) : Bool :=
  path.utf8ByteSize ≤ maxPathLength && !path.toList.contains '\x00'

end PersistLayer.Files
