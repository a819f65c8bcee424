import PersistLayer.Files.Path

/-!
# Places

A place is where a path leads.  It is counted from the working directory, from a
directory above it, or from the root: what the directories above are called is
not known, so a place that is reached by going up stays apart from the places
that are reached from the root.

Two places are devices on every system: one gives nothing when it is read, the other
gives the input of the process.
-/

namespace PersistLayer.Files

/-- Where a place is counted from: the directory so many levels above the working
directory, or the root. -/
inductive Origin where
  | above (levels : Nat)
  | root
  deriving Repr, DecidableEq

/-- An origin and the names on the way from it. -/
structure Place where
  origin : Origin
  names : List String
  deriving Repr, DecidableEq

namespace Place

/-- The working directory. -/
def working : Place := ⟨.above 0, []⟩

/-- The place of a name in a directory. -/
def child (place : Place) (name : String) : Place := { place with names := place.names ++ [name] }

/-- The directory above a place.  The root is above itself. -/
def parent (place : Place) : Place :=
  match place.names, place.origin with
  | [], .above levels => ⟨.above (levels + 1), []⟩
  | names, origin => ⟨origin, names.dropLast⟩

/-- The place behind a step. -/
def after (place : Place) : Step → Place
  | .stay => place
  | .up => place.parent
  | .into name => place.child name

/-- The place where a path begins. -/
def start (path : String) : Place := if isAbsolute path then ⟨.root, []⟩ else working

/-- The place is `other` or on the way to it. -/
def leadsTo (place other : Place) : Bool :=
  place.origin == other.origin && place.names.isPrefixOf other.names

/-- The last name of a place is one that a file or directory can have. -/
def hasFittingName (place : Place) : Bool :=
  place.names.getLast?.all fun name => name.utf8ByteSize ≤ maxNameLength

/-! ## What every system has -/

/-- The places that paths are counted from are directories. -/
def isGiven (place : Place) : Bool := place.names.isEmpty

/-- The device that gives nothing when it is read. -/
def emptyDevice : Place := ⟨.root, ["dev", "null"]⟩

/-- The device that gives the input of the process. -/
def inputDevice : Place := ⟨.root, ["dev", "stdin"]⟩

/-- The directories below the root, as systems have them. -/
def systemDirectories : List Place :=
  ["bin", "boot", "dev", "etc", "home", "lib", "media", "mnt", "opt", "proc", "root", "run",
    "sbin", "srv", "sys", "tmp", "usr", "var"].map fun name => ⟨.root, [name]⟩

/-- The directories that a system fills itself. -/
def systemFilled : List Place := [⟨.root, ["proc"]⟩, ⟨.root, ["sys"]⟩]

end Place

end PersistLayer.Files
