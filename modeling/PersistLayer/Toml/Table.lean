/-!
# Tables

A table maps keys to values and keeps its keys in the order in which they were
first set.  Setting a key again changes its value and not its place.
-/

namespace PersistLayer.Toml

/-- A value that is not a table. -/
inductive Scalar where
  | string (value : String)
  | integer (value : Int)
  deriving Repr, DecidableEq

/-- Keys and values in order. -/
abbrev Entries (α : Type) := List (String × α)

/-- Sets the value of a key, in its place or else at the end. -/
def put {α : Type} (key : String) (value : α) : Entries α → Entries α
  | [] => [(key, value)]
  | (known, old) :: rest =>
    if known = key then (known, value) :: rest else (known, old) :: put key value rest

/-- A document that is a chain of tables with one entry each around a table of
scalars. -/
inductive Table where
  | scalars (entries : Entries Scalar)
  | nested (key : String) (inner : Table)
  deriving Repr, DecidableEq

/-- The table of scalars under a path of keys. -/
def Table.ofPath (path : List String) (entries : Entries Scalar) : Table :=
  path.foldr nested (scalars entries)

end PersistLayer.Toml
