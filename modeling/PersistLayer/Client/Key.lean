import PersistLayer.Schema.TypeDesc
import PersistLayer.Syntax.Name
import PersistLayer.Syntax.Tree

/-!
# Keys

How the key of an entity appears in generated code: as parameters of a path, as
an argument, as a path of the client, as a type and as the projection of an
inserted record.  A key of one field appears as that field, and a key of several
as the collection of them.
-/

namespace PersistLayer.Client.Key

open Schema Syntax

/-- The parameters of a resource path. -/
def path (keys : List Field) : List PathSegment :=
  keys.map fun key => .param key.type.typeDesc key.name

/-- The segments of a client path, `[a]/[b]`. -/
def clientPath (keys : List Field) : String :=
  "/".intercalate (keys.map fun key => "[" ++ quotedName key.name ++ "]")

/-- The argument that identifies a record: the key, or a mapping from the name of
each key to its value. -/
def argument (keys : List Field) : String :=
  match keys with
  | [key] => quotedName key.name
  | keys =>
    "\x7b" ++
      ", ".intercalate (keys.map fun key =>
        stringLiteral key.name ++ ": " ++ quotedName key.name) ++ "\x7d"

/-- The type of the key, or the tuple of the types of the keys. -/
def type (keys : List Field) : TypeDesc :=
  match keys with
  | [key] => key.type.typeDesc
  | keys => .tuple (keys.map fun key => key.type.typeDesc)

/-- The key of the record `inserted`. -/
def projection (keys : List Field) : String :=
  match keys with
  | [key] => "inserted." ++ quotedName key.name
  | keys => "[" ++ ", ".intercalate (keys.map fun key => "inserted." ++ quotedName key.name) ++ "]"

end PersistLayer.Client.Key
