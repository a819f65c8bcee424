/-!
# Type descriptors

Type descriptors and their written form.  A union is put in parentheses where it
is the operand of `?` or `[]`, and nowhere else.
-/

namespace PersistLayer.Syntax

/-- A type descriptor.  `scope` is the name of the module that declares a type,
and an open record is a record without declared fields. -/
inductive TypeDesc where
  | named (scope : Option String) (name : String)
  | optional (inner : TypeDesc)
  | array (inner : TypeDesc)
  | union (members : List TypeDesc)
  | tuple (members : List TypeDesc)
  | stream (row completion : TypeDesc)
  | typedesc (inner : TypeDesc)
  | openRecord
  deriving Repr, Inhabited

namespace TypeDesc

/-- A type of the same module, or one that is built in. -/
def plain (name : String) : TypeDesc := named none name

/-- A type of another module. -/
def qualified (scope name : String) : TypeDesc := named (some scope) name

/-- The union with one more member.  A union is extended and not nested. -/
def or : TypeDesc → TypeDesc → TypeDesc
  | union members, other => union (members ++ [other])
  | single, other => union [single, other]

/-- The descriptor is a union. -/
def isUnion : TypeDesc → Bool
  | union _ => true
  | _ => false

/-- The written form of an operand, given the written form of the type. -/
def operand (type : TypeDesc) (text : String) : String :=
  if type.isUnion then "(" ++ text ++ ")" else text

mutual

/-- The written form of a type descriptor. -/
def text : TypeDesc → String
  | named none name => name
  | named (some scope) name => scope ++ ":" ++ name
  | optional inner => inner.operand inner.text ++ "?"
  | array inner => inner.operand inner.text ++ "[]"
  | union members => "|".intercalate (texts members)
  | tuple members => "[" ++ ", ".intercalate (texts members) ++ "]"
  | stream row completion => "stream<" ++ row.text ++ ", " ++ completion.text ++ ">"
  | typedesc inner => "typedesc<" ++ inner.text ++ ">"
  | openRecord => "record \x7b\x7d"

/-- The written forms of several type descriptors. -/
def texts : List TypeDesc → List String
  | [] => []
  | type :: rest => type.text :: texts rest

end

end TypeDesc

end PersistLayer.Syntax
