import PersistLayer.Schema.Entity
import PersistLayer.Syntax.TypeDesc

/-!
# Types of fields

The type descriptors that stand for the types of fields in generated code.
-/

namespace PersistLayer.Schema

open Syntax (TypeDesc)

/-- The type descriptor of a field type. -/
def FieldType.typeDesc : FieldType → TypeDesc
  | int => .plain "int"
  | string => .plain "string"
  | boolean => .plain "boolean"
  | float => .plain "float"
  | decimal => .plain "decimal"
  | byteArray => .array (.plain "byte")
  | date => .qualified "time" "Date"
  | timeOfDay => .qualified "time" "TimeOfDay"
  | utc => .qualified "time" "Utc"
  | civil => .qualified "time" "Civil"
  | enumeration name => .plain name
  | other name => .plain name

/-- The type descriptor of a field, optional where the field is nullable. -/
def Field.typeDesc (field : Field) : TypeDesc :=
  if field.isNullable then .optional field.type.typeDesc else field.type.typeDesc

end PersistLayer.Schema
