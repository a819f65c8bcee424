import PersistLayer.Text.UpperSnake

/-!
# Entities

An entity is a record type of the data model: its fields, and its relations to
other entities.  The names under which it appears in generated code, its resource
and its constant, follow from its own name.
-/

namespace PersistLayer.Schema

/-- The types a field can have.  An enumeration belongs to the same data model;
any other type name is carried through as written. -/
inductive FieldType where
  | int
  | string
  | boolean
  | float
  | decimal
  | byteArray
  | date
  | timeOfDay
  | utc
  | civil
  | enumeration (name : String)
  | other (name : String)
  deriving Repr, DecidableEq

/-- The types that the `time` module declares. -/
def FieldType.isTime : FieldType → Bool
  | date | timeOfDay | utc | civil => true
  | _ => false

/-- A field.  It is supported when the database has a column type for it. -/
structure Field where
  name : String
  type : FieldType
  isKey : Bool
  isNullable : Bool
  isSupported : Bool
  deriving Repr, DecidableEq

/-- How many records of the target a relation leads to. -/
inductive Cardinality where
  | one
  | many
  deriving Repr, DecidableEq

/-- A column of the owner that refers to a field of the target. -/
structure ForeignKey where
  column : String
  references : String
  deriving Repr, DecidableEq

/-- A relation to the entity named `target`.  The owner side holds the foreign
key columns. -/
structure Relation where
  name : String
  target : String
  cardinality : Cardinality
  isOwner : Bool
  foreignKeys : List ForeignKey
  deriving Repr, DecidableEq

/-- A record type of the data model.  Without a table of its own name it is
stored in a table named as the entity. -/
structure Entity where
  name : String
  table : Option String
  fields : List Field
  relations : List Relation
  deriving Repr, DecidableEq

namespace Entity

/-- The fields that the database has no column type for. -/
def unsupportedFields (entity : Entity) : List Field :=
  entity.fields.filter fun field => !field.isSupported

/-- Every field has a column type. -/
def isSupported (entity : Entity) : Bool := entity.fields.all Field.isSupported

/-- The key fields, as declared. -/
def keyFields (entity : Entity) : List Field := entity.fields.filter Field.isKey

/-- The fields outside the key, as declared. -/
def nonKeyFields (entity : Entity) : List Field :=
  entity.fields.filter fun field => !field.isKey

/-- The table that stores the entity. -/
def tableName (entity : Entity) : String := entity.table.getD entity.name

/-- The path segment of the entity's resource, such as `employees`. -/
def resourceName (entity : Entity) : String :=
  String.ofList (Text.lowerCase entity.name.toList ++ ['s'])

/-- The constant that names the entity's resource, such as `MEDICAL_NEED`. -/
def constantName (entity : Entity) : String :=
  String.ofList (Text.upperSnake entity.name.toList)

end Entity

end PersistLayer.Schema
