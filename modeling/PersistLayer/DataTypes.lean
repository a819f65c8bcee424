import PersistLayer.Schema.DataModel
import PersistLayer.Schema.TypeDesc
import PersistLayer.Syntax.Tree

/-!
# The file of data types

For each entity `X` the file defines the stored record `X`, the record
`XOptionalized` whose fields may all be absent, the target type that a query can
be asked for, and the payloads `XInsert` and `XUpdate`.  When `X` is related to
an entity of the data model, `XWithRelations` adds the related records to
`XOptionalized` and takes its place in the target type.
-/

namespace PersistLayer.DataTypes

open Schema Syntax

/-! ## Names -/

/-- The record whose fields may all be absent. -/
def optionalizedName (entity : String) : String := entity ++ "Optionalized"

/-- The record that holds related records too. -/
def withRelationsName (entity : String) : String := entity ++ "WithRelations"

/-- The type of the target parameters of queries. -/
def targetTypeName (entity : String) : String := entity ++ "TargetType"

/-- The payload of an insertion. -/
def insertName (entity : String) : String := entity ++ "Insert"

/-- The payload of an update. -/
def updateName (entity : String) : String := entity ++ "Update"

/-! ## Fields -/

/-- A field as it is stored. -/
def storedField (field : Field) : RecordField :=
  .field field.isKey field.typeDesc field.name false

/-- A field that may be absent. -/
def absentableField (field : Field) : RecordField :=
  .field false field.typeDesc field.name true

/-- The field that holds the record or records a relation leads to. -/
def relationField (relation : Relation) : RecordField :=
  let target := TypeDesc.plain (optionalizedName relation.target)
  let type :=
    match relation.cardinality with
    | .one => target
    | .many => .array target
  .field false type relation.name true

/-- The relations of an entity that lead to an entity of the data model. -/
def liveRelations (model : DataModel) (entity : Entity) : List Relation :=
  entity.relations.filter fun relation => (model.entity? relation.target).isSome

/-! ## Definitions -/

/-- The definitions for one entity. -/
def entityTypes (model : DataModel) (entity : Entity) : List ModuleMember :=
  let name := entity.name
  let optionalized := optionalizedName name
  let relations := liveRelations model entity
  let withRelations :=
    if relations.isEmpty then []
    else
      [ModuleMember.type (withRelationsName name)
        (.record (.inclusion (.plain optionalized) :: relations.map relationField))]
  let target := if relations.isEmpty then optionalized else withRelationsName name
  [ModuleMember.type name (.record (entity.fields.map storedField)),
    .type optionalized (.record (entity.fields.map absentableField))] ++
    withRelations ++
  [.type (targetTypeName name) (.synonym (.typedesc (.plain target))),
    .type (insertName name) (.synonym (.plain name)),
    .type (updateName name) (.record (entity.nonKeyFields.map absentableField))]

/-- Some field has a type of the `time` module. -/
def usesTime (model : DataModel) : Bool :=
  model.entities.any fun entity => entity.fields.any fun field => field.type.isTime

/-- The file of data types, if the data model has entities.  The comment stands
with the import when there is one. -/
def generate (model : DataModel) : Option SourceFile :=
  if model.isEmpty then none
  else
    let comment := Comment.autogenerated none
    let members :=
      model.enumerations.map (fun enumeration =>
        ModuleMember.enum enumeration.name enumeration.members) ++
      model.entities.flatMap (entityTypes model)
    if usesTime model then some ⟨[⟨"ballerina", "time", none, some comment⟩], none, members⟩
    else some ⟨[], some comment, members⟩

end PersistLayer.DataTypes
