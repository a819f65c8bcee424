import PersistLayer.Fragment
import PersistLayer.Schema.Entity
import PersistLayer.Syntax.Name

/-!
# Client metadata

The client holds a description of every entity it covers: its table, the columns
of its fields and of the fields it can reach through relations, its key and the
joins behind its relations.  `describe` collects the description and
`metadataText` writes the member that declares it.
-/

namespace PersistLayer.Client

open Schema Syntax

/-! ## Descriptions -/

/-- An entry for a field: a column of the entity's own table, or a field that is
reached through a relation. -/
inductive FieldEntry where
  | column (name : String)
  | related (relation field : String)
  deriving Repr, DecidableEq

/-- The join behind a relation.  A column of the target stands opposite each
column of the entity's own table. -/
structure Join where
  relation : String
  target : String
  targetTable : String
  targetColumns : List String
  ownColumns : List String
  cardinality : Cardinality
  deriving Repr, DecidableEq

/-- What the client knows of an entity. -/
structure Description where
  constant : String
  name : String
  table : String
  fields : List FieldEntry
  keys : List String
  joins : List Join
  deriving Repr, DecidableEq

/-- The relations of an entity whose targets are among the covered entities, with
their targets. -/
def coveredRelations (covered : List Entity) (entity : Entity) : List (Relation × Entity) :=
  entity.relations.filterMap fun relation =>
    (covered.find? fun target => target.name == relation.target).map fun target =>
      (relation, target)

/-- The entries for the fields of a relation's target. -/
def relatedEntries (relation : Relation) (target : Entity) : List FieldEntry :=
  target.fields.map fun field => .related relation.name field.name

/-- The join behind a relation.  The owner holds the columns and the target what
they refer to; on the other side it is the target that holds the columns. -/
def joinOf (relation : Relation) (target : Entity) : Join :=
  let columns := relation.foreignKeys.map ForeignKey.column
  let references := relation.foreignKeys.map ForeignKey.references
  { relation := relation.name
    target := target.name
    targetTable := target.tableName
    targetColumns := if relation.isOwner then references else columns
    ownColumns := if relation.isOwner then columns else references
    cardinality := relation.cardinality }

/-- The description of an entity among the covered ones. -/
def describe (covered : List Entity) (entity : Entity) : Description :=
  let relations := coveredRelations covered entity
  { constant := entity.constantName
    name := entity.name
    table := entity.tableName
    fields :=
      entity.fields.map (fun field => .column field.name) ++
        relations.flatMap fun (relation, target) => relatedEntries relation target
    keys := entity.keyFields.map Field.name
    joins := relations.map fun (relation, target) => joinOf relation target }

/-! ## Text -/

/-- Adds a comma to every text but the last. -/
def withCommas : List String → List String
  | [] => []
  | [last] => [last]
  | text :: rest => (text ++ ",") :: withCommas rest

/-- The entry of a field. -/
def FieldEntry.text : FieldEntry → String
  | column name => quotedName name ++ ": \x7bcolumnName: " ++ stringLiteral name ++ "\x7d"
  | related relation field =>
    stringLiteral (relation ++ "." ++ field) ++ ": \x7brelation: \x7bentityName: " ++
      stringLiteral relation ++ ", refField: " ++ stringLiteral field ++ "\x7d\x7d"

/-- The name of a kind of join. -/
def joinKind : Cardinality → String
  | .one => "ONE_TO_ONE"
  | .many => "ONE_TO_MANY"

/-- The entry of a join. -/
def Join.text (join : Join) : String :=
  quotedName join.relation ++ ": \x7bentity: " ++ join.target ++ ", fieldName: \"" ++
    join.relation ++ "\", refTable: \"" ++ join.targetTable ++ "\", refColumns: [" ++
    commaList (join.targetColumns.map stringLiteral) ++ "], joinColumns: [" ++
    commaList (join.ownColumns.map stringLiteral) ++ "], 'type: psql:" ++
    joinKind join.cardinality ++ "\x7d"

/-- The lines of the joins of an entity, none when it has no joins. -/
def joinLines (joins : List Join) : List String :=
  if joins.isEmpty then []
  else
    ["        joinMetadata: \x7b"] ++
      withCommas (joins.map fun join => "            " ++ join.text) ++ ["        \x7d"]

/-- The entry of an entity. -/
def Description.text (description : Description) : String :=
  textOfLines
    (["    [" ++ description.constant ++ "]: \x7b",
      "        entityName: \"" ++ description.name ++ "\",",
      "        tableName: \"" ++ description.table ++ "\",",
      "        fieldMetadata: \x7b"] ++
    withCommas (description.fields.map fun entry => "            " ++ entry.text) ++
    ["        \x7d,",
      "        keyFields: [" ++ commaList (description.keys.map stringLiteral) ++ "]" ++
        (if description.joins.isEmpty then "" else ",")] ++
    joinLines description.joins ++ ["    \x7d"])

/-- The member that declares the metadata. -/
def metadataText (descriptions : List Description) : String :=
  textOfLines
    (["private final record \x7b|psql:SQLMetadata...;|\x7d & readonly metadata = \x7b"] ++
      withCommas (descriptions.map Description.text) ++ ["\x7d;"])

end PersistLayer.Client
