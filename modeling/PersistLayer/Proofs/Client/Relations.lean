import PersistLayer.Proofs.Client.Outcome
import PersistLayer.Proofs.DataTypes

/-!
# Relations in the two files

A relation of an entity appears twice: as a field of its record with related records, in
the file of data types, and as a join in the metadata of the client.  The data types
are made for all entities of the data model, so there a relation needs no more than a
target in the data model.  The client joins only entities that it covers.

So the joins of an entity are those of its fields for related records whose targets are
covered, in the same order, and the two files agree on an entity exactly when no relation
leads from it to an entity that the client skips (`joins_agree_with_fields`).
-/

namespace PersistLayer.Client

open Schema Syntax DataTypes

/-- The client covers an entity of the given name. -/
def Covers (model : DataModel) (name : String) : Prop :=
  ∃ target ∈ covered model, target.name = name

instance (model : DataModel) (name : String) : Decidable (Covers model name) :=
  inferInstanceAs (Decidable (∃ target ∈ covered model, target.name = name))

/-- The relations that have an entry among the joins of an entity, in order. -/
def joinedRelations (model : DataModel) (entity : Entity) : List String :=
  (describe (covered model) entity).joins.map Join.relation

section Model

variable {model : DataModel} {entity : Entity}

/-- What the client covers is part of the data model. -/
theorem Covers.isSome {name : String} (hcovers : Covers model name) :
    (model.entity? name).isSome = true := by
  obtain ⟨target, htarget, rfl⟩ := hcovers
  rw [DataModel.entity?, List.find?_isSome]
  exact ⟨target, (List.mem_filter.mp htarget).1, beq_self_eq_true _⟩

theorem joinedRelations_eq_filter : joinedRelations model entity =
    (entity.relations.filter fun relation => Covers model relation.target).map Relation.name := by
  have hnames : joinedRelations model entity =
      ((coveredRelations (covered model) entity).map Prod.fst).map Relation.name := by
    simp only [joinedRelations, describe, List.map_map]
    rfl
  rw [hnames, map_fst_coveredRelations]
  refine congrArg (List.map Relation.name) (List.filter_congr fun relation _ => ?_)
  rw [Bool.eq_iff_iff, List.any_eq_true, decide_eq_true_iff]
  simp only [Covers, beq_iff_eq]

/-- **The joins of an entity** are its fields for related records whose targets are covered. -/
theorem joinedRelations_eq_filter_liveRelations : joinedRelations model entity =
    ((liveRelations model entity).filter fun relation =>
      Covers model relation.target).map Relation.name := by
  rw [joinedRelations_eq_filter, liveRelations, List.filter_filter]
  refine congrArg (List.map Relation.name) (List.filter_congr ?_)
  intro relation _
  by_cases hcovers : Covers model relation.target
  · simp [hcovers, hcovers.isSome]
  · simp [hcovers]

theorem joinedRelations_eq_relationFieldNames_iff :
    joinedRelations model entity = relationFieldNames model entity ↔
      ∀ relation ∈ liveRelations model entity, Covers model relation.target := by
  rw [joinedRelations_eq_filter_liveRelations, relationFieldNames_eq]
  constructor
  · intro hsame
    -- a filter that keeps the number keeps all
    have hlength := congrArg List.length hsame
    rw [List.length_map, List.length_map, List.length_filter_eq_length_iff] at hlength
    simpa using hlength
  · intro hall
    rw [List.filter_eq_self.mpr (by simpa using hall)]

end Model

/-! ## The entries of the joins -/

/-- The lines of an entity in the metadata, up to its key. -/
def Description.linesToKey (description : Description) : List String :=
  ["    [" ++ description.constant ++ "]: \x7b",
    "        entityName: \"" ++ description.name ++ "\",",
    "        tableName: \"" ++ description.table ++ "\",",
    "        fieldMetadata: \x7b"] ++
  withCommas (description.fields.map fun entry => "            " ++ entry.text) ++
  ["        \x7d,",
    "        keyFields: [" ++ commaList (description.keys.map stringLiteral) ++ "]" ++
      (if description.joins.isEmpty then "" else ",")]

/-- The lines of some joins: nothing at all, or the entries with commas between them. -/
def joinBlock : List String → List String
  | [] => []
  | first :: rest =>
    ["        joinMetadata: \x7b"] ++ withCommas (first :: rest) ++ ["        \x7d"]

/-- A line that begins the entry of a relation among the joins, which names the target. -/
def IsJoinEntry (relation target line : String) : Prop :=
  ∃ rest, line =
    "            " ++ quotedName relation ++ ": \x7bentity: " ++ target ++ ", fieldName: " ++ rest

theorem isJoinEntry_text (join : Join) :
    IsJoinEntry join.relation join.target ("            " ++ join.text) := by
  have hfieldName : ", fieldName: \"" = ", fieldName: " ++ "\"" := rfl
  refine ⟨"\"" ++ join.relation ++ "\", refTable: \"" ++ join.targetTable ++
    "\", refColumns: [" ++ commaList (join.targetColumns.map stringLiteral) ++
    "], joinColumns: [" ++ commaList (join.ownColumns.map stringLiteral) ++ "], 'type: psql:" ++
    joinKind join.cardinality ++ "\x7d", ?_⟩
  simp only [Join.text, hfieldName, String.append_assoc]

/-- **A join is written as an entry of its own**, and the joins in their order. -/
theorem exists_entries_of_joins (description : Description) :
    ∃ entries, description.text =
        textOfLines (description.linesToKey ++ joinBlock entries ++ ["    \x7d"]) ∧
      List.Forall₂ (fun join line => IsJoinEntry join.relation join.target line)
        description.joins entries := by
  refine ⟨description.joins.map fun join => "            " ++ join.text, ?_, ?_⟩
  · have hblock : joinLines description.joins =
        joinBlock (description.joins.map fun join => "            " ++ join.text) := by
      unfold joinLines
      cases description.joins with
      | nil => rfl
      | cons join rest => rfl
    rw [Description.text, hblock, Description.linesToKey]
  · rw [List.forall₂_map_right_iff, List.forall₂_same]
    exact fun join _ => isJoinEntry_text join

/-! ## Both files -/

section Generated

variable {flavour : Flavour} {model : DataModel} {client : ClientFile} {entity : Entity}

/-- The class of a client holds the metadata of the covered entities. -/
theorem exists_metadata_of_clientClass {entities : List Entity} {definition : ClassDef}
    (hdefinition : clientClass flavour entities = .ok definition) :
    ∃ metadata, ClassMember.field metadata ∈ definition.members ∧
      memberIn (metadataText (entities.map (describe entities))) = .ok metadata := by
  simp only [clientClass, fields, bind_eq_ok_iff, pure_eq_ok_iff, readFragment_eq_ok_iff]
    at hdefinition
  obtain ⟨_, ⟨_, -, _, -, _, -, metadata, hmetadata, rfl⟩, _, -, _, -, _, -, _, -, _, -, rfl⟩ :=
    hdefinition
  exact ⟨metadata, by simp, hmetadata⟩

/-- **The two files agree on the relations to covered entities.**  The fields for related
records, as the file of data types defines them for a covered entity, are its relations to
entities of the data model, and the joins in the metadata of the client, each an entry of its
own in the text of the entity, are those among them that lead to covered entities, in the same
order.  So they are the same exactly when all of these relations do. -/
theorem joins_agree_with_fields (hclient : generate flavour model = .ok client)
    (hentity : entity ∈ covered model) :
    ∃ types definition metadata,
      DataTypes.generate model = some types ∧
      (∃ before after, types.members = before ++ entityTypes model entity ++ after) ∧
      relationFieldNames model entity = (liveRelations model entity).map Relation.name ∧
      ModuleMember.classDef definition ∈ client.source.members ∧
      ClassMember.field metadata ∈ definition.members ∧
      memberIn (metadataText ((covered model).map (describe (covered model)))) = .ok metadata ∧
      (∃ entries, (describe (covered model) entity).text = textOfLines
          ((describe (covered model) entity).linesToKey ++ joinBlock entries ++ ["    \x7d"]) ∧
        List.Forall₂ (fun relation line => ∃ target, IsJoinEntry relation target line)
          (joinedRelations model entity) entries) ∧
      joinedRelations model entity =
        ((liveRelations model entity).filter fun relation =>
          Covers model relation.target).map Relation.name ∧
      (joinedRelations model entity = relationFieldNames model entity ↔
        ∀ relation ∈ liveRelations model entity, Covers model relation.target) := by
  obtain ⟨types, htypes, hmembers⟩ := exists_file_of_ne_nil (entities_ne_nil_of_generate hclient)
  obtain ⟨definition, hdefinition, hsource⟩ := exists_class_of_generate hclient
  obtain ⟨metadata, hfield, hmetadata⟩ := exists_metadata_of_clientClass hdefinition
  have hblock := members_eq_append (List.mem_filter.mp hentity).1
  rw [← hmembers] at hblock
  have hclass : ModuleMember.classDef definition ∈ client.source.members := by
    rw [hsource]
    simp
  obtain ⟨entries, htext, hentries⟩ := exists_entries_of_joins (describe (covered model) entity)
  have hnamed : List.Forall₂ (fun relation line => ∃ target, IsJoinEntry relation target line)
      (joinedRelations model entity) entries := by
    rw [joinedRelations, List.forall₂_map_left_iff]
    exact hentries.imp fun join line hentry => ⟨join.target, hentry⟩
  exact ⟨types, definition, metadata, htypes, hblock, relationFieldNames_eq _ _, hclass, hfield,
    hmetadata, ⟨entries, htext, hnamed⟩, joinedRelations_eq_filter_liveRelations,
    joinedRelations_eq_relationFieldNames_iff⟩

end Generated

/-- An entity with relations to itself, to an entity that is missing, to one that no client
covers and to one that all clients cover. -/
def staffModel : DataModel where
  name := "staff"
  entities :=
    [⟨"Employee", none, [⟨"id", .int, true, false, true⟩],
        [⟨"manager", "Employee", .one, true, [⟨"managerId", "id"⟩]⟩,
          ⟨"badge", "Badge", .one, true, [⟨"badgeId", "id"⟩]⟩,
          ⟨"photo", "Image", .one, true, [⟨"photoId", "id"⟩]⟩,
          ⟨"desks", "Desk", .many, false, [⟨"ownerId", "id"⟩]⟩]⟩,
      ⟨"Image", none,
        [⟨"id", .int, true, false, true⟩, ⟨"content", .other "Blob", false, false, false⟩], []⟩,
      ⟨"Desk", none, [⟨"id", .int, true, false, true⟩], []⟩]
  enumerations := []

theorem exists_client_staffModel :
    ∃ client, generate (.database .mysql "Client") staffModel = .ok client :=
  exists_client_of_checks (by decide) (by decide +kernel) (by decide) (by decide +kernel)

theorem joins_agree_staffModel : ∃ client entity,
    generate (.database .mysql "Client") staffModel = .ok client ∧
      entity ∈ covered staffModel ∧ entity.name = "Employee" ∧
      joinedRelations staffModel entity = ["manager", "desks"] := by
  obtain ⟨client, hclient⟩ := exists_client_staffModel
  have hcovered : staffModel.entities[0] ∈ covered staffModel := by decide
  obtain ⟨_, _, _, -, -, -, -, -, -, -, hjoins, -⟩ := joins_agree_with_fields hclient hcovered
  exact ⟨client, _, hclient, hcovered, rfl, hjoins.trans (by decide)⟩

/-- An entity has a field for the records of a skipped entity, which the client does not
join. -/
theorem photo_is_not_joined : ∃ client entity,
    generate (.database .mysql "Client") staffModel = .ok client ∧
      entity ∈ covered staffModel ∧ entity.name = "Employee" ∧
      "photo" ∈ relationFieldNames staffModel entity ∧
      "photo" ∉ joinedRelations staffModel entity := by
  obtain ⟨client, hclient⟩ := exists_client_staffModel
  exact ⟨client, staffModel.entities[0], hclient, by decide, rfl, by decide +kernel, by decide +kernel⟩

end PersistLayer.Client
