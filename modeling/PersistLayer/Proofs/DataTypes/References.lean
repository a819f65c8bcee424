import PersistLayer.Proofs.DataTypes

/-!
# What the data types refer to

A type definition mentions other types in two ways.  The fields of an entity have the types
that the data model gives to them, and nothing says that these are defined anywhere.  All
other mentions are put in by the generator: the record that another one includes, the
records a relation leads to, and the type that another one stands for.  These are all
defined in the file, since relations that lead out of the data model are left out
(`mentions_of_member`).

So only the fields of entities can bring in types of the `time` module, and the file imports
that module exactly when some definition mentions it (`imports_time_iff`).
-/

namespace PersistLayer.Syntax

/-! ## Mentions -/

mutual

/-- The named types that a type descriptor is made of, each behind the module that it is
qualified with. -/
def TypeDesc.mentions : TypeDesc → List (Option String × String)
  | .named scope name => [(scope, name)]
  | .optional inner => inner.mentions
  | .array inner => inner.mentions
  | .union members => TypeDesc.mentionsAll members
  | .tuple members => TypeDesc.mentionsAll members
  | .stream row completion => row.mentions ++ completion.mentions
  | .typedesc inner => inner.mentions
  | .openRecord => []

/-- The named types that several type descriptors are made of. -/
def TypeDesc.mentionsAll : List TypeDesc → List (Option String × String)
  | [] => []
  | type :: rest => type.mentions ++ TypeDesc.mentionsAll rest

end

namespace TypeDesc

@[simp]
theorem mentions_plain (name : String) : (plain name).mentions = [(none, name)] := by
  simp [plain, mentions]

@[simp]
theorem mentions_array (type : TypeDesc) : (array type).mentions = type.mentions := by
  simp [mentions]

@[simp]
theorem mentions_optional (type : TypeDesc) : (optional type).mentions = type.mentions := by
  simp [mentions]

@[simp]
theorem mentions_typedesc (type : TypeDesc) : (typedesc type).mentions = type.mentions := by
  simp [mentions]

end TypeDesc

/-- The named types of a field or of an inclusion. -/
def RecordField.mentions : RecordField → List (Option String × String)
  | .field _ type _ _ => type.mentions
  | .inclusion type => type.mentions

/-- The named types that a type is defined with. -/
def TypeBody.mentions : TypeBody → List (Option String × String)
  | .record fields => fields.flatMap RecordField.mentions
  | .synonym type => type.mentions

end PersistLayer.Syntax

namespace PersistLayer.DataTypes

open Schema Syntax

/-! ## What is defined for an entity -/

/-- The relations of an entity that lead to an entity of the data model, by its name. -/
def innerRelations (model : DataModel) (entity : Entity) : List Relation :=
  entity.relations.filter fun relation => relation.target ∈ model.entities.map Entity.name

theorem liveRelations_eq (model : DataModel) (entity : Entity) :
    liveRelations model entity = innerRelations model entity := by
  refine List.filter_congr fun relation _ => ?_
  rw [Bool.eq_iff_iff]
  simp [DataModel.entity?, List.find?_isSome]

/-- The definitions that a file holds for an entity. -/
structure Defines (file : SourceFile) (model : DataModel) (entity : Entity) : Prop where
  /-- All fields as they are stored, those of the key readonly. -/
  stored : .type entity.name (.record (entity.fields.map fun field =>
    .field field.isKey field.typeDesc field.name false)) ∈ file.members
  /-- All fields, any of which may be absent. -/
  optionalized : .type (entity.name ++ "Optionalized") (.record (entity.fields.map fun field =>
    .field false field.typeDesc field.name true)) ∈ file.members
  /-- The fields outside the key, any of which may be absent. -/
  update : .type (entity.name ++ "Update")
    (.record ((entity.fields.filter fun field => !field.isKey).map fun field =>
      .field false field.typeDesc field.name true)) ∈ file.members
  insert : .type (entity.name ++ "Insert") (.synonym (.plain entity.name)) ∈ file.members
  related : innerRelations model entity ≠ [] →
    .type (entity.name ++ "WithRelations")
        (.record (.inclusion (.plain (entity.name ++ "Optionalized")) ::
          (innerRelations model entity).map relationField)) ∈ file.members ∧
      .type (entity.name ++ "TargetType")
        (.synonym (.typedesc (.plain (entity.name ++ "WithRelations")))) ∈ file.members
  unrelated : innerRelations model entity = [] →
    .type (entity.name ++ "TargetType")
      (.synonym (.typedesc (.plain (entity.name ++ "Optionalized")))) ∈ file.members

section Entity

variable {model : DataModel} {file : SourceFile} {entity : Entity}
  (hmembers : file.members = members model) (hentity : entity ∈ model.entities)

include hmembers hentity

theorem mem_of_mem_entityTypes {definition : ModuleMember}
    (hdefinition : definition ∈ entityTypes model entity) : definition ∈ file.members := by
  rw [hmembers, members]
  exact List.mem_append_right _ (List.mem_flatMap.mpr ⟨entity, hentity, hdefinition⟩)

/-- The file defines every type of an entity. -/
theorem defines_of_mem : Defines file model entity := by
  have hmem : ∀ definition ∈ entityTypes model entity, definition ∈ file.members :=
    fun _ => mem_of_mem_entityTypes hmembers hentity
  have hlive := liveRelations_eq model entity
  refine ⟨hmem _ ?_, hmem _ ?_, hmem _ ?_, hmem _ ?_, fun hrelated => ?_, fun hunrelated => ?_⟩
  · exact List.mem_append_left _ (List.mem_append_left _ List.mem_cons_self)
  · exact List.mem_append_left _ (List.mem_append_left _
      (List.mem_cons_of_mem _ List.mem_cons_self))
  · simp [entityTypes, updateName, Entity.nonKeyFields, absentableField]
  · simp [entityTypes, insertName]
  · refine ⟨hmem _ ?_, hmem _ ?_⟩
    all_goals
      simp [entityTypes, hlive, hrelated, withRelationsName, targetTypeName, optionalizedName]
  · refine hmem _ ?_
    simp [entityTypes, hlive, hunrelated, targetTypeName, optionalizedName]

/-- The names of an entity's types are declared. -/
theorem mem_declaredNames {name : String}
    (hname : name = entity.name ∨ name ∈ derivedNames model entity) :
    name ∈ file.declaredNames := by
  rw [(declaredNames_perm hmembers).mem_iff, List.mem_append, sourceNames, List.mem_append]
  rcases hname with rfl | hderived
  · exact .inl (.inl (List.mem_map_of_mem hentity))
  · exact .inr (List.mem_flatMap.mpr ⟨entity, hentity, hderived⟩)

end Entity

/-! ## What the definitions mention -/

/-- The record holds fields of one entity, each under its name and with its type, and
nothing else. -/
def HoldsFields (model : DataModel) (body : TypeBody) : Prop :=
  ∃ entity ∈ model.entities, ∃ held : List Field, held.Sublist entity.fields ∧
    (body = .record (held.map storedField) ∨ body = .record (held.map absentableField))

/-- The types that are mentioned are defined in the file itself. -/
def MentionsDeclared (file : SourceFile) (body : TypeBody) : Prop :=
  ∀ mention ∈ body.mentions, ∃ name ∈ file.declaredNames, mention = (none, name)

theorem mentions_relationField (relation : Relation) :
    (relationField relation).mentions = [(none, optionalizedName relation.target)] := by
  cases hcardinality : relation.cardinality <;>
    simp [relationField, RecordField.mentions, hcardinality]

theorem mentions_fieldTypeDesc (field : Field) :
    field.typeDesc.mentions = field.type.typeDesc.mentions := by
  unfold Field.typeDesc
  split_ifs <;> simp

/-- The type of a field mentions the `time` module when it is one of that module's types. -/
theorem mentions_time_iff {type : FieldType} :
    (∃ name, (some "time", name) ∈ type.typeDesc.mentions) ↔ type.isTime = true := by
  cases type <;>
    simp [FieldType.typeDesc, FieldType.isTime, TypeDesc.qualified, TypeDesc.plain,
      TypeDesc.mentions]

section Members

variable {model : DataModel} {file : SourceFile} (hmembers : file.members = members model)

include hmembers

/-- A definition for an entity holds fields, or all that it mentions is defined. -/
theorem mentions_of_mem_entityTypes {entity : Entity} (hentity : entity ∈ model.entities)
    {name : String} {body : TypeBody} (hmem : .type name body ∈ entityTypes model entity) :
    HoldsFields model body ∨ MentionsDeclared file body := by
  have hown : ∀ {name}, name = entity.name ∨ name ∈ derivedNames model entity →
      name ∈ file.declaredNames := mem_declaredNames hmembers hentity
  have hone : ∀ {type : TypeBody} {name : String}, type.mentions = [(none, name)] →
      name ∈ file.declaredNames → MentionsDeclared file type := by
    intro type name hmentions hdeclared mention hmention
    rw [hmentions, List.mem_singleton] at hmention
    exact ⟨name, hdeclared, hmention⟩
  simp only [entityTypes, List.mem_append, List.mem_cons, List.not_mem_nil, or_false,
    ModuleMember.type.injEq] at hmem
  rcases hmem with ((⟨-, rfl⟩ | ⟨-, rfl⟩) | hrelated) | (⟨-, rfl⟩ | ⟨-, rfl⟩ | ⟨-, rfl⟩)
  · exact .inl ⟨entity, hentity, entity.fields, List.Sublist.refl _, .inl rfl⟩
  · exact .inl ⟨entity, hentity, entity.fields, List.Sublist.refl _, .inr rfl⟩
  · -- the record with relations includes another one and leads to those of known entities
    split_ifs at hrelated with hnone
    · cases hrelated
    obtain ⟨-, rfl⟩ := ModuleMember.type.inj (List.mem_singleton.mp hrelated)
    refine .inr fun mention hmention => ?_
    rw [TypeBody.mentions, List.flatMap_cons, List.mem_append] at hmention
    rcases hmention with hincluded | hfield
    · refine ⟨_, hown (.inr ?_), by simpa [RecordField.mentions] using hincluded⟩
      simp [derivedNames]
    · -- the field of a relation has the type for partial records of its target
      obtain ⟨_, hmem, hmention⟩ := List.mem_flatMap.mp hfield
      obtain ⟨relation, hrelation, rfl⟩ := List.mem_map.mp hmem
      rw [mentions_relationField, List.mem_singleton] at hmention
      rw [liveRelations_eq, innerRelations, List.mem_filter, decide_eq_true_eq, List.mem_map]
        at hrelation
      obtain ⟨-, target, htarget, hsame⟩ := hrelation
      refine ⟨_, mem_declaredNames hmembers htarget (.inr ?_), hmention⟩
      simp [derivedNames, hsame]
  · refine .inr (hone (TypeDesc.mentions_typedesc _ |>.trans (TypeDesc.mentions_plain _)) ?_)
    refine hown (.inr ?_)
    split_ifs with hnone <;> simp [derivedNames, hnone]
  · exact .inr (hone (TypeDesc.mentions_plain _) (hown (.inl rfl)))
  · exact .inl ⟨entity, hentity, entity.nonKeyFields, List.filter_sublist, .inr rfl⟩

/-- **What the definitions mention.**  A definition holds fields of an entity, or all types
that it mentions are defined in the file. -/
theorem mentions_of_member {name : String} {body : TypeBody}
    (hmem : .type name body ∈ file.members) :
    HoldsFields model body ∨ MentionsDeclared file body := by
  rw [hmembers, members, List.mem_append] at hmem
  rcases hmem with henum | htype
  · obtain ⟨_, -, hsame⟩ := List.mem_map.mp henum
    cases hsame
  · obtain ⟨entity, hentity, hmem⟩ := List.mem_flatMap.mp htype
    exact mentions_of_mem_entityTypes hmembers hentity hmem

end Members

/-! ## The import -/

theorem usesTime_iff {model : DataModel} : usesTime model = true ↔
    ∃ entity ∈ model.entities, ∃ field ∈ entity.fields, field.type.isTime = true := by
  simp [usesTime]

/-- The types of fields are all that a record of fields mentions. -/
theorem mem_mentions_of_holdsFields {model : DataModel} {body : TypeBody}
    (hholds : HoldsFields model body) {mention : Option String × String}
    (hmention : mention ∈ body.mentions) :
    ∃ entity ∈ model.entities, ∃ field ∈ entity.fields, mention ∈ field.type.typeDesc.mentions := by
  obtain ⟨entity, hentity, held, hsublist, hbody⟩ := hholds
  have hfield : ∃ field ∈ held, mention ∈ field.typeDesc.mentions := by
    rcases hbody with rfl | rfl
    all_goals
      obtain ⟨_, hmem, hmention⟩ := List.mem_flatMap.mp hmention
      obtain ⟨field, hfield, rfl⟩ := List.mem_map.mp hmem
      exact ⟨field, hfield, hmention⟩
  obtain ⟨field, hmem, hmention⟩ := hfield
  exact ⟨entity, hentity, field, hsublist.subset hmem, mentions_fieldTypeDesc field ▸ hmention⟩

/-- The module that a file imports is the `time` module. -/
def ImportsTime (file : SourceFile) : Prop :=
  ∃ entry ∈ file.imports, entry.org = "ballerina" ∧ entry.moduleName = "time"

/-- **The `time` module is imported when it is mentioned.** -/
theorem imports_time_iff {model : DataModel} {file : SourceFile}
    (hfile : generate model = some file) (hmembers : file.members = members model) :
    ImportsTime file ↔ ∃ name body, .type name body ∈ file.members ∧
      ∃ type, (some "time", type) ∈ body.mentions := by
  have himports : ImportsTime file ↔ usesTime model = true := by
    unfold generate at hfile
    split_ifs at hfile with _ htime
    all_goals
      obtain rfl := Option.some.inj hfile
      simp [ImportsTime, htime]
  rw [himports, usesTime_iff]
  constructor
  · rintro ⟨entity, hentity, field, hfield, htime⟩
    obtain ⟨type, hmention⟩ := mentions_time_iff.mpr htime
    refine ⟨_, _, (defines_of_mem hmembers hentity).stored, type, ?_⟩
    refine List.mem_flatMap.mpr ⟨_, List.mem_map_of_mem hfield, ?_⟩
    rw [RecordField.mentions, mentions_fieldTypeDesc]
    exact hmention
  · rintro ⟨name, body, hmem, type, hmention⟩
    -- what is declared is mentioned without a module, so only a field can be meant
    rcases mentions_of_member hmembers hmem with hholds | hdeclared
    · obtain ⟨entity, hentity, field, hfield, hfound⟩ :=
        mem_mentions_of_holdsFields hholds hmention
      exact ⟨entity, hentity, field, hfield, mentions_time_iff.mp ⟨type, hfound⟩⟩
    · obtain ⟨_, -, hsame⟩ := hdeclared _ hmention
      cases hsame

end PersistLayer.DataTypes
