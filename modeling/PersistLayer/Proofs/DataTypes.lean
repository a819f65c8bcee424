import Mathlib.Data.List.Nodup
import Mathlib.Data.List.Perm.Basic
import PersistLayer.DataTypes

/-!
# What the file of data types declares

The file declares the enumerations under their own names, and for each entity a type
under the name of the entity and four or five more, whose names are that name with a
suffix.  No suffix ends in another, so a name with a suffix can be taken apart in one way
only: however the entities are named, no two of the names with a suffix are the same
(`nodup_derivedNames`).

The record with related records has, besides what it includes, one field for each relation
that leads to an entity of the data model (`relationFieldNames_eq`).
-/

namespace PersistLayer.Syntax

/-- The name under which a member of a module is declared.  Free text has none. -/
def ModuleMember.declared : ModuleMember → Option String
  | const name _ => some name
  | enum name _ => some name
  | type name _ => some name
  | classDef definition => some definition.name
  | function found => some found.name
  | snippet _ => none

/-- The names that a file declares, in order. -/
def SourceFile.declaredNames (file : SourceFile) : List String :=
  file.members.filterMap ModuleMember.declared

/-- The body of the type that a member defines under a name. -/
def ModuleMember.bodyOf (wanted : String) : ModuleMember → Option TypeBody
  | type name body => if name = wanted then some body else none
  | _ => none

/-- The name of a record field.  An inclusion has none. -/
def RecordField.named : RecordField → Option String
  | field _ _ name _ => some name
  | inclusion _ => none

/-- The names of the fields that a record has besides those it includes. -/
def TypeBody.fieldNames : TypeBody → List String
  | record fields => fields.filterMap RecordField.named
  | synonym _ => []

end PersistLayer.Syntax

namespace PersistLayer.DataTypes

open Schema Syntax

/-! ## Suffixes -/

/-- What is put behind the name of an entity to name a type. -/
def suffixes : List String := ["Optionalized", "WithRelations", "TargetType", "Insert", "Update"]

/-- No suffix ends in another, so the name in front of it is known. -/
theorem append_suffix_inj {first second suffix other : String} (hsuffix : suffix ∈ suffixes)
    (hother : other ∈ suffixes) (hsame : first ++ suffix = second ++ other) :
    first = second ∧ suffix = other := by
  have hends : ∀ one ∈ suffixes, ∀ two ∈ suffixes, one.toList <:+ two.toList → one = two := by
    decide +kernel
  have hlists : first.toList ++ suffix.toList = second.toList ++ other.toList := by
    rw [← String.toList_append, ← String.toList_append, hsame]
  have hlonger : suffix.toList <:+ other.toList ∨ other.toList <:+ suffix.toList :=
    List.suffix_or_suffix_of_suffix ⟨first.toList, hlists⟩ (List.suffix_append _ _)
  have heq : suffix = other := by
    rcases hlonger with hinside | hinside
    · exact hends _ hsuffix _ hother hinside
    · exact (hends _ hother _ hsuffix hinside).symm
  subst heq
  exact ⟨String.toList_inj.mp (List.append_cancel_right hlists), rfl⟩

/-! ## Names -/

/-- The names of the types for an entity besides the entity's own. -/
def derivedNames (model : DataModel) (entity : Entity) : List String :=
  let withRelations :=
    if (liveRelations model entity).isEmpty then [] else [withRelationsName entity.name]
  [optionalizedName entity.name] ++ withRelations ++
    [targetTypeName entity.name, insertName entity.name, updateName entity.name]

section Entity

variable {model : DataModel} {entity : Entity}

theorem derivedNames_eq_map (model : DataModel) (entity : Entity) :
    ∃ used : List String, used.Sublist suffixes ∧
      derivedNames model entity = used.map (entity.name ++ ·) := by
  cases hlive : (liveRelations model entity).isEmpty with
  | true =>
      exact ⟨["Optionalized", "TargetType", "Insert", "Update"], by decide, by
        simp [derivedNames, hlive, optionalizedName, targetTypeName, insertName, updateName]⟩
  | false =>
      exact ⟨suffixes, List.Sublist.refl _, by
        simp [derivedNames, hlive, suffixes, optionalizedName, withRelationsName, targetTypeName,
          insertName, updateName]⟩

theorem exists_suffix_of_mem_derivedNames {name : String} (hname : name ∈ derivedNames model entity) :
    ∃ suffix ∈ suffixes, name = entity.name ++ suffix := by
  obtain ⟨used, hused, hnames⟩ := derivedNames_eq_map model entity
  rw [hnames] at hname
  obtain ⟨suffix, hsuffix, rfl⟩ := List.mem_map.mp hname
  exact ⟨suffix, hused.subset hsuffix, rfl⟩

theorem declared_entityTypes (model : DataModel) (entity : Entity) :
    (entityTypes model entity).filterMap ModuleMember.declared =
      entity.name :: derivedNames model entity := by
  cases hlive : (liveRelations model entity).isEmpty <;>
    simp [entityTypes, derivedNames, hlive, ModuleMember.declared]

end Entity

/-- The names of the fields for related records.  Without such a record there are none. -/
def relationFieldNames (model : DataModel) (entity : Entity) : List String :=
  let body? := (entityTypes model entity).findSome?
    (ModuleMember.bodyOf (withRelationsName entity.name))
  body?.elim [] TypeBody.fieldNames

/-- **The fields for related records** are the relations that lead to an entity of the data
model, in order. -/
theorem relationFieldNames_eq (model : DataModel) (entity : Entity) :
    relationFieldNames model entity = (liveRelations model entity).map Relation.name := by
  -- no other type of the entity has the name of the one with its relations
  have hname : entity.name ≠ withRelationsName entity.name := by
    intro hsame
    have hlength := congrArg String.length hsame
    simp [withRelationsName] at hlength
  have hsuffix : ∀ suffix ∈ suffixes, suffix ≠ "WithRelations" →
      entity.name ++ suffix ≠ withRelationsName entity.name := fun suffix hmem hother hsame =>
    hother (append_suffix_inj hmem (by decide) hsame).2
  have hoptionalized : optionalizedName entity.name ≠ withRelationsName entity.name :=
    hsuffix _ (by decide) (by decide)
  have htarget : targetTypeName entity.name ≠ withRelationsName entity.name :=
    hsuffix _ (by decide) (by decide)
  have hinsert : insertName entity.name ≠ withRelationsName entity.name :=
    hsuffix _ (by decide) (by decide)
  have hupdate : updateName entity.name ≠ withRelationsName entity.name :=
    hsuffix _ (by decide) (by decide)
  have hfields (type : TypeDesc) (relations : List Relation) :
      (RecordField.inclusion type :: relations.map relationField).filterMap RecordField.named =
        relations.map Relation.name := by
    rw [List.filterMap_cons_none rfl, List.filterMap_map, ← List.filterMap_eq_map]
    rfl
  cases hlive : (liveRelations model entity).isEmpty with
  | true =>
      rw [List.isEmpty_iff.mp hlive]
      simp [relationFieldNames, entityTypes, hlive, ModuleMember.bodyOf, hname, hoptionalized,
        htarget, hinsert, hupdate]
  | false =>
      simp [relationFieldNames, entityTypes, hlive, ModuleMember.bodyOf, hname, hoptionalized,
        TypeBody.fieldNames, hfields]

/-- **No two names with a suffix are the same**, if the entities have different names. -/
theorem nodup_derivedNames {model : DataModel} (hnames : (model.entities.map Entity.name).Nodup) :
    (model.entities.flatMap (derivedNames model)).Nodup := by
  have hsuffixes : suffixes.Nodup := by decide
  rw [List.nodup_flatMap]
  refine ⟨?_, ?_⟩
  · -- one entity: its suffixes differ
    intro entity _
    obtain ⟨used, hused, hderived⟩ := derivedNames_eq_map model entity
    rw [hderived]
    refine (hsuffixes.sublist hused).map_on ?_
    intro suffix hsuffix other hother hsame
    exact (append_suffix_inj (hused.subset hsuffix) (hused.subset hother) hsame).2
  · -- two entities: what stands in front of the suffixes differs
    refine (List.pairwise_map.mp hnames).imp ?_
    intro first second hdifferent name hfirst hsecond
    obtain ⟨suffix, hsuffix, rfl⟩ := exists_suffix_of_mem_derivedNames hfirst
    obtain ⟨other, hother, hsame⟩ := exists_suffix_of_mem_derivedNames hsecond
    exact hdifferent (append_suffix_inj hsuffix hother hsame).1

/-! ## The file -/

/-- The names that the data model gives to its entities and enumerations. -/
def sourceNames (model : DataModel) : List String :=
  model.entities.map Entity.name ++ model.enumerations.map Enumeration.name

/-- The members of the file. -/
def members (model : DataModel) : List ModuleMember :=
  model.enumerations.map (fun enumeration =>
    ModuleMember.enum enumeration.name enumeration.members) ++
  model.entities.flatMap (entityTypes model)

/-- A data model with entities has a file of data types. -/
theorem exists_file_of_ne_nil {model : DataModel} (hne : model.entities ≠ []) :
    ∃ file, generate model = some file ∧ file.members = members model := by
  have hisEmpty : model.isEmpty = false := by simp [DataModel.isEmpty, hne]
  cases htime : usesTime model <;> simp [generate, hisEmpty, htime, members]

/-- The types of an entity stand together. -/
theorem members_eq_append {model : DataModel} {entity : Entity} (hentity : entity ∈ model.entities) :
    ∃ before after, members model = before ++ entityTypes model entity ++ after := by
  obtain ⟨front, back, hsplit⟩ := List.append_of_mem hentity
  -- the enumerations and the entities in front, and the entities behind
  refine ⟨model.enumerations.map (fun enumeration =>
      ModuleMember.enum enumeration.name enumeration.members) ++ front.flatMap (entityTypes model),
    back.flatMap (entityTypes model), ?_⟩
  rw [members, hsplit, List.flatMap_append, List.flatMap_cons, List.append_assoc, List.append_assoc]

/-- **The file declares the names of the data model and those with a suffix**, each as often
as it is given. -/
theorem declaredNames_perm {model : DataModel} {file : SourceFile}
    (hmembers : file.members = members model) :
    file.declaredNames.Perm (sourceNames model ++ model.entities.flatMap (derivedNames model)) := by
  have henums : (model.enumerations.map fun enumeration =>
      ModuleMember.enum enumeration.name enumeration.members).filterMap ModuleMember.declared =
        model.enumerations.map Enumeration.name := by
    rw [List.filterMap_map, ← List.filterMap_eq_map]
    rfl
  have htypes : (model.entities.flatMap (entityTypes model)).filterMap ModuleMember.declared =
      model.entities.flatMap fun entity => entity.name :: derivedNames model entity := by
    rw [List.filterMap_flatMap]
    exact List.flatMap_congr fun entity _ => declared_entityTypes model entity
  have hsplit : (model.entities.flatMap fun entity =>
      entity.name :: derivedNames model entity).Perm
        (model.entities.map Entity.name ++ model.entities.flatMap (derivedNames model)) :=
    (List.map_append_flatMap_perm _ _ _).symm
  have hdeclared : file.declaredNames = model.enumerations.map Enumeration.name ++
      model.entities.flatMap fun entity => entity.name :: derivedNames model entity := by
    rw [SourceFile.declaredNames, hmembers, members, List.filterMap_append, henums, htypes]
  rw [hdeclared, sourceNames]
  refine (hsplit.append_left _).trans ?_
  rw [← List.append_assoc]
  exact List.perm_append_comm.append_right _

/-- The file of data types declares a name twice only if a name with a suffix is one of the
data model. -/
theorem nodup_sourceNames_append_iff {model : DataModel} (hnames : (sourceNames model).Nodup) :
    (sourceNames model ++ model.entities.flatMap (derivedNames model)).Nodup ↔
      ∀ entity ∈ model.entities, ∀ name ∈ derivedNames model entity, name ∉ sourceNames model := by
  have hderived := nodup_derivedNames (List.nodup_append.mp hnames).1
  rw [List.nodup_append, and_iff_right hnames, and_iff_right hderived]
  constructor
  · intro hdisjoint entity hentity name hname hmem
    exact hdisjoint name hmem name (List.mem_flatMap.mpr ⟨entity, hentity, hname⟩) rfl
  · rintro hsuffixed name hmem _ hname rfl
    obtain ⟨entity, hentity, hderivedName⟩ := List.mem_flatMap.mp hname
    exact hsuffixed entity hentity name hderivedName hmem

end PersistLayer.DataTypes
