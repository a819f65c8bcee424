import PersistLayer.Proofs.Client.Outcome

/-!
# Skipped entities

An entity with a field that has no column type leaves no trace in the client.  It may
lack a key, share a name with a covered entity or be the target of its relations: the
client is the one of the data model that never had it.

Every check and every part of the file is made from the covered entities alone, so two
data models that cover the same entities are taken to the same source or refused with
the same error.  What remains is that leaving out the entities with an unsupported field
does not change what is covered.
-/

namespace PersistLayer.Client

open Schema Syntax

variable {flavour : Flavour} {model : DataModel}

/-- Some field of the entity has no column type. -/
def HasUnsupportedField (entity : Entity) : Prop :=
  ∃ field ∈ entity.fields, field.isSupported = false

instance : DecidablePred HasUnsupportedField := fun entity =>
  inferInstanceAs (Decidable (∃ field ∈ entity.fields, field.isSupported = false))

/-- The data model without the entities that have an unsupported field. -/
def withoutUnsupported (model : DataModel) : DataModel :=
  { model with entities := model.entities.filter fun entity => ¬ HasUnsupportedField entity }

theorem isSupported_eq (entity : Entity) :
    entity.isSupported = decide (¬ HasUnsupportedField entity) := by
  rw [Bool.eq_iff_iff]
  simp [Entity.isSupported, HasUnsupportedField]

theorem covered_eq_entities : covered model = (withoutUnsupported model).entities := by
  rw [covered, withoutUnsupported]
  exact List.filter_congr fun entity _ => isSupported_eq entity

/-- Leaving out what is not covered covers the same. -/
theorem covered_withoutUnsupported : covered (withoutUnsupported model) = covered model := by
  rw [covered_eq_entities, covered_eq_entities]
  simp [withoutUnsupported]

theorem skipped_eq : skipped model =
    (model.entities.filter fun entity => HasUnsupportedField entity).map fun entity =>
      ⟨entity.name,
        (entity.fields.filter fun field => field.isSupported = false).map Field.name⟩ := by
  have hremoved : model.entities.filter (fun entity => !entity.isSupported) =
      model.entities.filter fun entity => HasUnsupportedField entity :=
    List.filter_congr fun entity _ => by simp [isSupported_eq]
  rw [skipped, hremoved]
  simp [Entity.unsupportedFields]

/-! ## Two data models -/

/-- **The source depends on the covered entities only**, and so does the error. -/
theorem source_eq_of_covered_eq {other : DataModel} (hmodel : model.entities ≠ [])
    (hother : other.entities ≠ []) (hcovered : covered model = covered other) :
    (generate flavour model).map ClientFile.source =
      (generate flavour other).map ClientFile.source := by
  rw [generate_of_ne_nil hmodel, generate_of_ne_nil hother, hcovered]
  -- the two chains differ in the skipped entities alone, which the last step puts in
  cases checkKeys (covered other) with
  | error cause => simp only [bind, Except.bind]
  | ok _ =>
    cases checkCollisions (covered other) with
    | error cause => simp only [bind, Except.bind]
    | ok _ =>
      cases clientClass flavour (covered other) with
      | error cause => simp only [bind, Except.bind]
      | ok definition => rfl

theorem skipped_of_generate {file : ClientFile} (hmodel : model.entities ≠ [])
    (hfile : generate flavour model = .ok file) : file.skipped = skipped model := by
  simp only [generate_of_ne_nil hmodel, bind_eq_ok_iff, pure_eq_ok_iff] at hfile
  obtain ⟨-, -, -, -, definition, -, rfl⟩ := hfile
  rfl

/-- **Skipped entities have no influence on the client.**  With some entity covered, the
data model without the others gives the same source or the same error, and a client names
exactly the others, in their order, each with its unsupported fields. -/
theorem generate_withoutUnsupported
    (hcovered : ∃ entity ∈ model.entities, ∀ field ∈ entity.fields, field.isSupported = true) :
    (generate flavour model).map ClientFile.source =
        (generate flavour (withoutUnsupported model)).map ClientFile.source ∧
      ∀ file, generate flavour model = .ok file →
        file.skipped =
          (model.entities.filter fun entity => HasUnsupportedField entity).map fun entity =>
            ⟨entity.name,
              (entity.fields.filter fun field => field.isSupported = false).map Field.name⟩ := by
  obtain ⟨entity, hmem, hsupported⟩ := hcovered
  have hmodel : model.entities ≠ [] := List.ne_nil_of_mem hmem
  have hkept : entity ∈ (withoutUnsupported model).entities := by
    have hall : ¬ HasUnsupportedField entity := by
      rintro ⟨field, hfield, hunsupported⟩
      rw [hsupported field hfield] at hunsupported
      cases hunsupported
    exact List.mem_filter.mpr ⟨hmem, by simpa using hall⟩
  refine ⟨source_eq_of_covered_eq hmodel (List.ne_nil_of_mem hkept)
    covered_withoutUnsupported.symm, fun file hfile => ?_⟩
  rw [skipped_of_generate hmodel hfile, skipped_eq]

/-- A covered entity whose relation leads to a skipped one, a skipped one without a key,
and a skipped one with the name of the covered one's resource. -/
def shadowedModel : DataModel where
  name := "store"
  entities :=
    [⟨"Image", none, [⟨"content", .other "Blob", false, false, false⟩], []⟩,
      ⟨"Employee", none, [⟨"id", .int, true, false, true⟩],
        [⟨"photo", "Image", .one, true, [⟨"photoContent", "content"⟩]⟩]⟩,
      ⟨"EMPLOYEE", none,
        [⟨"id", .int, true, false, true⟩, ⟨"a", .other "xml", false, false, false⟩,
          ⟨"b", .other "json", false, true, false⟩], []⟩]
  enumerations := []

theorem skipped_shadowedModel :
    (∃ entity ∈ shadowedModel.entities, ∀ field ∈ entity.fields, field.isSupported = true) ∧
      ∃ file, generate .test shadowedModel = .ok file ∧
        file.skipped = [⟨"Image", ["content"]⟩, ⟨"EMPLOYEE", ["a", "b"]⟩] ∧
        (generate .test (withoutUnsupported shadowedModel)).map ClientFile.source =
          .ok file.source := by
  have hcovered : ∃ entity ∈ shadowedModel.entities, ∀ field ∈ entity.fields,
      field.isSupported = true := by decide
  have hkeys : ∀ entity, ¬ FirstKeyless shadowedModel entity :=
    find_keyless_eq_none_iff.mp (by decide)
  have hdistinct : ¬ Collide (covered shadowedModel) :=
    firstCollision_takenNames_eq_none_iff.mp (by decide +kernel)
  obtain ⟨file, hfile, -⟩ := exists_generate (by simp [shadowedModel]) hkeys .test
    (by decide +kernel) hdistinct
  obtain ⟨hsource, hskipped⟩ := generate_withoutUnsupported hcovered
  refine ⟨hcovered, file, hfile, (hskipped file hfile).trans (by decide), ?_⟩
  rw [← hsource, hfile]
  rfl

end PersistLayer.Client
