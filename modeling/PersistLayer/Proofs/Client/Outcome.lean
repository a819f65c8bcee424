import PersistLayer.Proofs.Client.Collisions
import PersistLayer.Proofs.Client.File

/-!
# What comes of generating a client

The checks come in a fixed order: first for entities at all, then for keys, then for
names that are taken twice.  A data model that passes them gets a client, whatever
its entities, fields and relations are called.
-/

namespace PersistLayer.Client

open Schema Syntax

variable {flavour : Flavour} {model : DataModel}

/-- The entity is the first covered one without a key. -/
structure FirstKeyless (model : DataModel) (entity : Entity) : Prop where
  split : ∃ before after, model.entities = before ++ entity :: after ∧
    ∀ other ∈ before, other.isSupported = true → other.keyFields ≠ []
  supported : entity.isSupported = true
  keyless : entity.keyFields = []

/-! ## The checks -/

theorem find_keyless_iff {entity : Entity} :
    ((covered model).find? fun entity => entity.keyFields.isEmpty) = some entity ↔
      FirstKeyless model entity := by
  rw [covered, List.find?_filter, List.find?_eq_some_iff_append]
  simp only [decide_eq_true_eq, List.isEmpty_iff, Bool.not_eq_true',
    decide_eq_false_iff_not, not_and]
  constructor
  · rintro ⟨⟨hsupported, hkeyless⟩, before, after, hsplit, hbefore⟩
    exact ⟨⟨before, after, hsplit, hbefore⟩, hsupported, hkeyless⟩
  · rintro ⟨⟨before, after, hsplit, hbefore⟩, hsupported, hkeyless⟩
    exact ⟨⟨hsupported, hkeyless⟩, before, after, hsplit, hbefore⟩

theorem checkKeys_of_keyless {entity : Entity} (hkeyless : FirstKeyless model entity) :
    checkKeys (covered model) = .error (.missingKey entity.name) := by
  rw [checkKeys, find_keyless_iff.mpr hkeyless]

theorem find_keyless_eq_none_iff :
    ((covered model).find? fun entity => entity.keyFields.isEmpty) = none ↔
      ∀ entity, ¬ FirstKeyless model entity := by
  rw [Option.eq_none_iff_forall_ne_some]
  exact forall_congr' fun entity => not_congr find_keyless_iff

theorem checkKeys_of_keys (hkeys : ∀ entity, ¬ FirstKeyless model entity) :
    checkKeys (covered model) = .ok () := by
  rw [checkKeys, find_keyless_eq_none_iff.mpr hkeys]

theorem checkCollisions_of_collide {entities : List Entity} (hcollide : Collide entities) :
    ∃ first second name, [first, second].Sublist entities ∧ SharesName first second name ∧
      checkCollisions entities = .error (.nameCollision first.name second.name name) := by
  obtain ⟨before, second, after, rfl, hdistinct, one, hone, name, hshares⟩ :=
    exists_first_collide hcollide
  obtain ⟨first, reported, hshared⟩ := exists_firstShared hdistinct hone hshares
  obtain ⟨hfirst, hname⟩ := (hshared.owner_iff first).mpr rfl
  refine ⟨first, second, reported, ?_, hname, checkCollisions_eq_error_iff.mpr
    ⟨before, first, second, after, reported, rfl, hshared, rfl⟩⟩
  exact (List.singleton_sublist.mpr hfirst).append ((List.nil_sublist after).cons_cons second)

theorem checkCollisions_of_not_collide {entities : List Entity} (hdistinct : ¬ Collide entities) :
    checkCollisions entities = .ok () :=
  checkCollisions_eq_ok_iff.mpr hdistinct

/-! ## Outcomes -/

theorem generate_of_empty (hempty : model.entities = []) :
    generate flavour model = .error (.emptySchema model.name) := by
  simp [generate, DataModel.isEmpty, hempty]
  rfl

section Entities

variable (hne : model.entities ≠ [])

include hne

/-- Behind the first check, the others come one after the other. -/
theorem generate_of_ne_nil : generate flavour model = (do
    checkKeys (covered model)
    checkCollisions (covered model)
    let definition ← clientClass flavour (covered model)
    return {
      source := ⟨imports flavour.policy, none,
        constants (covered model) ++ [.classDef definition]⟩
      skipped := skipped model }) := by
  simp [generate, DataModel.isEmpty, hne]

theorem generate_of_keyless {entity : Entity} (hkeyless : FirstKeyless model entity) :
    generate flavour model = .error (.missingKey entity.name) := by
  rw [generate_of_ne_nil hne, checkKeys_of_keyless hkeyless]
  rfl

variable (hkeys : ∀ entity, ¬ FirstKeyless model entity)

include hkeys

/-- **A collision is reported with two entities that share the reported name.** -/
theorem generate_of_collide (hcollide : Collide (covered model)) :
    ∃ first second name, [first, second].Sublist (covered model) ∧
      SharesName first second name ∧
      generate flavour model = .error (.nameCollision first.name second.name name) := by
  obtain ⟨first, second, name, hsublist, hshares, hcheck⟩ := checkCollisions_of_collide hcollide
  refine ⟨first, second, name, hsublist, hshares, ?_⟩
  rw [generate_of_ne_nil hne, checkKeys_of_keys hkeys, hcheck]
  rfl

/-- **A data model that passes all checks gets a client**, whose file has no fault. -/
theorem exists_generate (hoffered : flavour.IsOffered)
    (hnamed : ∀ entity ∈ model.entities, NamedEntity entity)
    (hdistinct : ¬ Collide (covered model)) :
    ∃ file, generate flavour model = .ok file ∧ faults file.source.render = [] := by
  have hcovered : ∀ entity ∈ covered model, NamedEntity entity := fun entity h =>
    hnamed entity (List.mem_filter.mp h).1
  obtain ⟨definition, hdefinition, hfaults⟩ := exists_faultless_file hoffered hcovered
  refine ⟨⟨_, skipped model⟩, ?_, hfaults⟩
  rw [generate_of_ne_nil hne, checkKeys_of_keys hkeys,
    checkCollisions_of_not_collide hdistinct, hdefinition]
  rfl

end Entities

/-- A data model has a client for a database when all checks, as they are computed, find
nothing. -/
theorem exists_client_of_checks {datasource : Datasource} (hne : model.entities ≠ [])
    (hnamed : ∀ entity ∈ model.entities, NamedEntity entity)
    (hkeyless : ((covered model).find? fun entity => entity.keyFields.isEmpty) = none)
    (hcollision : firstCollision [] ((covered model).flatMap takenNames) = none) :
    ∃ client, generate (.database datasource "Client") model = .ok client := by
  have hoffered : (Flavour.database datasource "Client").IsOffered :=
    .database datasource (by decide +kernel)
  have hkeys : ∀ entity, ¬ FirstKeyless model entity := find_keyless_eq_none_iff.mp hkeyless
  have hdistinct : ¬ Collide (covered model) :=
    firstCollision_takenNames_eq_none_iff.mp hcollision
  obtain ⟨client, hclient, -⟩ := exists_generate hne hkeys hoffered hnamed hdistinct
  exact ⟨client, hclient⟩

/-! ## What a client passed -/

section Generated

variable {client : ClientFile} (hclient : generate flavour model = .ok client)

include hclient

theorem entities_ne_nil_of_generate : model.entities ≠ [] := by
  intro hempty
  rw [generate_of_empty hempty] at hclient
  cases hclient

theorem exists_class_of_generate :
    ∃ definition, clientClass flavour (covered model) = .ok definition ∧
      client.source = ⟨imports flavour.policy, none,
        constants (covered model) ++ [.classDef definition]⟩ := by
  simp only [generate_of_ne_nil (entities_ne_nil_of_generate hclient), bind_eq_ok_iff,
    pure_eq_ok_iff] at hclient
  obtain ⟨-, -, -, -, definition, hdefinition, rfl⟩ := hclient
  exact ⟨definition, hdefinition, rfl⟩

theorem not_collide_of_generate : ¬ Collide (covered model) := by
  intro hcollide
  obtain ⟨_, _, _, -, -, hrefused⟩ := checkCollisions_of_collide hcollide
  simp only [generate_of_ne_nil (entities_ne_nil_of_generate hclient), bind_eq_ok_iff,
    hrefused] at hclient
  obtain ⟨_, -, _, hpassed, -⟩ := hclient
  cases hpassed

/-- The constants of a client have different names. -/
theorem nodup_constantNames : ((covered model).map Entity.constantName).Nodup := by
  have hpairwise := not_collide_iff.mp (not_collide_of_generate hclient)
  exact List.pairwise_map.mpr (hpairwise.imp fun hdistinct => hdistinct.2)

/-- All covered entities have keys. -/
theorem keyed_of_generate : ∀ entity ∈ covered model, entity.keyFields ≠ [] := by
  intro entity hentity hkeyless
  cases hfound : (covered model).find? fun entity => entity.keyFields.isEmpty with
  | none => exact List.find?_eq_none.mp hfound entity hentity (by simp [hkeyless])
  | some first =>
      have hrefused := checkKeys_of_keyless (find_keyless_iff.mp hfound)
      simp only [generate_of_ne_nil (entities_ne_nil_of_generate hclient), bind_eq_ok_iff,
        hrefused] at hclient
      obtain ⟨_, hpassed, -⟩ := hclient
      cases hpassed

end Generated

/-- **The outcomes of generating a client.**  An empty data model, an entity without a
key and a shared name are reported in this order, and all other data models get a
client.  No generated text is malformed, and no client has a fault. -/
theorem generate_outcomes (hoffered : flavour.IsOffered)
    (hnamed : ∀ entity ∈ model.entities, NamedEntity entity) :
    (generate flavour model = .error (.emptySchema model.name) ↔ model.entities = []) ∧
    (∀ entity, FirstKeyless model entity →
      generate flavour model = .error (.missingKey entity.name)) ∧
    (model.entities ≠ [] → (∀ entity, ¬ FirstKeyless model entity) →
      ((∃ first second name, generate flavour model = .error (.nameCollision first second name)) ↔
        Collide (covered model)) ∧
      (¬ Collide (covered model) → ∃ file, generate flavour model = .ok file)) ∧
    (∀ fragment cause, generate flavour model ≠ .error (.malformedSnippet fragment cause)) ∧
    ∀ file, generate flavour model = .ok file → faults file.source.render = [] := by
  by_cases hempty : model.entities = []
  · -- without entities there is none that has no key
    have hresult : generate flavour model = .error (.emptySchema model.name) :=
      generate_of_empty hempty
    refine ⟨iff_of_true hresult hempty, ?_, fun hne => absurd hempty hne, ?_, ?_⟩
    · rintro entity ⟨⟨before, after, hsplit, -⟩, -, -⟩
      simp [hempty] at hsplit
    · simp [hresult]
    · simp [hresult]
  by_cases hkeys : ∀ entity, ¬ FirstKeyless model entity
  · by_cases hcollide : Collide (covered model)
    · obtain ⟨first, second, name, -, -, hresult⟩ :=
        @generate_of_collide flavour _ hempty hkeys hcollide
      refine ⟨iff_of_false (by simp [hresult]) hempty, fun entity h => absurd h (hkeys entity),
        fun _ _ => ⟨iff_of_true ⟨_, _, _, hresult⟩ hcollide, fun h => absurd hcollide h⟩, ?_, ?_⟩
      · simp [hresult]
      · simp [hresult]
    · obtain ⟨file, hresult, hfaults⟩ := exists_generate hempty hkeys hoffered hnamed hcollide
      refine ⟨iff_of_false (by simp [hresult]) hempty, fun entity h => absurd h (hkeys entity),
        fun _ _ => ⟨iff_of_false (by simp [hresult]) hcollide, fun _ => ⟨file, hresult⟩⟩, ?_, ?_⟩
      · simp [hresult]
      · simp [hresult, hfaults]
  · -- the first entity without a key is reported, whatever the names are
    push Not at hkeys
    obtain ⟨entity, hkeyless⟩ := hkeys
    have hresult : ∀ other, FirstKeyless model other →
        generate flavour model = .error (.missingKey other.name) :=
      fun other h => generate_of_keyless hempty h
    have hthis := hresult entity hkeyless
    refine ⟨iff_of_false (by simp [hthis]) hempty, hresult,
      fun _ hkeys => absurd hkeyless (hkeys entity), ?_, ?_⟩
    · simp [hthis]
    · simp [hthis]

/-- Entities with the names of keywords, one of them with two keys and one with a column
that looks like code, and an entity that no client covers. -/
def keywordModel : DataModel where
  name := "store"
  entities :=
    [⟨"class", some "classes", [⟨"lock", .int, true, false, true⟩, ⟨"if", .date, true, false, true⟩],
        []⟩,
      ⟨"match", none, [⟨"do", .string, true, false, true⟩],
        [⟨"function", "class", .one, true, [⟨"\x7d;\n\"", "lock"⟩]⟩]⟩,
      ⟨"Image", none, [⟨"content", .other "Blob", false, false, false⟩], []⟩]
  enumerations := []

theorem generate_keywordModel :
    (Flavour.database .mysql "Client").IsOffered ∧
      (∀ entity ∈ keywordModel.entities, NamedEntity entity) ∧
      ∃ file, generate (Flavour.database .mysql "Client") keywordModel = .ok file ∧
        faults file.source.render = [] := by
  have hoffered : (Flavour.database .mysql "Client").IsOffered := .database .mysql (by decide +kernel)
  have hnamed : ∀ entity ∈ keywordModel.entities, NamedEntity entity := by decide +kernel
  have hkeys : ∀ entity, ¬ FirstKeyless keywordModel entity := by
    intro entity hkeyless
    have hnone : (covered keywordModel).find? (fun entity => entity.keyFields.isEmpty) = none := by
      decide
    rw [find_keyless_iff.mpr hkeyless] at hnone
    cases hnone
  have hdistinct : ¬ Collide (covered keywordModel) :=
    firstCollision_takenNames_eq_none_iff.mp (by decide +kernel)
  obtain ⟨-, -, hpass, -, hfaults⟩ := generate_outcomes hoffered hnamed
  obtain ⟨file, hfile⟩ := (hpass (by simp [keywordModel]) hkeys).2 hdistinct
  exact ⟨hoffered, hnamed, file, hfile, hfaults file hfile⟩

end PersistLayer.Client
