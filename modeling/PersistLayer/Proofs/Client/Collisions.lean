import Mathlib.Data.List.Nodup
import PersistLayer.Client.Collision
import PersistLayer.Proofs.Client.Names

/-!
# Which entities collide

The names of all entities are taken in one order, resources and constants mixed, and
the first that is taken twice is reported.  As no constant is named as a resource,
that happens exactly when two entities share the name of their resource or that of
their constant.

The report is then about the first entity that shares a name with one in front of it.
No two entities in front of that one share a name, so each name that was taken has one
owner (`lookup_takenNames`), and the report tells the owner of the resource, or else the
owner of the constant (`checkCollisions_is_exact`).
-/

namespace PersistLayer.Client

open Schema

/-- The name is that of the resource, or that of the constant, of both entities. -/
def SharesName (first second : Entity) (name : String) : Prop :=
  (first.resourceName = name ∧ second.resourceName = name) ∨
    (first.constantName = name ∧ second.constantName = name)

/-- Two entities at different places share a name. -/
def Collide (entities : List Entity) : Prop :=
  ∃ first second name, [first, second].Sublist entities ∧ SharesName first second name

/-! ## Taking names -/

/-- No collision is found when every name is free and none is asked for twice. -/
theorem firstCollision_eq_none_iff {taken names : List (String × String)} :
    firstCollision taken names = none ↔
      (∀ entry ∈ names, taken.lookup entry.1 = none) ∧
        names.Pairwise fun first second => first.1 ≠ second.1 := by
  induction names generalizing taken with
  | nil => simp [firstCollision]
  | cons entry rest ih =>
      obtain ⟨name, owner⟩ := entry
      cases hfree : taken.lookup name with
      | some first =>
          -- the first name is taken
          simp only [firstCollision, hfree, reduceCtorEq, false_iff]
          rintro ⟨hall, -⟩
          have hnone := hall _ List.mem_cons_self
          rw [hfree] at hnone
          cases hnone
      | none =>
          -- the first name is free, and taken from here on
          have hlookup : ∀ other : String × String,
              ((name, owner) :: taken).lookup other.1 = none ↔
                name ≠ other.1 ∧ taken.lookup other.1 = none := by
            intro other
            by_cases hsame : other.1 = name
            · simp [hsame]
            · rw [List.lookup_cons, beq_eq_false_iff_ne.mpr hsame]
              exact (and_iff_right (Ne.symm hsame)).symm
          simp only [firstCollision, hfree, ih, hlookup, List.forall_mem_cons, List.pairwise_cons]
          constructor
          · rintro ⟨hrest, hpairwise⟩
            exact ⟨⟨trivial, fun other h => (hrest other h).2⟩, fun other h => (hrest other h).1,
              hpairwise⟩
          · rintro ⟨⟨-, hrest⟩, hname, hpairwise⟩
            exact ⟨fun other h => ⟨hname other h, hrest other h⟩, hpairwise⟩

/-- Behind names that are free, the others are asked for when all of these are taken. -/
theorem firstCollision_append {taken front : List (String × String)}
    (hfree : firstCollision taken front = none) (back : List (String × String)) :
    firstCollision taken (front ++ back) = firstCollision (front.reverse ++ taken) back := by
  induction front generalizing taken with
  | nil => rfl
  | cons entry rest ih =>
      obtain ⟨name, owner⟩ := entry
      cases hlookup : taken.lookup name with
      | some first => simp [firstCollision, hlookup] at hfree
      | none =>
          simp only [firstCollision, hlookup] at hfree
          simp only [List.cons_append, firstCollision, hlookup, ih hfree]
          simp

/-! ## Entities -/

section Entities

variable {entities : List Entity}

theorem not_collide_iff : ¬ Collide entities ↔ entities.Pairwise fun first second =>
    first.resourceName ≠ second.resourceName ∧ first.constantName ≠ second.constantName := by
  rw [List.pairwise_iff_forall_sublist]
  constructor
  · intro hcollide first second hsublist
    refine ⟨?_, ?_⟩
    · intro hsame
      exact hcollide ⟨first, second, _, hsublist, .inl ⟨hsame, rfl⟩⟩
    · intro hsame
      exact hcollide ⟨first, second, _, hsublist, .inr ⟨hsame, rfl⟩⟩
  · rintro hdistinct ⟨first, second, name, hsublist, ⟨hfirst, hsecond⟩ | ⟨hfirst, hsecond⟩⟩
    · exact (hdistinct hsublist).1 (hfirst.trans hsecond.symm)
    · exact (hdistinct hsublist).2 (hfirst.trans hsecond.symm)

/-- The names of one entity differ. -/
theorem pairwise_takenNames (entity : Entity) :
    (takenNames entity).Pairwise fun first second => first.1 ≠ second.1 := by
  simp [takenNames, resourceName_ne_constantName]

theorem forall_takenNames_ne_iff (first second : Entity) :
    (∀ one ∈ takenNames first, ∀ other ∈ takenNames second, one.1 ≠ other.1) ↔
      first.resourceName ≠ second.resourceName ∧ first.constantName ≠ second.constantName := by
  simp [takenNames, resourceName_ne_constantName, (resourceName_ne_constantName _ _).symm]

/-- **No collision is reported when there is none.** -/
theorem firstCollision_takenNames_eq_none_iff :
    firstCollision [] (entities.flatMap takenNames) = none ↔ ¬ Collide entities := by
  rw [firstCollision_eq_none_iff, List.pairwise_flatMap, not_collide_iff]
  simp only [List.lookup_nil, implies_true, true_and, pairwise_takenNames,
    forall_takenNames_ne_iff]

/-- A name that different names were taken with has the owner it was taken for. -/
theorem lookup_takenNames (hdistinct : ¬ Collide entities) {name owner : String}
    (htaken : (name, owner) ∈ entities.flatMap takenNames) :
    (entities.flatMap takenNames).reverse.lookup name = some owner := by
  have hpairwise := (firstCollision_eq_none_iff.mp
    (firstCollision_takenNames_eq_none_iff.mpr hdistinct)).2
  obtain ⟨front, back, hsplit⟩ := List.append_of_mem htaken
  rw [hsplit, List.pairwise_append, List.pairwise_cons] at hpairwise
  rw [List.lookup_eq_some_iff]
  refine ⟨back.reverse, front.reverse, by simp [hsplit], ?_⟩
  intro entry hentry
  simpa using hpairwise.2.1.1 entry (List.mem_reverse.mp hentry)

/-- A name that was not taken has no owner. -/
theorem lookup_takenNames_eq_none {name : String}
    (hfree : ∀ owner, (name, owner) ∉ entities.flatMap takenNames) :
    (entities.flatMap takenNames).reverse.lookup name = none := by
  rw [List.lookup_eq_none_iff]
  intro entry hentry
  rw [bne_iff_ne]
  rintro rfl
  exact hfree entry.2 (List.mem_reverse.mp hentry)

theorem mem_takenNames_iff {name owner : String} :
    (name, owner) ∈ entities.flatMap takenNames ↔
      ∃ entity ∈ entities, entity.name = owner ∧
        (entity.resourceName = name ∨ entity.constantName = name) := by
  simp only [List.mem_flatMap, takenNames, List.mem_cons, Prod.mk.injEq, List.not_mem_nil,
    or_false]
  constructor
  · rintro ⟨entity, hentity, ⟨rfl, rfl⟩ | ⟨rfl, rfl⟩⟩
    · exact ⟨entity, hentity, rfl, .inl rfl⟩
    · exact ⟨entity, hentity, rfl, .inr rfl⟩
  · rintro ⟨entity, hentity, rfl, rfl | rfl⟩
    · exact ⟨entity, hentity, .inl ⟨rfl, rfl⟩⟩
    · exact ⟨entity, hentity, .inr ⟨rfl, rfl⟩⟩

/-- **Some entity is the first** that shares a name with one in front of it. -/
theorem exists_first_collide (hcollide : Collide entities) :
    ∃ before second after, entities = before ++ second :: after ∧ ¬ Collide before ∧
      ∃ first ∈ before, ∃ name, SharesName first second name := by
  induction entities using List.reverseRecOn with
  | nil =>
      obtain ⟨first, second, name, hsublist, -⟩ := hcollide
      cases hsublist
  | append_singleton front last ih =>
      by_cases hfront : Collide front
      · obtain ⟨before, second, after, rfl, hdistinct, hshares⟩ := ih hfront
        exact ⟨before, second, after ++ [last], by simp, hdistinct, hshares⟩
      · -- the second of the two entities is the last one, or both would stand in front of it
        obtain ⟨first, second, name, hsublist, hshares⟩ := hcollide
        obtain ⟨inFront, atEnd, hpair, hinFront, hatEnd⟩ := List.sublist_append_iff.mp hsublist
        rcases List.sublist_singleton.mp hatEnd with rfl | rfl
        · rw [List.append_nil] at hpair
          subst hpair
          exact absurd ⟨first, second, name, hinFront, hshares⟩ hfront
        · have hends : [first] ++ [second] = inFront ++ [last] := hpair
          obtain ⟨rfl, hsecond⟩ := List.append_inj' hends rfl
          obtain rfl : second = last := List.singleton_inj.mp hsecond
          exact ⟨front, second, [], rfl, hfront, first, List.singleton_sublist.mp hinFront, name,
            hshares⟩

/-! ## What is reported -/

/-- The second entity shares a name with the first one in front of it, and no two entities in
front of it share one.  The name is that of its resource, if that is shared. -/
structure FirstShared (before : List Entity) (first second : Entity) (name : String) : Prop where
  distinct : ¬ Collide before
  name_eq : name = if second.resourceName ∈ before.map Entity.resourceName
    then second.resourceName else second.constantName
  owner_iff : ∀ entity, entity ∈ before ∧ SharesName entity second name ↔ entity = first

section Reports

variable {before : List Entity} {first second : Entity} {name : String}

/-- One of some entities shares each of their names at most. -/
theorem eq_of_sharesName (hdistinct : ¬ Collide before) {one other : Entity}
    (hone : one ∈ before) (hother : other ∈ before) (hsame : SharesName one other name) :
    one = other := by
  have hpairwise := not_collide_iff.mp hdistinct
  have hresources : (before.map Entity.resourceName).Nodup :=
    List.pairwise_map.mpr (hpairwise.imp And.left)
  have hconstants : (before.map Entity.constantName).Nodup :=
    List.pairwise_map.mpr (hpairwise.imp And.right)
  rcases hsame with ⟨hfirst, hsecond⟩ | ⟨hfirst, hsecond⟩
  · exact List.inj_on_of_nodup_map hresources hone hother (hfirst.trans hsecond.symm)
  · exact List.inj_on_of_nodup_map hconstants hone hother (hfirst.trans hsecond.symm)

/-- Two entities that share a name with a third share it with each other. -/
theorem SharesName.of_both {one other : Entity} (hone : SharesName one second name)
    (hother : SharesName other second name) : SharesName one other name := by
  rcases hone with ⟨hname, hsecond⟩ | ⟨hname, hsecond⟩
  · rcases hother with ⟨hname', -⟩ | ⟨-, hsecond'⟩
    · exact .inl ⟨hname, hname'⟩
    · exact absurd (hsecond.trans hsecond'.symm) (resourceName_ne_constantName _ _)
  · rcases hother with ⟨-, hsecond'⟩ | ⟨hname', -⟩
    · exact absurd (hsecond'.trans hsecond.symm) (resourceName_ne_constantName _ _)
    · exact .inr ⟨hname, hname'⟩

/-- An entity that shares a name with one in front of it shares the name to be reported. -/
theorem exists_firstShared (hdistinct : ¬ Collide before) (hfirst : first ∈ before)
    (hshares : SharesName first second name) :
    ∃ owner name, FirstShared before owner second name := by
  -- an owner of the name to be reported, who is the only one
  have howner : ∃ owner ∈ before, SharesName owner second
      (if second.resourceName ∈ before.map Entity.resourceName
        then second.resourceName else second.constantName) := by
    split_ifs with hresource
    · obtain ⟨owner, howner, hname⟩ := List.mem_map.mp hresource
      exact ⟨owner, howner, .inl ⟨hname, rfl⟩⟩
    · rcases hshares with ⟨hname, hsecond⟩ | ⟨hname, hsecond⟩
      · exact absurd (List.mem_map.mpr ⟨first, hfirst, hname.trans hsecond.symm⟩) hresource
      · exact ⟨first, hfirst, .inr ⟨hname.trans hsecond.symm, rfl⟩⟩
  obtain ⟨owner, hmem, howner⟩ := howner
  refine ⟨owner, _, hdistinct, rfl, ?_⟩
  intro entity
  constructor
  · rintro ⟨hentity, hsame⟩
    exact eq_of_sharesName hdistinct hentity hmem (hsame.of_both howner)
  · rintro rfl
    exact ⟨hmem, howner⟩

/-- The name that is reported was taken by the first entity. -/
theorem FirstShared.mem_takenNames (hshared : FirstShared before first second name) :
    (name, first.name) ∈ before.flatMap takenNames := by
  obtain ⟨hfirst, hshares⟩ := (hshared.owner_iff first).mpr rfl
  rw [mem_takenNames_iff]
  exact ⟨first, hfirst, rfl, hshares.imp And.left And.left⟩

/-- **The first entity that shares a name is reported.** -/
theorem FirstShared.firstCollision_eq (hshared : FirstShared before first second name)
    (after : List Entity) :
    firstCollision [] ((before ++ second :: after).flatMap takenNames) =
      some (first.name, second.name, name) := by
  have hfree := firstCollision_takenNames_eq_none_iff.mpr hshared.distinct
  have howner := lookup_takenNames hshared.distinct hshared.mem_takenNames
  have hname := hshared.name_eq
  rw [List.flatMap_append, List.flatMap_cons, firstCollision_append hfree, List.append_nil]
  by_cases hresource : second.resourceName ∈ before.map Entity.resourceName
  · -- the name of the resource is looked up first
    rw [if_pos hresource] at hname
    subst hname
    simp [takenNames, firstCollision, howner]
  · -- no one has the name of the resource, and the entity has not taken that of the constant
    rw [if_neg hresource] at hname
    subst hname
    have hnone : (before.flatMap takenNames).reverse.lookup second.resourceName = none := by
      apply lookup_takenNames_eq_none
      intro owner htaken
      obtain ⟨entity, hentity, -, hsame | hsame⟩ := mem_takenNames_iff.mp htaken
      · exact hresource (List.mem_map.mpr ⟨entity, hentity, hsame⟩)
      · exact resourceName_ne_constantName _ _ hsame.symm
    have hdiffer : (second.constantName == second.resourceName) = false :=
      beq_eq_false_iff_ne.mpr (resourceName_ne_constantName _ _).symm
    simp [takenNames, firstCollision, hnone, List.lookup_cons, hdiffer, howner]

end Reports

theorem checkCollisions_eq_ok_iff : checkCollisions entities = .ok () ↔ ¬ Collide entities := by
  rw [← firstCollision_takenNames_eq_none_iff, checkCollisions]
  cases firstCollision [] (entities.flatMap takenNames) <;> simp

/-- A report is about the first entity that shares a name. -/
theorem checkCollisions_eq_error_iff {error : GenerationError} :
    checkCollisions entities = .error error ↔
      ∃ before first second after name, entities = before ++ second :: after ∧
        FirstShared before first second name ∧
        error = .nameCollision first.name second.name name := by
  constructor
  · intro hrefused
    have hcollide : Collide entities := by
      by_contra hdistinct
      rw [checkCollisions_eq_ok_iff.mpr hdistinct] at hrefused
      cases hrefused
    obtain ⟨before, second, after, rfl, hdistinct, first, hfirst, name, hshares⟩ :=
      exists_first_collide hcollide
    obtain ⟨owner, reported, hshared⟩ := exists_firstShared hdistinct hfirst hshares
    refine ⟨before, owner, second, after, reported, rfl, hshared, ?_⟩
    rw [checkCollisions, hshared.firstCollision_eq] at hrefused
    exact (Except.error.inj hrefused).symm
  · rintro ⟨before, first, second, after, name, rfl, hshared, rfl⟩
    rw [checkCollisions, hshared.firstCollision_eq]

end Entities

/-- **The check for collisions is exact.**  It passes when all resources and all constants
have different names, and else it reports the first entity that shares a name with one in
front of it, that one, and the name.  A resource and a constant never share one. -/
theorem checkCollisions_is_exact (entities : List Entity) :
    (checkCollisions entities = .ok () ↔
      (entities.map Entity.resourceName).Nodup ∧ (entities.map Entity.constantName).Nodup) ∧
    (∀ error, checkCollisions entities = .error error ↔
      ∃ before first second after name, entities = before ++ second :: after ∧
        FirstShared before first second name ∧
        error = .nameCollision first.name second.name name) ∧
    ∀ one other : Entity, one.resourceName ≠ other.constantName := by
  refine ⟨?_, fun error => checkCollisions_eq_error_iff, resourceName_ne_constantName⟩
  have hnodup (nameOf : Entity → String) : (entities.map nameOf).Nodup ↔
      entities.Pairwise fun first second => nameOf first ≠ nameOf second := by
    rw [List.nodup_iff_pairwise_ne, List.pairwise_map]
  calc checkCollisions entities = .ok () ↔ ¬ Collide entities := checkCollisions_eq_ok_iff
    _ ↔ _ := by rw [not_collide_iff, List.pairwise_and_iff, hnodup, hnodup]

/-- The second entity has the constant of the first, and the third its resource. -/
example :
    checkCollisions [⟨"MedicalNeed", none, [], []⟩, ⟨"Medical_Need", none, [], []⟩,
        ⟨"medicalNeed", none, [], []⟩] =
      .error (.nameCollision "MedicalNeed" "Medical_Need" "MEDICAL_NEED") := by
  decide +kernel

end PersistLayer.Client
