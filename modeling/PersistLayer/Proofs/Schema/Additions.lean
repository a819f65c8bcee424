import PersistLayer.Proofs.Keyed
import PersistLayer.Schema.DataModel

/-!
# Data models as maps that keep their order

A data model is built by additions of entities and enumerations.  The names of its
entities are different and stand in the order in which they were first added, and under
each name stands the entity that was added last.

One addition keeps these facts (`Records.add`), so that all data models that are built
from the empty one have them (`records_addAll`).
-/

namespace PersistLayer.Schema

/-- One addition to a data model. -/
inductive Addition where
  | entity (entity : Entity)
  | enumeration (enumeration : Enumeration)
  deriving Repr, DecidableEq

/-- The entity that is added. -/
def Addition.entity? : Addition → Option Entity
  | entity added => some added
  | enumeration _ => none

/-- The enumeration that is added. -/
def Addition.enumeration? : Addition → Option Enumeration
  | entity _ => none
  | enumeration added => some added

/-- The entities among some additions. -/
def entitiesIn (additions : List Addition) : List Entity := additions.filterMap Addition.entity?

/-- The enumerations among some additions. -/
def enumerationsIn (additions : List Addition) : List Enumeration :=
  additions.filterMap Addition.enumeration?

/-- The entity that was added last under a name. -/
def lastNamed (name : String) (entities : List Entity) : Option Entity :=
  entities.reverse.find? fun entity => entity.name == name

namespace DataModel

/-- The data model after one addition. -/
def add (model : DataModel) : Addition → DataModel
  | .entity entity => model.addEntity entity
  | .enumeration enumeration => model.addEnumeration enumeration

/-- The data model after some additions. -/
def addAll (model : DataModel) (additions : List Addition) : DataModel :=
  additions.foldl add model

end DataModel

theorem lastNamed_eq_none_iff {name : String} {entities : List Entity} :
    lastNamed name entities = none ↔ ∀ entity ∈ entities, entity.name ≠ name := by
  simp [lastNamed]

/-! ## Putting an entity -/

section Put

variable {entities : List Entity} {entity : Entity}

theorem putEntity_eq (entity : Entity) (entities : List Entity) :
    putEntity entity entities = Keyed.put Entity.name entity entities := by
  induction entities with
  | nil => rfl
  | cons known rest ih => rw [putEntity, Keyed.put, ih]

theorem putEntity_of_not_mem (hnew : entity.name ∉ entities.map Entity.name) :
    putEntity entity entities = entities ++ [entity] := by
  rw [putEntity_eq, Keyed.put_of_not_mem hnew]

/-- An entity takes the place of the one that has its name, and all others stay. -/
theorem putEntity_of_mem (hdistinct : (entities.map Entity.name).Nodup)
    (hknown : entity.name ∈ entities.map Entity.name) :
    putEntity entity entities =
      entities.map fun known => if known.name = entity.name then entity else known := by
  rw [putEntity_eq, Keyed.put_of_mem hdistinct hknown]

end Put

/-! ## What additions leave behind -/

theorem entitiesIn_append (front back : List Addition) :
    entitiesIn (front ++ back) = entitiesIn front ++ entitiesIn back :=
  List.filterMap_append

theorem enumerationsIn_append (front back : List Addition) :
    enumerationsIn (front ++ back) = enumerationsIn front ++ enumerationsIn back :=
  List.filterMap_append

/-- The data model holds what was added: each name in the place of its first addition, with
the entity of its last. -/
structure Records (model : DataModel) (additions : List Addition) : Prop where
  entities : Keyed.Holds Entity.name model.entities (entitiesIn additions)
  enumerations : model.enumerations = enumerationsIn additions

namespace Records

theorem empty (name : String) : Records (DataModel.empty name) [] where
  entities := Keyed.holds_nil Entity.name
  enumerations := rfl

variable {model : DataModel} {additions : List Addition}

theorem addEntity (hrecords : Records model additions) (entity : Entity) :
    Records (model.addEntity entity) (additions ++ [.entity entity]) := by
  refine ⟨?entities, ?enumerations⟩
  case entities =>
    rw [entitiesIn_append, DataModel.addEntity, putEntity_eq]
    exact hrecords.entities.put entity
  case enumerations =>
    rw [enumerationsIn_append, ← hrecords.enumerations]
    exact (List.append_nil _).symm

theorem addEnumeration (hrecords : Records model additions) (enumeration : Enumeration) :
    Records (model.addEnumeration enumeration) (additions ++ [.enumeration enumeration]) := by
  refine ⟨?entities, ?enumerations⟩
  case entities =>
    have hentities : entitiesIn (additions ++ [.enumeration enumeration]) = entitiesIn additions := by
      rw [entitiesIn_append]
      exact List.append_nil _
    rw [hentities]
    exact hrecords.entities
  case enumerations =>
    rw [enumerationsIn_append, ← hrecords.enumerations]
    rfl

/-- One addition keeps a data model true to what was added. -/
theorem add (hrecords : Records model additions) (addition : Addition) :
    Records (model.add addition) (additions ++ [addition]) := by
  cases addition with
  | entity entity => exact hrecords.addEntity entity
  | enumeration enumeration => exact hrecords.addEnumeration enumeration

theorem distinct (hrecords : Records model additions) :
    (model.entities.map Entity.name).Nodup :=
  hrecords.entities.distinct

theorem order (hrecords : Records model additions) :
    model.entities.map Entity.name = ((entitiesIn additions).map Entity.name).eraseDups :=
  hrecords.entities.order

theorem lookup (hrecords : Records model additions) (name : String) :
    model.entity? name = lastNamed name (entitiesIn additions) :=
  hrecords.entities.lookup name

/-- There are no entities if and only if none was added. -/
theorem entities_eq_nil_iff (hrecords : Records model additions) :
    model.entities = [] ↔ entitiesIn additions = [] :=
  hrecords.entities.eq_nil_iff

end Records

namespace DataModel

/-- All that is added to the empty data model is recorded. -/
theorem records_addAll (name : String) (additions : List Addition) :
    Records ((empty name).addAll additions) additions := by
  -- the last addition is the last step, so the induction takes it off
  induction additions using List.reverseRecOn with
  | nil => exact Records.empty name
  | append_singleton front last ih =>
      rw [addAll, List.foldl_append]
      exact ih.add last

/-- Two lists of contents are added one after the other. -/
theorem ofLists_eq_addAll (name : String) (entities : List Entity)
    (enumerations : List Enumeration) :
    ofLists name entities enumerations =
      (empty name).addAll (entities.map .entity ++ enumerations.map .enumeration) := by
  rw [addAll, List.foldl_append, List.foldl_map, List.foldl_map]
  rfl

/-- A data model is a map that keeps its order.  After any additions to the empty one, the
names of its entities are different and stand in the order of their first additions.  Under
a name stands the entity that was added last, and nothing if none was added.  The data model
is without entities if and only if none was added, and its enumerations are those that were
added, repetitions included.  A further entity takes the place of the one that has
its name, or else comes behind all others, and nothing else changes. -/
theorem addAll_keeps_insertion_order (name : String) (additions : List Addition) :
    let model := (empty name).addAll additions
    let added := entitiesIn additions
    let names := model.entities.map Entity.name
    names.Nodup ∧
    names = (added.map Entity.name).eraseDups ∧
    (∀ asked, model.entity? asked = lastNamed asked added) ∧
    (∀ asked, model.entity? asked = none ↔ ∀ entity ∈ added, entity.name ≠ asked) ∧
    (model.isEmpty = true ↔ added = []) ∧
    model.enumerations = enumerationsIn additions ∧
    ∀ entity, model.addEntity entity =
      { model with entities :=
          if entity.name ∈ names then
            model.entities.map fun known => if known.name = entity.name then entity else known
          else model.entities ++ [entity] } := by
  intro model added names
  have hrecords : Records model additions := records_addAll name additions
  refine ⟨hrecords.distinct, hrecords.order, hrecords.lookup, ?absent, ?isEmpty,
    hrecords.enumerations, ?replaced⟩
  case absent =>
    intro asked
    rw [hrecords.lookup]
    exact lastNamed_eq_none_iff
  case isEmpty =>
    rw [isEmpty, List.isEmpty_iff]
    exact hrecords.entities_eq_nil_iff
  case replaced =>
    intro entity
    -- the names are different, so at most one entity gives its place away
    by_cases hknown : entity.name ∈ names
    · rw [if_pos hknown, addEntity, putEntity_of_mem hrecords.distinct hknown]
    · rw [if_neg hknown, addEntity, putEntity_of_not_mem hknown]

/-- The second entity under a name stands where the first stood. -/
example :
    let order : Entity := ⟨"Order", none, [], []⟩
    let stock : Entity := ⟨"Stock", none, [], []⟩
    let moved : Entity := ⟨"Order", some "orders", [], []⟩
    ((empty "shop").addAll [.entity order, .entity stock, .entity moved]).entities =
      [moved, stock] := by
  decide

end DataModel

end PersistLayer.Schema
