import PersistLayer.Schema.Entity

/-!
# Data models

A data model is one unit of generation: entities in the order in which their
names were first added, and enumerations in the order in which they were added.
Adding an entity under a known name puts it in the place of the known one.
-/

namespace PersistLayer.Schema

/-- An enumeration of the data model. -/
structure Enumeration where
  name : String
  members : List String
  deriving Repr, DecidableEq

/-- Entities and enumerations under a name. -/
structure DataModel where
  name : String
  entities : List Entity
  enumerations : List Enumeration
  deriving Repr, DecidableEq

/-- Puts an entity in the place of the one that has its name, or else at the
end. -/
def putEntity (entity : Entity) : List Entity → List Entity
  | [] => [entity]
  | known :: rest =>
    if known.name = entity.name then entity :: rest else known :: putEntity entity rest

namespace DataModel

/-- The data model without entities and enumerations. -/
def empty (name : String) : DataModel := ⟨name, [], []⟩

/-- Adds an entity, or replaces the one that has its name. -/
def addEntity (model : DataModel) (entity : Entity) : DataModel :=
  { model with entities := putEntity entity model.entities }

/-- Adds an enumeration. -/
def addEnumeration (model : DataModel) (enumeration : Enumeration) : DataModel :=
  { model with enumerations := model.enumerations ++ [enumeration] }

/-- The entity of a given name. -/
def entity? (model : DataModel) (name : String) : Option Entity :=
  model.entities.find? fun entity => entity.name == name

/-- The data model has no entities. -/
def isEmpty (model : DataModel) : Bool := model.entities.isEmpty

/-- The data model with the given contents, added one after the other. -/
def ofLists (name : String) (entities : List Entity) (enumerations : List Enumeration) :
    DataModel :=
  enumerations.foldl addEnumeration (entities.foldl addEntity (empty name))

end DataModel

end PersistLayer.Schema
