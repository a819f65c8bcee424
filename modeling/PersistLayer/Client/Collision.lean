import PersistLayer.Error
import PersistLayer.Schema.Entity

/-!
# Name collisions

Two entities whose resources or constants have one name would declare the same
thing twice.  The names are taken in order, the resource of an entity before its
constant, and the first name that is already taken is reported with the entity
that took it.
-/

namespace PersistLayer.Client

open Schema

/-- The names an entity takes, each with the entity's own name. -/
def takenNames (entity : Entity) : List (String × String) :=
  [(entity.resourceName, entity.name), (entity.constantName, entity.name)]

/-- The first of the names to be taken when `taken` are: the entity that has it,
the entity that asks for it and the name. -/
def firstCollision (taken : List (String × String)) :
    List (String × String) → Option (String × String × String)
  | [] => none
  | (name, entity) :: rest =>
    match taken.lookup name with
    | some first => some (first, entity, name)
    | none => firstCollision ((name, entity) :: taken) rest

/-- Refuses entities that share a name. -/
def checkCollisions (entities : List Entity) : Except GenerationError Unit :=
  match firstCollision [] (entities.flatMap takenNames) with
  | some (first, second, name) => .error (.nameCollision first second name)
  | none => .ok ()

end PersistLayer.Client
