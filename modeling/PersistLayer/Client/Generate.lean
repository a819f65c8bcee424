import PersistLayer.Client.Collision
import PersistLayer.Client.Flavour
import PersistLayer.Schema.DataModel

/-!
# The client file

A client covers the entities whose fields all have a column type; the others are
skipped and reported.  Every covered entity must have a key, and no two of them
may share the name of a resource or of a constant.
-/

namespace PersistLayer.Client

open Schema Syntax

/-- An entity that the client does not cover, and the fields that are the
reason. -/
structure Skipped where
  entity : String
  fields : List String
  deriving Repr, DecidableEq

/-- A client file and the entities it does not cover. -/
structure ClientFile where
  source : SourceFile
  skipped : List Skipped
  deriving Repr

/-- The entities that a client covers. -/
def covered (model : DataModel) : List Entity := model.entities.filter Entity.isSupported

/-- The entities that a client does not cover. -/
def skipped (model : DataModel) : List Skipped :=
  (model.entities.filter fun entity => !entity.isSupported).map fun entity =>
    ⟨entity.name, entity.unsupportedFields.map Field.name⟩

/-- Refuses entities that cannot be addressed. -/
def checkKeys (entities : List Entity) : Except GenerationError Unit :=
  match entities.find? fun entity => entity.keyFields.isEmpty with
  | some entity => .error (.missingKey entity.name)
  | none => .ok ()

/-- The imports of a client, those of the connector in the order of their
names. -/
def imports (policy : Policy) : List Import :=
  let connectors : List Import :=
    [⟨"ballerinax", policy.connectorModule, none, none⟩,
      ⟨"ballerinax", policy.driverModule, some "_", none⟩,
      ⟨"ballerinax", "persist.sql", some "psql", none⟩]
  [⟨"ballerina", "jballerina.java", none, some (.autogenerated (some "model"))⟩,
    ⟨"ballerina", "persist", none, none⟩,
    ⟨"ballerina", "sql", none, none⟩] ++
  connectors.mergeSort fun first second => decide (first.moduleName ≤ second.moduleName)

/-- The constants that name the resources. -/
def constants (entities : List Entity) : List ModuleMember :=
  entities.map fun entity => .const entity.constantName entity.resourceName

/-- The class of a client. -/
def clientClass (flavour : Flavour) (entities : List Entity) :
    Except GenerationError ClassDef := do
  let fields ← fields flavour.policy entities
  let init ← init flavour.initPolicy flavour.initParams entities
  let resources ← entities.mapM (resourceFunctions flavour.policy)
  let others := [← queryNativeSql flavour.policy, ← executeNativeSql flavour.policy, ← close]
  return {
    name := flavour.className
    qualifiers := [.exposed, .isolated, .client]
    members :=
      fields.map ClassMember.field ++
        (init :: resources.flatten ++ others).map ClassMember.function }

/-- The file of a client. -/
def generate (flavour : Flavour) (model : DataModel) : Except GenerationError ClientFile := do
  if model.isEmpty then throw (.emptySchema model.name)
  let entities := covered model
  checkKeys entities
  checkCollisions entities
  let definition ← clientClass flavour entities
  return {
    source := ⟨imports flavour.policy, none, constants entities ++ [.classDef definition]⟩
    skipped := skipped model }

end PersistLayer.Client
