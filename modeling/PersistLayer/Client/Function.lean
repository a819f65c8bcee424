import PersistLayer.Client.Body
import PersistLayer.Client.Key
import PersistLayer.Client.Metadata
import PersistLayer.DataTypes

/-!
# Client functions

The members that make up a client: five resource functions for each entity, the
two functions for native queries, `init` and `close`, and the fields of the
class.
-/

namespace PersistLayer.Client

open Schema Syntax

/-! ## Types and qualifiers -/

/-- The error type of all functions. -/
def persistError : TypeDesc := .qualified "persist" "Error"

/-- The type of query parameters. -/
def parameterizedQuery : TypeDesc := .qualified "sql" "ParameterizedQuery"

/-- A stream that may end in an error. -/
def streamOf (row : TypeDesc) : TypeDesc := .stream row (.optional persistError)

/-- The type of what a query is asked for. -/
def targetType : TypeDesc := .plain "targetType"

/-- The qualifiers of the functions that belong to an entity. -/
def resourceQualifiers : List Qualifier := [.isolated, .resource]

/-- The qualifiers of the functions that take native queries. -/
def remoteQualifiers : List Qualifier := [.remote, .isolated]

/-- The qualifiers of `close` and of the functions that wire tests. -/
def publicQualifiers : List Qualifier := [.exposed, .isolated]

/-- Makes a function external. -/
def external (policy : Policy) (method : Option String) (function : FunctionDef) :
    Except GenerationError FunctionDef :=
  return function.withExternal
    (← readFragment "client/external" annotationIn (Body.external policy.processorClass method))

/-- Gives a function the statements of a text. -/
def withBody (fragment text : String) (function : FunctionDef) :
    Except GenerationError FunctionDef :=
  return function.withStatements (← readFragment fragment statementsIn text)

/-! ## Resource functions -/

/-- The path of all records of an entity. -/
def collectionPath (entity : Entity) : List PathSegment := [.name entity.resourceName]

/-- The path of one record of an entity. -/
def recordPath (entity : Entity) : List PathSegment :=
  collectionPath entity ++ Key.path entity.keyFields

/-- The parameter that says what a query is asked for. -/
def targetParam (entity : Entity) : Param :=
  ⟨.plain (DataTypes.targetTypeName entity.name), "targetType", some "<>"⟩

/-- The parameters that restrict and arrange the records of a query. -/
def clauseParams : List Param :=
  ["whereClause", "orderByClause", "limitClause", "groupByClause"].map fun name =>
    ⟨parameterizedQuery, name, some "``"⟩

/-- Reads all records. -/
def getAll (policy : Policy) (entity : Entity) : Except GenerationError FunctionDef :=
  external policy (some "query")
    ((FunctionDef.resource "get" (collectionPath entity) resourceQualifiers
      (some (streamOf targetType))).withParams (targetParam entity :: clauseParams))

/-- Reads one record. -/
def getOne (policy : Policy) (entity : Entity) : Except GenerationError FunctionDef :=
  external policy (some "queryOne")
    ((FunctionDef.resource "get" (recordPath entity) resourceQualifiers
      (some (targetType.or persistError))).withParams [targetParam entity])

/-- Creates records. -/
def post (entity : Entity) : Except GenerationError FunctionDef :=
  let insertType := DataTypes.insertName entity.name
  let keys := entity.keyFields
  withBody "client/post" (Body.post entity.constantName insertType (Key.projection keys))
    ((FunctionDef.resource "post" (collectionPath entity) resourceQualifiers
      (some ((TypeDesc.array (Key.type keys)).or persistError))).withParams
        [⟨.array (.plain insertType), "data", none⟩])

/-- Updates one record. -/
def put (entity : Entity) : Except GenerationError FunctionDef :=
  let keys := entity.keyFields
  withBody "client/put"
    (Body.put entity.constantName entity.resourceName (Key.argument keys) (Key.clientPath keys))
    ((FunctionDef.resource "put" (recordPath entity) resourceQualifiers
      (some ((TypeDesc.plain entity.name).or persistError))).withParams
        [⟨.plain (DataTypes.updateName entity.name), "value", none⟩])

/-- Deletes one record. -/
def delete (entity : Entity) : Except GenerationError FunctionDef :=
  let keys := entity.keyFields
  withBody "client/delete"
    (Body.delete entity.name entity.constantName entity.resourceName (Key.argument keys)
      (Key.clientPath keys))
    (FunctionDef.resource "delete" (recordPath entity) resourceQualifiers
      (some ((TypeDesc.plain entity.name).or persistError)))

/-- The resource functions of an entity. -/
def resourceFunctions (policy : Policy) (entity : Entity) :
    Except GenerationError (List FunctionDef) :=
  return [← getAll policy entity, ← getOne policy entity, ← post entity, ← put entity,
    ← delete entity]

/-! ## Functions of the client itself -/

/-- Runs a query written by the user. -/
def queryNativeSql (policy : Policy) : Except GenerationError FunctionDef :=
  external policy none
    ((FunctionDef.named "queryNativeSQL" remoteQualifiers
      (some (streamOf (.plain "rowType")))).withParams
        [⟨parameterizedQuery, "sqlQuery", none⟩,
          ⟨.typedesc .openRecord, "rowType", some "<>"⟩])

/-- Runs a statement written by the user. -/
def executeNativeSql (policy : Policy) : Except GenerationError FunctionDef :=
  external policy none
    ((FunctionDef.named "executeNativeSQL" remoteQualifiers
      (some ((TypeDesc.qualified "psql" "ExecutionResult").or persistError))).withParams
        [⟨parameterizedQuery, "sqlQuery", none⟩])

/-- Closes the connection. -/
def close : Except GenerationError FunctionDef :=
  withBody "client/close" Body.close
    (FunctionDef.named "close" publicQualifiers (some (.optional persistError)))

/-- The arguments of the connection. -/
def connectArguments : Access → String
  | .direct =>
    "host = host, user = user, password = password, database = database, port = port, " ++
      "options = connectionOptions"
  | .bridged => "url = url, user = user, password = password, options = connectionOptions"

/-- Opens the connection. -/
def init (policy : Policy) (params : List Param) (entities : List Entity) :
    Except GenerationError FunctionDef :=
  let registrations :=
    entities.map fun entity =>
      Body.registration policy.sqlSpecifics policy.hasCustomSchema entity.constantName
  withBody "client/init"
    (Body.init policy.clientType (connectArguments policy.access) (withCommas registrations))
    ((FunctionDef.named "init" publicQualifiers (some (.optional persistError))).withParams
      params)

/-! ## Fields -/

/-- The fields of the class: what it implements, its connection, the SQL client of
each entity and the metadata. -/
def fields (policy : Policy) (entities : List Entity) : Except GenerationError (List Snippet) :=
  return [
    ← readFragment "client/abstract" memberIn "*persist:AbstractPersistClient;",
    ← readFragment "client/db_field" memberIn
      ("private final " ++ policy.clientType ++ " dbClient;"),
    ← readFragment "client/persist_clients" memberIn
      "private final map<psql:SQLClient> persistClients;",
    ← readFragment "client/metadata" memberIn
      (metadataText (entities.map (describe entities)))]

end PersistLayer.Client
