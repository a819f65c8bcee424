import PersistLayer.Fragment

/-!
# Bodies of client functions

The statements of the client's functions as text.  Names, constants and keys are
put in as they are.
-/

namespace PersistLayer.Client.Body

/-- Fetches the SQL client that is registered under a constant. -/
def sqlClientLines (constant : String) : List String :=
  ["psql:SQLClient sqlClient;",
    "lock \x7b",
    "    sqlClient = self.persistClients.get(" ++ constant ++ ");",
    "\x7d"]

/-- Inserts records and returns their keys. -/
def post (constant insertType projection : String) : String :=
  textOfLines
    (sqlClientLines constant ++
      ["_ = check sqlClient.runBatchInsertQuery(data);",
        "return from " ++ insertType ++ " inserted in data",
        "    select " ++ projection ++ ";"])

/-- Updates a record and returns it. -/
def put (constant resource argument keyPath : String) : String :=
  textOfLines
    (sqlClientLines constant ++
      ["_ = check sqlClient.runUpdateQuery(" ++ argument ++ ", value);",
        "return self->/" ++ resource ++ "/" ++ keyPath ++ ".get();"])

/-- Deletes a record and returns what it was. -/
def delete (entity constant resource argument keyPath : String) : String :=
  textOfLines
    ([entity ++ " result = check self->/" ++ resource ++ "/" ++ keyPath ++ ".get();"] ++
      sqlClientLines constant ++
      ["_ = check sqlClient.runDeleteQuery(" ++ argument ++ ");", "return result;"])

/-- Closes the connection. -/
def close : String :=
  textOfLines
    ["error? result = self.dbClient.close();",
      "if result is error \x7b",
      "    return <persist:Error>error(result.message());",
      "\x7d",
      "return result;"]

/-- The registration of the SQL client of one constant. -/
def registration (specifics : String) (hasCustomSchema : Bool) (constant : String) : String :=
  "    [" ++ constant ++ "]: check new (dbClient, self.metadata.get(" ++ constant ++ "), psql:" ++
    specifics ++ (if hasCustomSchema then ", defaultSchema" else "") ++ ")"

/-- Opens the connection and registers the SQL clients, whose texts are given with
the commas between them. -/
def init (clientType connectArguments : String) (registrations : List String) : String :=
  textOfLines
    ([clientType ++ "|error dbClient = new (" ++ connectArguments ++ ");",
      "if dbClient is error \x7b",
      "    return <persist:Error>error(dbClient.message());",
      "\x7d",
      "self.dbClient = dbClient;",
      "self.persistClients = \x7b"] ++
    registrations ++ ["\x7d;"])

/-- The annotation of a function that a class outside the language implements, in
the method named `method` or else in the one of the function's own name. -/
def external (processor : String) (method : Option String) : String :=
  match method with
  | some name =>
    textOfLines
      ["@java:Method \x7b",
        "    'class: \"" ++ processor ++ "\",",
        "    name: \"" ++ name ++ "\"",
        "\x7d"]
  | none => textOfLines ["@java:Method \x7b", "    'class: \"" ++ processor ++ "\"", "\x7d"]

end PersistLayer.Client.Body
