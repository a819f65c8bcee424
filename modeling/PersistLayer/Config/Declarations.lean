import PersistLayer.Fragment
import PersistLayer.Syntax.Tree

/-!
# Configurable declarations

The file that declares the values of the connection as configurable.  A direct
connection declares port, host and database, a bridged one a URL, and databases
with a custom schema let the default schema be chosen.
-/

namespace PersistLayer.Config

open Syntax

/-- The fragments that declare the values of a connection, by name. -/
def connectionFragments : Access → List (String × String)
  | .direct =>
    [("config/port", "configurable int port = ?;"),
      ("config/host", "configurable string host = ?;"),
      ("config/user", "configurable string user = ?;"),
      ("config/database", "configurable string database = ?;"),
      ("config/password", "configurable string password = ?;")]
  | .bridged =>
    [("config/url", "configurable string url = ?;"),
      ("config/user", "configurable string user = ?;"),
      ("config/password", "configurable string password = ?;")]

/-- All fragments of the file, by name. -/
def fragments (policy : Policy) : List (String × String) :=
  connectionFragments policy.access ++
    [("config/options",
      "configurable " ++ policy.connectorPrefix ++
        ":Options & readonly connectionOptions = \x7b\x7d;")] ++
    if policy.hasCustomSchema then
      [("config/default_schema", "configurable string? defaultSchema = ();")]
    else []

/-- The file of configurable declarations. -/
def declarations (datasource : Datasource) : Except GenerationError SourceFile := do
  let policy := datasource.policy
  let members ← (fragments policy).mapM fun (name, text) => readFragment name memberIn text
  return ⟨[⟨"ballerinax", policy.connectorModule, none, some (.autogenerated none)⟩], none,
    members.map ModuleMember.snippet⟩

end PersistLayer.Config
