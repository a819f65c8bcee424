import PersistLayer.Client.Function
import PersistLayer.Client.Flavour
import PersistLayer.Sql.Drop
import PersistLayer.Sql.Script

/-!
# Test wiring

The file that prepares a database in memory for tests.  `setupTestDB` runs every
script, and `cleanupTestDB` runs those again that drop something, both in the
order in which the scripts are given.

A script is put between backticks as it is, so it must hold no backtick, and no
dollar sign in front of an opening brace.
-/

namespace PersistLayer.TestWiring

open Syntax

/-- A text that would begin an interpolation inside a template literal. -/
def beginsInterpolation : List Char → Bool
  | [] => false
  | [_] => false
  | a :: b :: rest => (a == '$' && b == '\x7b') || beginsInterpolation (b :: rest)

/-- A script that can stand in a template literal. -/
def isEmbeddable (script : List Char) : Bool :=
  !script.contains backtick && !beginsInterpolation script

/-- The scripts to run: without blanks at their ends, and not blank. -/
def scriptsToRun (scripts : List String) : List (List Char) :=
  (scripts.map fun script => Text.trim script.toList).filter fun script => !script.isEmpty

/-- The statement that runs a script. -/
def execute (script : List Char) : Except GenerationError Snippet :=
  let text := String.ofList script
  if isEmbeddable script then
    readFragment "test/execute" statementIn
      ("_ = check h2Client->executeNativeSQL(`" ++ text ++ "`);")
  else .error (.unembeddableScript text)

/-- A function of the wiring. -/
def wiringFunction (name : String) (statements : List Snippet) : FunctionDef :=
  (FunctionDef.named name Client.publicQualifiers
    (some (.optional Client.persistError))).withStatements statements

/-- The name of the function that fills the database. -/
def setupName : String := "setupTestDB"

/-- The name of the function that empties the database. -/
def cleanupName : String := "cleanupTestDB"

/-- The declaration of the client that the wiring uses. -/
def testClientDeclaration : String :=
  "isolated final H2Client h2Client = check new (\"jdbc:h2:./test\", \"sa\", \"\");"

/-- The file that wires up tests. -/
def generate (scripts : List String) : Except GenerationError SourceFile := do
  let statements ← (scriptsToRun scripts).mapM fun script => do
    return (← execute script, Sql.isDrop script)
  let client ← readFragment "test/mock_client" memberIn testClientDeclaration
  let setup := statements.map Prod.fst
  let cleanup := (statements.filter Prod.snd).map Prod.fst
  return ⟨[⟨"ballerina", "persist", none, some (.autogenerated none)⟩], none,
    [.snippet client, .function (wiringFunction setupName setup),
      .function (wiringFunction cleanupName cleanup)]⟩

end PersistLayer.TestWiring
