import PersistLayer.Datasource
import PersistLayer.Syntax.Error

/-!
# Why nothing is generated

The causes for which a generator, the configuration or the writing of a file
fails, each with the wording that is shown for it.
-/

namespace PersistLayer

/-- What is wrong with the configuration. -/
inductive ConfigError where
  | unknownDatasource
  | blankModule
  | missingModule
  | unreadableEnvironment (path : String)
  | unsettableVariable (name : String)
  deriving Repr, DecidableEq

/-- The wording of a configuration error. -/
def ConfigError.message : ConfigError → String
  | unknownDatasource =>
    "PERSIST_DATASOURCE must be one of " ++
      ", ".intercalate (Datasource.all.map Datasource.identifier)
  | blankModule => "Module name is required for the config sample"
  | missingModule => "PERSIST_MODULE or --module is required"
  | unreadableEnvironment path => "Failed to load " ++ path
  | unsettableVariable name => "Failed to set " ++ name

/-- The causes for which generation fails. -/
inductive GenerationError where
  | emptySchema (model : String)
  | unsupportedDatasource (identifier : String)
  | malformedSnippet (fragment : String) (cause : Syntax.SyntaxError)
  | missingKey (entity : String)
  | unembeddableScript (script : String)
  | nameCollision (first second name : String)
  | config (cause : ConfigError)
  | unreadableScript (path : String)
  | output
  deriving Repr, DecidableEq

/-- The wording of an error. -/
def GenerationError.message : GenerationError → String
  | emptySchema model => "Module '" ++ model ++ "' does not contain any entities"
  | unsupportedDatasource identifier => "Unsupported datasource: " ++ identifier
  | malformedSnippet fragment cause =>
    "Malformed snippet '" ++ fragment ++ "': Parse error: " ++ cause.message
  | missingKey entity => "Entity '" ++ entity ++ "' has no key fields"
  | unembeddableScript script =>
    "Script cannot be embedded in a template literal: " ++ script
  | nameCollision first second name =>
    "Entities '" ++ first ++ "' and '" ++ second ++ "' both map to '" ++ name ++ "'"
  | config cause => "Configuration error: " ++ cause.message
  | unreadableScript path => "Failed to read script " ++ path
  | output => "Failed to write output"

/-- The database of a given name, or the error that there is none. -/
def Datasource.ofIdentifier (identifier : String) : Except GenerationError Datasource :=
  match ofIdentifier? identifier with
  | some datasource => .ok datasource
  | none => .error (.unsupportedDatasource identifier)

end PersistLayer
