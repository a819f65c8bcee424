import PersistLayer.Error
import PersistLayer.Text.Blank

/-!
# Settings

The settings of the generator: the database, the module that the sample is for
and the directory to write to.  They are read from variables, each with a default
where it is not set.  A blank module name counts as not set.
-/

namespace PersistLayer.Config

/-- The settings of the generator. -/
structure Settings where
  datasource : Datasource
  moduleName : Option String
  outputDir : String
  deriving Repr, DecidableEq

namespace Settings

/-- The variable that names the datasource. -/
def datasourceVariable : String := "PERSIST_DATASOURCE"

/-- The variable that names the module whose sample values are written.  A blank name counts as
none. -/
def moduleVariable : String := "PERSIST_MODULE"

/-- The variable that names the directory of the generated files. -/
def outputDirVariable : String := "PERSIST_OUTPUT_DIR"

/-- The directory that is written to when no other is set. -/
def defaultOutputDir : String := "./generated"

/-- The settings for given values of the variables. -/
def ofVariables (lookup : String → Option String) : Except GenerationError Settings :=
  let name := (lookup datasourceVariable).getD Datasource.mysql.identifier
  match Datasource.ofIdentifier? name with
  | none => .error (.config .unknownDatasource)
  | some datasource =>
    .ok
      { datasource
        moduleName := (lookup moduleVariable).filter fun name => !Text.allBlank name.toList
        outputDir := (lookup outputDirVariable).getD defaultOutputDir }

/-- The module name, which must be set. -/
def requireModule (settings : Settings) : Except GenerationError String :=
  match settings.moduleName with
  | some name => .ok name
  | none => .error (.config .missingModule)

end Settings

end PersistLayer.Config
