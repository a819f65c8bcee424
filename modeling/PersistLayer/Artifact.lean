import PersistLayer.Config.Sample
import PersistLayer.Syntax.Render

/-!
# Artifacts

A generated file, its name and its text.
-/

namespace PersistLayer

/-- A generated file. -/
inductive Artifact where
  | client (source : Syntax.SourceFile)
  | dataTypes (source : Syntax.SourceFile)
  | configDeclarations (source : Syntax.SourceFile)
  | configSample (sample : Config.Sample)
  | testWiring (source : Syntax.SourceFile)
  deriving Repr

/-- The name under which an artifact is written. -/
def Artifact.fileName : Artifact → String
  | client _ => "persist_client.bal"
  | dataTypes _ => "persist_types.bal"
  | configDeclarations _ => "persist_db_config.bal"
  | configSample _ => "Config.toml"
  | testWiring _ => "persist_test_init.bal"

/-- The text of an artifact. -/
def Artifact.render : Artifact → String
  | client source | dataTypes source | configDeclarations source | testWiring source =>
    source.render
  | configSample sample => sample.render

end PersistLayer
