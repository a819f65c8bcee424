import PersistLayer.Artifact
import PersistLayer.Command.Arguments
import PersistLayer.Command.EnvFile
import PersistLayer.Config.Declarations
import PersistLayer.Config.Settings
import PersistLayer.Files.Tree
import PersistLayer.TestWiring

/-!
# Running a command

A command reads its settings from the environment and the environment file, makes
one artifact and writes it.  `generate` says which artifact is written where, as
a function of what was read.  `run` puts reading and writing around it on a file
tree.  A run that fails leaves the tree as it was, but for directories that it made
before the file could not be opened, and for what a disk that is full took of the file.
-/

namespace PersistLayer.Command

open Files (Entry Tree)

/-- The text of a file, where there is one in UTF-8. -/
def textOf? : Entry → Option String
  | .file content => String.fromUTF8? content
  | _ => none

/-- The error that a fault of an environment file is. -/
def envFileError (path : String) : EnvFile.Fault → GenerationError
  | .malformed => .config (.unreadableEnvironment path)
  | .unsettable name => .config (.unsettableVariable name)

/-- The variables that an environment file sets.  A file that is missing sets
none. -/
def envFileVariables (environment : String → Option String) (path : String) (entry : Entry) :
    Except GenerationError Environment :=
  match entry with
  | .missing => .ok []
  | .directory => .error (.config (.unreadableEnvironment path))
  | .file content =>
    (EnvFile.assignedVariables environment content).mapError (envFileError path)

/-- The settings from the environment and an environment file. -/
def loadSettings (environment : String → Option String) (path : String) (entry : Entry) :
    Except GenerationError Config.Settings := do
  let assigned ← envFileVariables environment path entry
  Config.Settings.ofVariables (merged environment assigned)

/-- The artifact of a task, where `script` is what is found at the path of the
script. -/
def artifactOf (task : Task) (settings : Config.Settings) (script : Entry) :
    Except GenerationError Artifact := do
  match task with
  | .config datasource =>
    return .configDeclarations (← Config.declarations (datasource.getD settings.datasource))
  | .configSample datasource moduleName =>
    let settings := { settings with moduleName := moduleName.or settings.moduleName }
    let moduleName ← settings.requireModule
    return .configSample (← Config.sample moduleName (datasource.getD settings.datasource))
  | .testInit path =>
    match textOf? script with
    | none => throw (.unreadableScript path)
    | some text =>
      let statements := (Sql.splitStatements text.toList).map String.ofList
      return .testWiring (← TestWiring.generate statements)

/-- A file to be written. -/
structure Output where
  directory : String
  artifact : Artifact

/-- What an invocation writes, given the environment and what is found at the
paths of the environment file and of the script. -/
def generate (invocation : Invocation) (environment : String → Option String)
    (envFile script : Entry) : Except GenerationError Output := do
  let settings ← loadSettings environment invocation.envFile envFile
  let artifact ← artifactOf invocation.task settings script
  return ⟨invocation.output.getD settings.outputDir, artifact⟩

/-- The path of the script of a task. -/
def Task.scriptPath? : Task → Option String
  | testInit path => some path
  | _ => none

/-- Writes an output to a file tree, on a disk that may have a limit.  The result is the
tree that is left behind, and whether the file was written. -/
def Output.write (output : Output) (tree : Tree) (limit : Option Nat := none) : Tree × Bool :=
  tree.write output.directory output.artifact.fileName output.artifact.render limit

/-- Writes an artifact, with the tree behind it as the result. -/
def writeArtifact (tree : Tree) (directory : String) (artifact : Artifact) :
    Except GenerationError Tree :=
  match (Output.mk directory artifact).write tree with
  | (after, true) => .ok after
  | (_, false) => .error .output

/-- How a run ends.  It is broken off where a variable cannot be set. -/
inductive Ending where
  | done
  | failed
  | misused
  | brokenOff
  deriving Repr, DecidableEq

/-- The exit code of the program. -/
def Ending.code : Ending → Nat
  | done => 0
  | failed => 1
  | misused => 2
  | brokenOff => 101

/-- The end of a run that an error stops. -/
def Ending.ofError : GenerationError → Ending
  | .config (.unsettableVariable _) => .brokenOff
  | _ => .failed

/-- The end of a run that stops at its arguments. -/
def Stop.ending : Stop → Ending
  | shown => .done
  | misused => .misused

/-- What is found at the path of the script of a task. -/
def Task.findScript (task : Task) (tree : Tree) : Entry :=
  task.scriptPath?.elim .missing tree.find

/-- Runs an invocation on a file tree.  The script is read behind the environment file,
and all that is read is read before anything is written. -/
def runOn (tree : Tree) (values : String → Option ByteArray) (limit : Option Nat)
    (invocation : Invocation) : Ending × Tree :=
  let script := invocation.task.findScript (tree.behindReading invocation.envFile)
  match generate invocation (textOfVariable values) (tree.find invocation.envFile) script with
  | .error error => (.ofError error, tree)
  | .ok output =>
    match output.write tree limit with
    | (after, true) => (.done, after)
    | (after, false) => (.ofError .output, after)

/-- Runs a command line on a file tree, with the variables of the process, on a disk that
may have a limit. -/
def run (tree : Tree) (values : String → Option ByteArray) (arguments : List String)
    (limit : Option Nat := none) : Ending × Tree :=
  match readArguments arguments with
  | .error stop => (stop.ending, tree)
  | .ok invocation => runOn tree values limit invocation

end PersistLayer.Command
