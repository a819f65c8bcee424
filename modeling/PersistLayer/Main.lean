import PersistLayer.Command.Run

/-!
# The program

Reads what a command needs from disk and writes what it makes.
-/

namespace PersistLayer.Command

/-- A path leads somewhere. -/
def leadsOnDisk (path : String) : IO Bool := do
  try
    let _ ← IO.FS.realPath path
    return true
  catch _ => return false

/-- What is found on disk at a path. -/
def entryOnDisk (path : String) : IO Files.Entry := do
  if ← leadsOnDisk path then
    try
      return .file (← IO.FS.readBinFile path)
    catch _ => return .directory
  else return .missing

/-- The value of each variable of the given names. -/
def environmentOnDisk (names : List String) : IO (List (String × String)) := do
  let found ← names.mapM fun name => do return (← IO.getEnv name).map fun value => (name, value)
  return found.filterMap id

/-- Ends the program after a message. -/
def fail (ending : Ending) (message : String) : IO UInt32 := do
  IO.eprintln message
  return ending.code.toUInt32

/-- Carries out an invocation on disk. -/
def carryOut (invocation : Invocation) : IO UInt32 := do
  let envFile ← entryOnDisk invocation.envFile
  let script ← invocation.task.scriptPath?.elim (pure .missing) entryOnDisk
  let names := (variablesOf envFile).filter fun name => !name.toList.contains '\x00'
  let environment ← environmentOnDisk names
  match generate invocation (fun name => environment.lookup name) envFile script with
  | .error error => fail (.ofError error) error.message
  | .ok output =>
    try
      unless output.directory == "" do IO.FS.createDirAll output.directory
      IO.FS.writeFile (Files.join output.directory output.artifact.fileName)
        output.artifact.render
      return Ending.done.code.toUInt32
    catch error => fail .failed (toString error)
where
  /-- The settings, and every word and every text between braces in the environment
  file: all that could name a variable. -/
  variablesOf (entry : Files.Entry) : List String :=
    let words := (textOf? entry).elim [] fun text =>
      [EnvFile.isKeyChar, Text.isAlphanumeric].flatMap fun isWordChar =>
        (text.toList.splitOnP fun c => !isWordChar c).map String.ofList
    let braced := (textOf? entry).elim [] fun text =>
      (text.toList.splitOn '\x7b').map fun piece => String.ofList (piece.takeWhile (· ≠ '\x7d'))
    [Config.Settings.datasourceVariable, Config.Settings.moduleVariable,
      Config.Settings.outputDirVariable] ++ words ++ braced

/-- Reads a command line and carries it out. -/
def runOnDisk (arguments : List String) : IO UInt32 :=
  match readArguments arguments with
  | .error stop => fail stop.ending "usage: (config | config-sample | test-init) [options]"
  | .ok invocation => carryOut invocation

end PersistLayer.Command

/-- The program, which tells by its exit code how the run ended. -/
def main (arguments : List String) : IO UInt32 := PersistLayer.Command.runOnDisk arguments
