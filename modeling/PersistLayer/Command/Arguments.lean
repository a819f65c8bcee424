import PersistLayer.Datasource

/-!
# Command-line arguments

A command line names a command, with options before and behind it.  The options
for the output directory, the environment file and the amount of logging may
stand on either side; where both sides give one, the side behind the command
counts.  An option may be given once on each side, but `-v` any number of times.

Arguments are read from the left, and reading stops at the first that is wrong or
that asks for help or for the version.  An option whose value is an argument of
its own is checked a little later: when the next option on its side is read, or
else at the end, for the side in front of the command at the very end.
-/

namespace PersistLayer.Command

/-! ## Commands and options -/

/-- The commands, and `help`, which takes the name of a command. -/
inductive CommandName where
  | config
  | configSample
  | testInit
  | help
  deriving Repr, DecidableEq

/-- The command of a given name. -/
def CommandName.ofText? : String → Option CommandName
  | "config" => some config
  | "config-sample" => some configSample
  | "test-init" => some testInit
  | "help" => some help
  | _ => none

/-- The options. -/
inductive OptionName where
  | output
  | envFile
  | verbose
  | help
  | version
  | datasource
  | moduleName
  | script
  deriving Repr, DecidableEq

namespace OptionName

/-- The option with a given long name. -/
def ofLong? : String → Option OptionName
  | "output" => some output
  | "env-file" => some envFile
  | "verbose" => some verbose
  | "help" => some help
  | "version" => some version
  | "datasource" => some datasource
  | "module" => some moduleName
  | "script" => some script
  | _ => none

/-- The option with a given short name. -/
def ofShort? : Char → Option OptionName
  | 'o' => some output
  | 'v' => some verbose
  | 'h' => some help
  | 'V' => some version
  | _ => none

/-- The option may stand behind a command, or in front of all commands where none
is given. -/
def isAllowed (option : OptionName) : Option CommandName → Bool
  | none =>
    match option with
    | output | envFile | verbose | help | version => true
    | _ => false
  | some command =>
    match option with
    | output | envFile | verbose | help => true
    | version => false
    | datasource => command == .config || command == .configSample
    | moduleName => command == .configSample
    | script => command == .testInit

/-- The option is followed by a value. -/
def takesValue : OptionName → Bool
  | verbose | help | version => false
  | _ => true

end OptionName

/-- The reasons for which no command is run: the user is shown what was asked for,
or the command line is wrong. -/
inductive Stop where
  | shown
  | misused
  deriving Repr, DecidableEq

/-- The values of the options on one side of the command. -/
structure Given where
  output : Option String := none
  envFile : Option String := none
  datasource : Option Datasource := none
  moduleName : Option String := none
  script : Option String := none
  deriving Repr, DecidableEq

/-- Sets the value of an option that is a path. -/
def setPath (old : Option String) (value : String) : Except Stop (Option String) :=
  if old.isSome || value == "" then .error .misused else .ok (some value)

/-- Takes an option with its value.  An option that is there already, an unknown
database and an empty path are refused. -/
def Given.set (given : Given) (option : OptionName) (value : String) : Except Stop Given :=
  match option with
  | .output => return { given with output := ← setPath given.output value }
  | .envFile => return { given with envFile := ← setPath given.envFile value }
  | .script => return { given with script := ← setPath given.script value }
  | .moduleName =>
    if given.moduleName.isSome then .error .misused
    else .ok { given with moduleName := some value }
  | .datasource =>
    match given.datasource, Datasource.ofIdentifier? value with
    | none, some datasource => .ok { given with datasource := some datasource }
    | _, _ => .error .misused
  | .verbose | .help | .version => .error .misused

/-! ## Reading -/

/-- An option that is not taken yet.  It waits for its value, or it has the value
from an argument of its own and is taken when the next option is read or the side
of the command ends. -/
inductive Waiting where
  | nothing
  | option (name : OptionName)
  | value (name : OptionName) (text : String)
  deriving Repr, DecidableEq

/-- The options taken so far and the one that is not. -/
structure Progress where
  given : Given
  waiting : Waiting
  deriving Repr, DecidableEq

/-- Takes the option that is not taken yet. -/
def Progress.settle (progress : Progress) : Except Stop Given :=
  match progress.waiting with
  | .nothing => .ok progress.given
  | .option _ => .error .misused
  | .value name text => progress.given.set name text

/-- Takes an option without a value of its own.  One that needs a value waits for
the next argument. -/
def takeBare (given : Given) (option : OptionName) : Except Stop Progress :=
  match option with
  | .help | .version => .error .shown
  | .verbose => .ok ⟨given, .nothing⟩
  | option => .ok ⟨given, .option option⟩

/-- Takes a long option, `--name` or `--name=value`. -/
def takeLong (command : Option CommandName) (given : Given) (text : List Char) :
    Except Stop Progress :=
  let name := text.takeWhile (· ≠ '=')
  match OptionName.ofLong? (String.ofList name) with
  | none => .error .misused
  | some option =>
    if !option.isAllowed command then .error .misused
    else
      match text.dropWhile (· ≠ '=') with
      | [] => takeBare given option
      | _ :: value =>
        if option.takesValue then
          return ⟨← given.set option (String.ofList value), .nothing⟩
        else .error .misused

/-- Takes short options that stand together.  What stands behind one that takes a
value is the value. -/
def takeShort (command : Option CommandName) (given : Given) :
    List Char → Except Stop Progress
  | [] => .ok ⟨given, .nothing⟩
  | c :: rest =>
    match OptionName.ofShort? c with
    | none => .error .misused
    | some option =>
      if !option.isAllowed command then .error .misused
      else if option.takesValue then
        match rest with
        | [] => .ok ⟨given, .option option⟩
        | '=' :: value => return ⟨← given.set option (String.ofList value), .nothing⟩
        | value => return ⟨← given.set option (String.ofList value), .nothing⟩
      else if option = .verbose then takeShort command given rest
      else .error .shown

/-- Reads the options on one side of the command, and gives back the arguments
from the first on that is no option.  Behind two dashes there are no options, and
nothing else is expected there either. -/
def readOptions (command : Option CommandName) (progress : Progress) :
    List String → Except Stop (Progress × List String)
  | [] => .ok (progress, [])
  | argument :: rest =>
    match progress.waiting with
    | .option name =>
      if argument.toList.head? == some '-' && argument ≠ "-" then .error .misused
      else readOptions command { progress with waiting := .value name argument } rest
    | _ =>
      match argument.toList with
      | '-' :: '-' :: [] => if rest.isEmpty then .ok (progress, []) else .error .misused
      | '-' :: '-' :: text => do
        readOptions command (← takeLong command (← progress.settle) text) rest
      | '-' :: c :: text => do
        readOptions command (← takeShort command (← progress.settle) (c :: text)) rest
      | _ => .ok (progress, argument :: rest)

/-! ## Invocations -/

/-- A command with what it needs. -/
inductive Task where
  | config (datasource : Option Datasource)
  | configSample (datasource : Option Datasource) (moduleName : Option String)
  | testInit (script : String)
  deriving Repr, DecidableEq

/-- A command line that is understood. -/
structure Invocation where
  task : Task
  output : Option String
  envFile : String
  deriving Repr, DecidableEq

/-- The environment file that is read when no other is named. -/
def defaultEnvFile : String := "./.env"

/-- The task of a command with the options behind it. -/
def taskOf (command : CommandName) (given : Given) : Except Stop Task :=
  match command with
  | .config => .ok (.config given.datasource)
  | .configSample => .ok (.configSample given.datasource given.moduleName)
  | .testInit =>
    match given.script with
    | some script => .ok (.testInit script)
    | none => .error .misused
  | .help => .error .misused

/-- What comes of `help` and the arguments behind it: the help of the program or
of one command is shown. -/
def helpOn : List String → Stop
  | [] => .shown
  | [name] => if (CommandName.ofText? name).isSome then .shown else .misused
  | _ => .misused

/-- Reads a command line.  The last option in front of the command is taken when
everything behind the command is read. -/
def readArguments (arguments : List String) : Except Stop Invocation := do
  let start : Progress := ⟨{}, .nothing⟩
  let (front, rest) ← readOptions none start arguments
  match rest with
  | [] => throw .misused
  | name :: rest =>
    match CommandName.ofText? name with
    | none => throw .misused
    | some .help => throw (helpOn rest)
    | some command =>
      let (behind, stray) ← readOptions (some command) start rest
      if !stray.isEmpty then throw .misused
      let behind ← behind.settle
      let task ← taskOf command behind
      let front ← front.settle
      return {
        task
        output := behind.output.or front.output
        envFile := (behind.envFile.or front.envFile).getD defaultEnvFile }

end PersistLayer.Command
