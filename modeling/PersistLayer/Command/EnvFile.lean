import PersistLayer.Command.Environment
import PersistLayer.Text.Alphanumeric
import PersistLayer.Text.Blank

/-!
# Environment files

An environment file assigns values to variables, one assignment a line.  Lines
that are blank or begin with `#` are skipped, a line may begin with `export`, and
a comment may follow an assignment.  Between single quotes a value is taken as it
is.  Elsewhere a backslash escapes, and `$NAME` and `$` with a name in braces
stand for the value of another variable.  A quoted value may go over several
lines.

A variable that is set in the environment keeps its value, and otherwise the
first assignment counts.  Lines are read and carried out one after the other, so
of several faults the first counts.
-/

namespace PersistLayer.Command.EnvFile

/-! ## Lines -/

/-- Where a line of the file leaves off.  A line ends an assignment only in
`complete`; `comment` ends one at the `#` in front of it. -/
inductive LineState where
  | complete
  | escape
  | blank
  | single
  | singleEscape
  | double
  | doubleEscape
  | comment
  deriving Repr, DecidableEq

/-- The state behind a character outside quotes. -/
def LineState.ofChar (c : Char) : LineState :=
  if c = '\\' then escape else if c = '"' then double else if c = '\'' then single else complete

/-- The state behind a character. -/
def LineState.after (state : LineState) (c : Char) : LineState :=
  match state with
  | complete => if Text.isBlank c && c != '\n' && c != '\r' then blank else ofChar c
  | blank => if c = '#' then comment else ofChar c
  | escape => complete
  | single => if c = '\\' then singleEscape else if c = '\'' then complete else single
  | singleEscape => single
  | double => if c = '\\' then doubleEscape else if c = '"' then complete else double
  | doubleEscape => double
  | comment => comment

/-- The state behind a line, and the line up to a comment in it. -/
def readLine (state : LineState) : List Char → LineState × List Char
  | [] => (state, [])
  | c :: rest =>
    match state.after c with
    | .comment => (.comment, [])
    | next =>
      let (final, kept) := readLine next rest
      (final, c :: kept)

/-- The lines of a file, each with the line feed that ends it. -/
def linesOf : List UInt8 → List (List UInt8)
  | [] => []
  | byte :: rest =>
    if byte = 10 then [byte] :: linesOf rest
    else
      match linesOf rest with
      | [] => [[byte]]
      | line :: lines => (byte :: line) :: lines

/-- The text of a line in UTF-8. -/
def textOfLine? (line : List UInt8) : Option (List Char) :=
  (String.fromUTF8? ⟨line.toArray⟩).map String.toList

/-- Joins the lines of each assignment.  `front` holds the lines of the one being
read.  The list ends with nothing where a line is no text or the file ends in the
middle of an assignment. -/
def assignmentsOnto (front : List Char) (state : LineState) :
    List (List UInt8) → List (Option (List Char))
  | [] => if state = .complete then [] else [none]
  | bytes :: rest =>
    match textOfLine? bytes with
    | none => [none]
    | some line =>
      let all := front ++ line
      if (Text.trimStart all).head? == some '#' then assignmentsOnto [] .complete rest
      else
        match readLine state line with
        | (.comment, kept) => some (front ++ kept) :: assignmentsOnto [] .complete rest
        | (.complete, _) => some all :: assignmentsOnto [] .complete rest
        | (next, _) => assignmentsOnto all next rest

/-! ## Values -/

/-- What a value has come to.  In `name` and `bracedName` the name of a variable
is being read, which is kept backwards. -/
inductive Part where
  | plain
  | escape
  | single
  | name
  | bracedName
  | done
  deriving Repr, DecidableEq

/-- A value being read: the part it is in, whether double quotes are open, the
name of a variable and the value so far, both backwards. -/
structure Value where
  part : Part
  inDouble : Bool
  variableName : List Char
  text : List Char
  deriving Repr, DecidableEq

/-- Puts the value of the variable that was named behind a value. -/
def Value.substitute (value : Value) (lookup : String → Option String) : Value :=
  let found := (lookup (String.ofList value.variableName.reverse)).getD ""
  { value with variableName := [], text := found.toList.reverse ++ value.text }

/-- Adds a character to a value. -/
def Value.add (value : Value) (c : Char) : Value :=
  { value with part := .plain, text := c :: value.text }

/-- Reads a character in no particular part. -/
def Value.plainStep (value : Value) (c : Char) : Value :=
  if c = '$' then { value with part := .name }
  else if c = '\\' then { value with part := .escape }
  else if value.inDouble then
    if c = '"' then { value with inDouble := false } else value.add c
  else if c = '\'' then { value with part := .single }
  else if c = '"' then { value with inDouble := true }
  else if c = ' ' || c = '\t' then { value with part := .done }
  else value.add c

/-- What may follow a backslash. -/
def unescape? (c : Char) : Option Char :=
  if c = 'n' then some '\n' else if ['\\', '\'', '"', '$', ' '].contains c then some c else none

/-- Reads a value.  The result is nothing where the value is faulty. -/
def readValue (lookup : String → Option String) (value : Value) : List Char → Option String
  | [] =>
    if value.part = .bracedName || value.part = .single || value.inDouble then none
    else some (String.ofList (value.substitute lookup).text.reverse)
  | c :: rest =>
    match value.part with
    | .done =>
      if c = ' ' || c = '\t' then readValue lookup value rest
      else if c = '#' then some (String.ofList value.text.reverse)
      else none
    | .escape =>
      match unescape? c with
      | some meant => readValue lookup (value.add meant) rest
      | none => none
    | .single =>
      if c = '\'' then readValue lookup { value with part := .plain } rest
      else readValue lookup { value with text := c :: value.text } rest
    | .name =>
      if Text.isAlphanumeric c then
        readValue lookup { value with variableName := c :: value.variableName } rest
      else if c = '\x7b' && value.variableName.isEmpty then
        readValue lookup { value with part := .bracedName } rest
      else if c = '$' then readValue lookup (value.substitute lookup) rest
      else readValue lookup ((value.substitute lookup).add c) rest
    | .bracedName =>
      if c = '\x7d' then
        readValue lookup { value.substitute lookup with part := .plain } rest
      else readValue lookup { value with variableName := c :: value.variableName } rest
    | .plain => readValue lookup (value.plainStep c) rest

/-! ## Assignments -/

/-- A character that can begin the name of a variable. -/
def isKeyStart (c : Char) : Bool := c.isAlpha || c == '_'

/-- A character of the name of a variable. -/
def isKeyChar (c : Char) : Bool := c.isAlphanum || c == '_' || c == '.'

/-- The name at the beginning of a line and what stands behind it and behind the
blanks there. -/
def readKey (line : List Char) : Option (List Char × List Char) :=
  if line.head?.any isKeyStart then
    some (line.takeWhile isKeyChar, Text.trimStart (line.dropWhile isKeyChar))
  else none

/-- What stands behind an equals sign. -/
def behindEquals : List Char → Option (List Char)
  | '=' :: rest => some rest
  | _ => none

/-- The name that a line assigns to, and the text of the value.  The word
`export` in front is skipped, unless it is itself the name. -/
def readHead (line : List Char) : Option (List Char × List Char) := do
  let (key, rest) ← readKey line
  match behindEquals rest with
  | some value => return (key, Text.trimStart value)
  | none =>
    if key = "export".toList then
      let (key, rest) ← readKey rest
      return (key, Text.trimStart (← behindEquals rest))
    else none

/-- What a line says: nothing, or an assignment.  The result is nothing at all
where the line is faulty. -/
def readAssignment (lookup : String → Option String) (line : List Char) :
    Option (Option (String × String)) :=
  let line := Text.trim line
  if line.isEmpty || line.head? == some '#' then some none
  else do
    let (key, text) ← readHead line
    let value ←
      if text.isEmpty || text.head? == some '#' then some ""
      else readValue lookup ⟨.plain, false, [], []⟩ text
    return some (String.ofList key, value)

/-- Why an environment file cannot be used: a line of it is no assignment, or a
variable is given a value that it cannot have. -/
inductive Fault where
  | malformed
  | unsettable (name : String)
  deriving Repr, DecidableEq

/-- Carries out assignments in order, on top of those that count so far. -/
def assign (environment : String → Option String) (assigned : Environment) :
    List (Option (List Char)) → Except Fault Environment
  | [] => .ok assigned
  | none :: _ => .error .malformed
  | some line :: rest =>
    match readAssignment (merged environment assigned) line with
    | none => .error .malformed
    | some none => assign environment assigned rest
    | some (some (key, value)) =>
      if (merged environment assigned key).isSome then assign environment assigned rest
      else if Environment.canHold value then assign environment (assigned ++ [(key, value)]) rest
      else .error (.unsettable key)

/-- A file without the mark that may begin it. -/
def withoutMark : List UInt8 → List UInt8
  | 0xEF :: 0xBB :: 0xBF :: rest => rest
  | bytes => bytes

/-- The assignments of a file, each with its lines joined. -/
def assignmentsIn (content : ByteArray) : List (Option (List Char)) :=
  assignmentsOnto [] .complete (linesOf (withoutMark content.data.toList))

/-- The variables that a file sets. -/
def assignedVariables (environment : String → Option String) (content : ByteArray) :
    Except Fault Environment :=
  assign environment [] (assignmentsIn content)

end PersistLayer.Command.EnvFile
