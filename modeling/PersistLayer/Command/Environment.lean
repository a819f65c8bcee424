/-!
# Environments

An environment is a list of texts of the form `NAME=VALUE`.  The value of a name is
what stands behind the name and an equals sign in the first text that begins with
them, so a name that has an equals sign itself reaches into a value.  The empty
name has no value.

The system keeps bytes.  A value that is no text in UTF-8 is there for the system, but a
program that asks for a text is told that the variable is not set.
-/

namespace PersistLayer.Command

/-- The variables and their values, in order. -/
abbrev Environment := List (String × String)

namespace Environment

/-- What stands behind `front` in a text that begins with it. -/
def behind? (front text : List Char) : Option (List Char) :=
  if front.isPrefixOf text then some (text.drop front.length) else none

/-- A variable and its value as one text. -/
def entryText (entry : String × String) : List Char :=
  entry.1.toList ++ '=' :: entry.2.toList

/-- The text of a name. -/
def text? (environment : Environment) (name : String) : Option String :=
  if name == "" then none
  else
    environment.findSome? fun entry =>
      (behind? (name.toList ++ ['=']) (entryText entry)).map String.ofList

/-- The bytes that the system keeps for a name. -/
def value? (environment : Environment) (name : String) : Option ByteArray :=
  (environment.text? name).map String.toUTF8

/-- A value that an environment can hold: the character that ends texts for the
system is not in it. -/
def canHold (value : String) : Bool := !value.toList.contains '\x00'

end Environment

/-- The text of a name in the process, or else in what was assigned on top of it. -/
def merged (process : String → Option String) (assigned : Environment) (name : String) :
    Option String := (process name).or (assigned.text? name)

/-- The text of a variable of the process, where it is set to a text. -/
def textOfVariable (values : String → Option ByteArray) (name : String) : Option String :=
  if name == "" then none else (values name).bind String.fromUTF8?

end PersistLayer.Command
