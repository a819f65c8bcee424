import PersistLayer.Syntax.Name
import PersistLayer.Syntax.Tree

/-!
# Source text

The text of a source tree.  Imports come first, then the members with a blank
line between any two, except that neighbouring constants, and neighbouring
snippets, stand on consecutive lines.
-/

namespace PersistLayer.Syntax

/-! ## Lines and comments -/

/-- The blanks in front of a line at a depth. -/
def indentation (depth : Nat) : String := String.ofList (List.replicate (4 * depth) ' ')

/-- A line of a snippet at a depth.  Verbatim and empty lines get no blanks. -/
def SnippetLine.render (line : SnippetLine) (depth : Nat) : String :=
  if line.verbatim || line.text == "" then line.text ++ "\n"
  else indentation depth ++ line.text ++ "\n"

/-- A snippet at a depth. -/
def Snippet.render (snippet : Snippet) (depth : Nat) : String :=
  String.join (snippet.lines.map fun line => line.render depth)

/-- A comment and the blank line that sets it off. -/
def Comment.render (comment : Comment) : String :=
  String.join (comment.lines.map fun line => if line == "" then "\n" else "// " ++ line ++ "\n") ++
    "\n"

/-- An import with its comment. -/
def Import.render (entry : Import) : String :=
  entry.comment.elim "" Comment.render ++ "import " ++ entry.org ++ "/" ++ entry.moduleName ++
    (entry.boundTo.elim "" fun name => " as " ++ name) ++ ";\n"

/-! ## Functions -/

/-- The qualifiers of a declaration, each followed by a blank. -/
def renderQualifiers (qualifiers : List Qualifier) : String :=
  String.join (qualifiers.map fun qualifier => qualifier.word ++ " ")

/-- A parameter. -/
def Param.render (param : Param) : String :=
  param.type.text ++ " " ++ quotedName param.name ++
    (param.default.elim "" fun value => " = " ++ value)

/-- A segment of a resource path. -/
def PathSegment.render : PathSegment → String
  | .name text => quotedName text
  | .param type label => "[" ++ type.text ++ " " ++ quotedName label ++ "]"

/-- What stands between `function` and the parameters. -/
def FunctionKind.render : FunctionKind → String
  | named name => name
  | resource accessor path => accessor ++ " " ++ "/".intercalate (path.map PathSegment.render)

/-- An annotation that continues a line: without the blanks in front of its first
line and without the line feeds behind its last. -/
def renderInline (marking : Snippet) (depth : Nat) : String :=
  let text := Text.trimStart (marking.render depth).toList
  String.ofList (text.reverse.dropWhile (· == '\n')).reverse

/-- The body of a function at a depth. -/
def FunctionBody.render (body : FunctionBody) (depth : Nat) : String :=
  match body with
  | block statements =>
    " \x7b\n" ++ String.join (statements.map fun statement => statement.render (depth + 1)) ++
      indentation depth ++ "\x7d\n"
  | external marking => " = " ++ renderInline marking depth ++ " external;\n"

/-- A function at a depth. -/
def FunctionDef.render (function : FunctionDef) (depth : Nat) : String :=
  indentation depth ++ renderQualifiers function.qualifiers ++ "function " ++
    function.kind.render ++ "(" ++ ", ".intercalate (function.params.map Param.render) ++ ")" ++
    (function.returns.elim "" fun type => " returns " ++ type.text) ++
    function.body.render depth

/-! ## Types and classes -/

/-- A field or inclusion of a record type. -/
def RecordField.render : RecordField → String
  | field isReadonly type name isOptional =>
    "    " ++ (if isReadonly then "readonly " else "") ++ type.text ++ " " ++ quotedName name ++
      (if isOptional then "?" else "") ++ ";\n"
  | inclusion type => "    *" ++ type.text ++ ";\n"

/-- The definition of a type. -/
def TypeBody.render (body : TypeBody) (name : String) : String :=
  match body with
  | synonym type => "public type " ++ name ++ " " ++ type.text ++ ";\n"
  | record fields =>
    "public type " ++ name ++ " record \x7b|\n" ++ String.join (fields.map RecordField.render) ++
      "|\x7d;\n"

/-- The declaration of an enumeration. -/
def renderEnum (name : String) (members : List String) : String :=
  "public enum " ++ name ++ " \x7b\n" ++
    ",\n".intercalate (members.map fun member => "    " ++ quotedName member) ++ "\n\x7d\n"

/-- A member of a class. -/
def ClassMember.render : ClassMember → String
  | .field declaration => declaration.render 1
  | .function definition => definition.render 1

/-- A class, with a blank line between any two members. -/
def ClassDef.render (definition : ClassDef) : String :=
  renderQualifiers definition.qualifiers ++ "class " ++ definition.name ++ " \x7b\n" ++
    "\n".intercalate (definition.members.map ClassMember.render) ++ "\x7d\n"

/-! ## Modules -/

/-- A member of a module. -/
def ModuleMember.render : ModuleMember → String
  | .const name value => "const " ++ name ++ " = " ++ stringLiteral value ++ ";\n"
  | .enum name members => renderEnum name members
  | .type name body => body.render name
  | .classDef definition => definition.render
  | .function definition => definition.render 0
  | .snippet declaration => declaration.render 0

/-- Two neighbouring members that stand on consecutive lines. -/
def ModuleMember.joins : ModuleMember → ModuleMember → Bool
  | .const .., .const .. => true
  | .snippet _, .snippet _ => true
  | _, _ => false

/-- The members behind a given one, each set off from the one before. -/
def renderBehind (previous : ModuleMember) : List ModuleMember → String
  | [] => ""
  | member :: rest =>
    (if previous.joins member then "" else "\n") ++ member.render ++ renderBehind member rest

/-- The members of a module. -/
def renderMembers : List ModuleMember → String
  | [] => ""
  | member :: rest => member.render ++ renderBehind member rest

/-- The text of a source file. -/
def SourceFile.render (file : SourceFile) : String :=
  let head :=
    if file.imports.isEmpty then file.comment.elim "" Comment.render
    else String.join (file.imports.map Import.render)
  let gap := if file.imports.isEmpty || file.members.isEmpty then "" else "\n"
  head ++ gap ++ renderMembers file.members

end PersistLayer.Syntax
