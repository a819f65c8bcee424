import PersistLayer.Syntax.Snippet
import PersistLayer.Syntax.TypeDesc

/-!
# Source trees

Generated files are trees of declarations.  Free text enters a tree only as a
snippet, so its brackets are balanced and its literals closed.
-/

namespace PersistLayer.Syntax

/-! ## Comments and imports -/

/-- A block of comment lines.  An empty line stays blank. -/
structure Comment where
  lines : List String
  deriving Repr, DecidableEq

/-- The comment at the top of a generated file. -/
def Comment.autogenerated (subject : Option String) : Comment where
  lines :=
    ["AUTO-GENERATED FILE. DO NOT MODIFY.", "",
      "This file is an auto-generated file by Ballerina persistence layer" ++
        (subject.elim "" fun name => " for " ++ name) ++ ".",
      "It should not be modified by hand."]

/-- The import of a module, bound to another name where `boundTo` gives one. -/
structure Import where
  org : String
  moduleName : String
  boundTo : Option String
  comment : Option Comment
  deriving Repr, DecidableEq

/-! ## Functions -/

/-- The words in front of a declaration. -/
inductive Qualifier where
  | exposed
  | hidden
  | isolated
  | remote
  | resource
  | client
  | fixed
  deriving Repr, DecidableEq

/-- A qualifier as it is written. -/
def Qualifier.word : Qualifier → String
  | exposed => "public"
  | hidden => "private"
  | isolated => "isolated"
  | remote => "remote"
  | resource => "resource"
  | client => "client"
  | fixed => "final"

/-- A parameter, with the text of its default value if it has one. -/
structure Param where
  type : TypeDesc
  name : String
  default : Option String
  deriving Repr

/-- A segment of the path of a resource function. -/
inductive PathSegment where
  | name (name : String)
  | param (type : TypeDesc) (name : String)
  deriving Repr

/-- How a function is called: by its name, or by an accessor on a path. -/
inductive FunctionKind where
  | named (name : String)
  | resource (accessor : String) (path : List PathSegment)
  deriving Repr

/-- The body of a function: statements, or an annotation that names an external
implementation. -/
inductive FunctionBody where
  | block (statements : List Snippet)
  | external (marking : Snippet)
  deriving Repr

/-- A function. -/
structure FunctionDef where
  qualifiers : List Qualifier
  kind : FunctionKind
  params : List Param
  returns : Option TypeDesc
  body : FunctionBody
  deriving Repr

namespace FunctionDef

/-- A function without parameters and statements. -/
def named (name : String) (qualifiers : List Qualifier) (returns : Option TypeDesc) :
    FunctionDef :=
  ⟨qualifiers, .named name, [], returns, .block []⟩

/-- A resource function without parameters and statements. -/
def resource (accessor : String) (path : List PathSegment) (qualifiers : List Qualifier)
    (returns : Option TypeDesc) : FunctionDef :=
  ⟨qualifiers, .resource accessor path, [], returns, .block []⟩

/-- Adds parameters behind those there are. -/
def withParams (function : FunctionDef) (params : List Param) : FunctionDef :=
  { function with params := function.params ++ params }

/-- The statements of a body.  An external body has none. -/
def statements (function : FunctionDef) : List Snippet :=
  match function.body with
  | .block statements => statements
  | .external _ => []

/-- Adds a statement behind those there are.  An external body becomes a block
again. -/
def push (function : FunctionDef) (statement : Snippet) : FunctionDef :=
  { function with body := .block (function.statements ++ [statement]) }

/-- Adds statements behind those there are.  Without statements to add the body
stays as it is. -/
def withStatements (function : FunctionDef) (statements : List Snippet) : FunctionDef :=
  statements.foldl push function

/-- Replaces the body by an external one. -/
def withExternal (function : FunctionDef) (marking : Snippet) : FunctionDef :=
  { function with body := .external marking }

/-- The name of a function, or the accessor of a resource function. -/
def name (function : FunctionDef) : String :=
  match function.kind with
  | .named name => name
  | .resource accessor _ => accessor

/-- The function is a resource function. -/
def isResource (function : FunctionDef) : Bool :=
  match function.kind with
  | .named _ => false
  | .resource .. => true

end FunctionDef

/-! ## Classes -/

/-- A member of a class. -/
inductive ClassMember where
  | field (declaration : Snippet)
  | function (function : FunctionDef)
  deriving Repr

/-- A class. -/
structure ClassDef where
  name : String
  qualifiers : List Qualifier
  members : List ClassMember
  deriving Repr

/-- The function that a class member is. -/
def ClassMember.function? : ClassMember → Option FunctionDef
  | field _ => none
  | function found => some found

/-- The functions of a class, in order. -/
def ClassDef.functions (definition : ClassDef) : List FunctionDef :=
  definition.members.filterMap ClassMember.function?

/-! ## Modules -/

/-- A field of a record type, or the inclusion of another record type. -/
inductive RecordField where
  | field (isReadonly : Bool) (type : TypeDesc) (name : String) (isOptional : Bool)
  | inclusion (type : TypeDesc)
  deriving Repr

/-- What a type is defined to be. -/
inductive TypeBody where
  | record (fields : List RecordField)
  | synonym (type : TypeDesc)
  deriving Repr

/-- A declaration at the level of the module. -/
inductive ModuleMember where
  | const (name value : String)
  | enum (name : String) (members : List String)
  | type (name : String) (body : TypeBody)
  | classDef (definition : ClassDef)
  | function (function : FunctionDef)
  | snippet (snippet : Snippet)
  deriving Repr

/-- The class that a module member is. -/
def ModuleMember.class? : ModuleMember → Option ClassDef
  | .classDef found => some found
  | _ => none

/-- The function that a module member is. -/
def ModuleMember.function? : ModuleMember → Option FunctionDef
  | .function found => some found
  | _ => none

/-- A source file.  Its own comment is written only when there is no import that
could carry one. -/
structure SourceFile where
  imports : List Import
  comment : Option Comment
  members : List ModuleMember
  deriving Repr

namespace SourceFile

/-- The class of a given name. -/
def class? (file : SourceFile) (name : String) : Option ClassDef :=
  (file.members.filterMap ModuleMember.class?).find? fun definition => definition.name == name

/-- The functions at the level of the module, in order. -/
def functions (file : SourceFile) : List FunctionDef :=
  file.members.filterMap ModuleMember.function?

/-- The function at the level of the module that has a given name. -/
def function? (file : SourceFile) (name : String) : Option FunctionDef :=
  file.functions.find? fun function => function.name == name

end SourceFile

end PersistLayer.Syntax
