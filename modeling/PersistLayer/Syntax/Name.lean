/-!
# Names and string literals as written

A name that is a reserved word is written with an apostrophe in front.  A string
literal is written between double quotes, with an escape for each character that
could not stand there.
-/

namespace PersistLayer.Syntax

/-- The words that cannot be names without an apostrophe. -/
def reservedWords : List String :=
  ["abstract", "all", "annotation", "any", "anydata", "as", "ascending", "boolean", "break",
    "by", "byte", "check", "checkpanic", "class", "client", "commit", "configurable", "const",
    "continue", "decimal", "default", "descending", "distinct", "do", "else", "enum", "equals",
    "error", "external", "fail", "false", "final", "float", "foreach", "fork", "from",
    "function", "future", "handle", "if", "import", "in", "int", "is", "isolated", "join",
    "json", "let", "limit", "listener", "lock", "map", "match", "never", "new", "null",
    "object", "on", "order", "outer", "panic", "private", "public", "readonly", "record",
    "remote", "resource", "retry", "return", "returns", "rollback", "select", "service",
    "source", "start", "stream", "string", "table", "transaction", "trap", "true", "type",
    "typedesc", "typeof", "var", "wait", "where", "while", "worker", "xml", "xmlns"]

/-- A name as it is written in source. -/
def quotedName (name : String) : String :=
  if reservedWords.contains name then "'" ++ name else name

/-- A character as it is written between double quotes. -/
def escapedChar : Char → List Char
  | '"' => ['\\', '"']
  | '\\' => ['\\', '\\']
  | '\n' => ['\\', 'n']
  | '\t' => ['\\', 't']
  | '\r' => ['\\', 'r']
  | c => [c]

/-- The string literal for a value. -/
def stringLiteral (value : String) : String :=
  String.ofList ('"' :: (value.toList.flatMap escapedChar ++ ['"']))

end PersistLayer.Syntax
