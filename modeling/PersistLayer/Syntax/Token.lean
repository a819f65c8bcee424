import PersistLayer.Text.Alphanumeric

/-!
# Tokens

A token remembers where it stands: the bytes it spans, the line of its first
character and how many brackets are open around it.  The two brackets of a pair
have the depth of the code around the pair.
-/

namespace PersistLayer.Syntax

/-- The kinds of token.  White space and comments make no token. -/
inductive TokenKind where
  | identifier
  | number
  | string
  | template
  | punctuation
  deriving Repr, DecidableEq

/-- A token and its place.  The text of a string is its contents without the
backslashes that stand in front of other characters, that of a template is what
stands between the backticks, and that of any other token is the token as written. -/
structure Token where
  kind : TokenKind
  text : String
  start : Nat
  stop : Nat
  line : Nat
  depth : Nat
  deriving Repr, DecidableEq

/-- The token is the given punctuation mark. -/
def Token.isMark (token : Token) (mark : String) : Bool :=
  token.kind == .punctuation && token.text == mark

/-- The token is one of the given words. -/
def Token.isWordIn (token : Token) (words : List String) : Bool :=
  token.kind == .identifier && words.contains token.text

/-! ## Characters of tokens -/

/-- The mark at either end of a template literal. -/
def backtick : Char := '\x60'

/-- A character of an identifier. -/
def isIdentifierChar (c : Char) : Bool := Text.isAlphanumeric c || c == '_'

/-- A character of a number after its first digit. -/
def isNumberChar (c : Char) : Bool := c.isAlphanum || c == '.'

/-- An opening bracket. -/
def isOpener (c : Char) : Bool := c == '(' || c == '[' || c == '{'

/-- A closing bracket. -/
def isCloser (c : Char) : Bool := c == ')' || c == ']' || c == '}'

/-- The bracket that closes an opening one. -/
def closerOf (opener : Char) : Char :=
  if opener = '(' then ')' else if opener = '[' then ']' else '}'

end PersistLayer.Syntax
