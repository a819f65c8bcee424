/-!
# What can be wrong with source text

The first five causes are found by the scanner, the next four by the readers of
statements, members and annotations.  The last one belongs to the removal of a
common indent, which is counted in bytes: blanks of several bytes can be lined up
so that the count ends in the middle of one of them.
-/

namespace PersistLayer.Syntax

/-- The causes for which source text is refused.  Lines count from zero. -/
inductive SyntaxError where
  | unterminatedString (line : Nat)
  | unterminatedTemplate (line : Nat)
  | unexpectedClose (found : Char) (line : Nat)
  | mismatched (expected found : Char) (line : Nat)
  | unclosed (opener : Char) (line : Nat)
  | empty
  | missingTerminator (line : Nat)
  | notSingle (count : Nat)
  | noAtSign
  | splitIndent
  deriving Repr, DecidableEq

/-- The wording of an error. -/
def SyntaxError.message : SyntaxError → String
  | unterminatedString line => "unterminated string literal at line " ++ toString line
  | unterminatedTemplate line => "unterminated template literal at line " ++ toString line
  | unexpectedClose found line =>
    "unexpected '" ++ found.toString ++ "' at line " ++ toString line
  | mismatched expected found line =>
    "expected '" ++ expected.toString ++ "' but found '" ++ found.toString ++ "' at line " ++
      toString line
  | unclosed opener line =>
    "'" ++ opener.toString ++ "' opened at line " ++ toString line ++ " is never closed"
  | empty => "empty snippet"
  | missingTerminator line => "missing terminator after line " ++ toString line
  | notSingle count => "expected exactly one construct, found " ++ toString count
  | noAtSign => "annotation must start with '@'"
  | splitIndent => "common indent ends inside a blank character"

end PersistLayer.Syntax
