import PersistLayer.Syntax.Scanner
import PersistLayer.Text.Bytes

/-!
# Snippets

A snippet is a piece of source text cut into lines and freed of its common
indent, so that it can be written at any depth.  A line that begins inside a
template literal is verbatim: its text belongs to the literal, and no blank of it
may be taken away or added.
-/

namespace PersistLayer.Syntax

/-- A line of a snippet. -/
structure SnippetLine where
  text : String
  verbatim : Bool
  deriving Repr, DecidableEq

/-- A statement, a member or an annotation, as lines without common indent. -/
structure Snippet where
  lines : List SnippetLine
  deriving Repr, DecidableEq

/-- The text of a snippet at depth zero. -/
def Snippet.text (snippet : Snippet) : String :=
  "\n".intercalate (snippet.lines.map SnippetLine.text)

/-! ## Cutting -/

/-- A piece of a text: bytes `start` up to `stop`, or from the beginning of the
line on when only blanks stand there before `start`. -/
def excerpt (text : List Char) (start stop : Nat) : List Char :=
  let lead := ((Text.uptoBytes start text).reverse.takeWhile (· ≠ '\n')).reverse
  let piece := Text.uptoBytes (stop - start) ((Text.afterBytes? start text).getD [])
  if Text.allBlank lead then lead ++ piece else piece

/-- The bytes of blanks that a line begins with. -/
def indentOf (line : List Char) : Nat := Text.byteLength (line.takeWhile Text.isBlank)

/-- The smallest indent among lines that are code and not blank. -/
def commonIndent (lines : List (List Char × Bool)) : Nat :=
  ((lines.filter fun (line, verbatim) => !verbatim && !Text.allBlank line).map
    fun (line, _) => indentOf line).min?.getD 0

/-- A line freed of an indent and of blanks at its end.  Verbatim lines stay as
they are and blank ones become empty. -/
def dedentLine (indent : Nat) (line : List Char) (verbatim : Bool) :
    Except SyntaxError SnippetLine :=
  if verbatim then .ok ⟨String.ofList line, true⟩
  else if Text.allBlank line then .ok ⟨"", false⟩
  else
    match Text.afterBytes? indent line with
    | some rest => .ok ⟨String.ofList (Text.trimEnd rest), false⟩
    | none => .error .splitIndent

/-- The snippet of a piece of text whose first token is on line `first`, when
`literalLines` begin inside template literals. -/
def snippetOf (piece : List Char) (first : Nat) (literalLines : List Nat) :
    Except SyntaxError Snippet := do
  let lines := (piece.splitOn '\n').zipIdx.map fun (line, index) =>
    (line, literalLines.contains (first + index))
  let indent := commonIndent lines
  return ⟨← lines.mapM fun (line, verbatim) => dedentLine indent line verbatim⟩

/-- Cuts the snippet that reaches from one token to another. -/
def cutSnippet (text : List Char) (literalLines : List Nat) (first last : Token) :
    Except SyntaxError Snippet :=
  snippetOf (excerpt text first.start last.stop) first.line literalLines

end PersistLayer.Syntax
