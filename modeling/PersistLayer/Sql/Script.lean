import PersistLayer.Text.Blank

/-!
# SQL scripts

A script is split into statements at its semicolons, those in quoted literals
excepted.  Comments are dropped: a comment up to the end of the line leaves the
line feed, and a comment between `/*` and `*/` leaves a blank.  A literal ends at
the quote that opened it, so a doubled quote ends one literal and opens the next.

The splitter reads one character at a time.  `Mode.step` says which pieces of
text a character yields: characters to keep, and the ends of statements.
-/

namespace PersistLayer.Sql

/-- What the splitter is in the middle of.  `dash` and `slash` may begin a
comment, and `star` is the asterisk that may end one. -/
inductive Mode where
  | plain
  | dash
  | slash
  | literal (quote : Char)
  | lineComment
  | blockComment (star : Bool)
  deriving Repr, DecidableEq

/-- What is kept of a script: characters and the places between statements. -/
inductive Piece where
  | char (c : Char)
  | cut
  deriving Repr, DecidableEq

/-- Reads a character outside literals and comments. -/
def plainStep (c : Char) : Mode × List Piece :=
  if c = '\'' ∨ c = '"' then (.literal c, [.char c])
  else if c = '-' then (.dash, [])
  else if c = '/' then (.slash, [])
  else if c = ';' then (.plain, [.cut])
  else (.plain, [.char c])

/-- Keeps a character that turned out to begin no comment, and reads the next. -/
def keepAnd (kept c : Char) : Mode × List Piece :=
  let (mode, pieces) := plainStep c
  (mode, .char kept :: pieces)

/-- What a character does in each mode. -/
def Mode.step (mode : Mode) (c : Char) : Mode × List Piece :=
  match mode with
  | .plain => plainStep c
  | .dash => if c = '-' then (.lineComment, []) else keepAnd '-' c
  | .slash => if c = '*' then (.blockComment false, []) else keepAnd '/' c
  | .literal quote => (if c = quote then .plain else .literal quote, [.char c])
  | .lineComment => if c = '\n' then (.plain, [.char c]) else (.lineComment, [])
  | .blockComment star =>
    if star ∧ c = '/' then (.plain, [.char ' ']) else (.blockComment (c == '*'), [])

/-- What is kept at the end of a script. -/
def Mode.finish : Mode → List Piece
  | .dash => [.char '-']
  | .slash => [.char '/']
  | .blockComment _ => [.char ' ']
  | _ => []

/-- What is kept of a text that is read in a mode. -/
def Mode.pieces (mode : Mode) : List Char → List Piece
  | [] => mode.finish
  | c :: rest => (mode.step c).2 ++ (mode.step c).1.pieces rest

/-- `pieces` with the pieces so far in hand, latest first. -/
def Mode.piecesOnto (mode : Mode) (found : List Piece) : List Char → List Piece
  | [] => found.reverse ++ mode.finish
  | c :: rest =>
    let (next, pieces) := mode.step c
    next.piecesOnto (pieces.reverse ++ found) rest

theorem Mode.piecesOnto_eq (mode : Mode) (found : List Piece) (text : List Char) :
    mode.piecesOnto found text = found.reverse ++ mode.pieces text := by
  induction text generalizing mode found with
  | nil => rfl
  | cons c rest ih => simp [piecesOnto, pieces, ih]

/-- The character that a piece is. -/
def Piece.char? : Piece → Option Char
  | char c => some c
  | cut => none

/-- The texts between cuts. -/
def textsOf (pieces : List Piece) : List (List Char) :=
  (pieces.splitOn .cut).map fun text => text.filterMap Piece.char?

/-- The statements of a script, without blanks at their ends.  Blank ones are
left out. -/
def splitStatements (script : List Char) : List (List Char) :=
  ((textsOf (Mode.plain.piecesOnto [] script)).map Text.trim).filter fun text => !text.isEmpty

end PersistLayer.Sql
