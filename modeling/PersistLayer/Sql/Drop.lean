import PersistLayer.Text.Blank

/-!
# Statements that drop

A statement drops something when its first word is `DROP`, in letters of either
case.  Blanks and comments in front of the word do not count.
-/

namespace PersistLayer.Sql

/-- What stands behind the first occurrence of two neighbouring characters, or
nothing when they do not occur. -/
def behindPair (first second : Char) : List Char → List Char
  | [] => []
  | [_] => []
  | a :: b :: rest =>
    if a = first ∧ b = second then rest else behindPair first second (b :: rest)

/-- What stands behind the first line feed, or nothing when there is none. -/
def behindLine (text : List Char) : List Char := (text.dropWhile (· ≠ '\n')).drop 1

theorem behindLine_length_le (text : List Char) : (behindLine text).length ≤ text.length := by
  have := (List.dropWhile_suffix (l := text) (· ≠ '\n')).length_le
  simp only [behindLine, List.length_drop]
  omega

theorem behindPair_length_le (first second : Char) (text : List Char) :
    (behindPair first second text).length ≤ text.length := by
  fun_induction behindPair first second text <;> simp_all <;> omega

/-- A text without blanks and comments in front of its first word. -/
def skipComments (text : List Char) : List Char :=
  match _htrim : Text.trimStart text with
  | '-' :: '-' :: rest => skipComments (behindLine rest)
  | '/' :: '*' :: rest => skipComments (behindPair '*' '/' rest)
  | code => code
termination_by text.length
decreasing_by
  all_goals
    have htrim := (List.dropWhile_suffix (l := text) Text.isBlank).length_le
    simp only [Text.trimStart] at _htrim
    rw [_htrim] at htrim
    simp only [List.length_cons] at htrim
  · have := behindLine_length_le rest
    omega
  · have := behindPair_length_le '*' '/' rest
    omega

/-- A character that would carry a keyword on. -/
def isWordChar (c : Char) : Bool := c.isAlphanum || c == '_'

/-- The first word of a text is `DROP`. -/
def beginsWithDrop : List Char → Bool
  | d :: r :: o :: p :: rest =>
    [d, r, o, p].map Char.toUpper == ['D', 'R', 'O', 'P'] && !(rest.head?.any isWordChar)
  | _ => false

/-- A statement drops something. -/
def isDrop (statement : List Char) : Bool := beginsWithDrop (skipComments statement)

end PersistLayer.Sql
