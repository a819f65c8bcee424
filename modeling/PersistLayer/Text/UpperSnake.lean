import PersistLayer.Text.LetterCase

/-!
# Upper snake case

`MedicalNeed` and `medicalNeed` become `MEDICAL_NEED`.  A word begins at an
upper-case letter that follows a lower-case letter or a digit, and at the last
letter of an acronym that runs into a word, so that `HTTPServer` becomes
`HTTP_SERVER`.  Every character is put into upper case on its own.
-/

namespace PersistLayer.Text

/-- A word begins at `c` when `before` is the character in front of it and `next`
the one behind it. -/
def beginsWord (before : Option Char) (c : Char) (next : Option Char) : Bool :=
  match before with
  | none => false
  | some previous =>
    isUpper c &&
      (isLower previous || previous.isDigit || (isUpper previous && next.any isLower))

/-- Upper snake case of a text that stands behind `before`. -/
def upperSnakeAfter (before : Option Char) : List Char → List Char
  | [] => []
  | c :: rest =>
    (if beginsWord before c rest.head? then ['_'] else []) ++ upperForm c ++
      upperSnakeAfter (some c) rest

/-- Upper snake case of a name. -/
def upperSnake (name : List Char) : List Char := upperSnakeAfter none name

end PersistLayer.Text
