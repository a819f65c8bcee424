import PersistLayer.Text.LetterCase.Classes
import PersistLayer.Text.LetterCase.Mapping

/-!
# Lower case of a whole text

One mapping depends on the neighbours of a character: a capital sigma at the end
of a word becomes the final sigma.  It stands at the end of a word when a cased
character comes before it and none comes after it, case-ignorable characters on
either side being looked through.
-/

namespace PersistLayer.Text

/-- The first character that is not case-ignorable is cased. -/
def meetsCased (text : List Char) : Bool :=
  match text.dropWhile isCaseIgnorable with
  | c :: _ => isCased c
  | [] => false

/-- Lower case of `text` where `before` is what precedes it, nearest first. -/
def lowerAfter (before : List Char) : List Char → List Char
  | [] => []
  | c :: rest =>
    let form :=
      if c = 'Σ' then [if meetsCased before && !meetsCased rest then 'ς' else 'σ']
      else lowerForm c
    form ++ lowerAfter (c :: before) rest

/-- Lower case of a text. -/
def lowerCase (text : List Char) : List Char := lowerAfter [] text

end PersistLayer.Text
