import PersistLayer.Error
import PersistLayer.Syntax.Statement

/-!
# Generated fragments

Generated text is read before it becomes part of a tree, so text that would leave
a bracket or a literal open is an error that names the fragment.
-/

namespace PersistLayer

/-- Reads generated text, or fails with the name of the fragment. -/
def readFragment {α : Type} (name : String) (read : String → Except Syntax.SyntaxError α)
    (text : String) : Except GenerationError α :=
  (read text).mapError (GenerationError.malformedSnippet name)

/-- The text whose lines are given. -/
def textOfLines (lines : List String) : String := "\n".intercalate lines

/-- A list of written items with commas between neighbours. -/
def commaList (items : List String) : String := ", ".intercalate items

end PersistLayer
