import PersistLayer.Proofs.Client.Functions
import PersistLayer.Proofs.Render.Wording

/-!
# The words of the lines of a client

The bodies and the metadata of a client are written line by line, and a line feed ends
every word.  So their words are those of each line in turn (`LinesWording`), and what is
left to know is how names stand in a line: as code, where a name may be several words, or
between quotes, where it is one literal.
-/

namespace PersistLayer.Client

open Schema Syntax

/-! ## Names in a line -/

section Names

variable {name : String} (hname : IsFitName name)

include hname

theorem IsFitName.ne_slash {c : Char} (hc : c ∈ name.toList) : c ≠ '/' := by
  rintro rfl
  exact absurd (hname.isInert.2 _ hc) (by decide)

theorem IsFitName.wording : Wording .clean .word name (wordsOf name) := by
  refine wording_inert hname.1 hname.isInert.2 ?_
  simp [Edge.endsBefore, Edge.modes, Mode.goesOnWith]

theorem IsFitName.wording_behind_slash : Wording .slash .word name (wordsOf name) := by
  refine wording_inert hname.1 hname.isInert.2 ?_
  simp only [Edge.endsBefore, Option.all_eq_true]
  intro c hc
  simp [Edge.modes, Mode.goesOnWith, hname.ne_slash (List.mem_of_mem_head? hc)]

theorem IsFitName.wording_quoted :
    Wording .word .clean ("\"" ++ name ++ "\"") [(.string, name)] := by
  refine Syntax.wording_quoted fun c hc => ?_
  have hescape := (hname.2 c hc).escapedChar_eq
  refine ⟨?_, ?_, ?_⟩ <;>
    · rintro rfl
      exact absurd hescape (by decide)

theorem IsFitName.wording_literal :
    Wording .word .clean (stringLiteral name) [(.string, name)] := by
  rw [hname.stringLiteral_eq]
  exact hname.wording_quoted

/-- A fit name has a word. -/
theorem IsFitName.wordsOf_ne_nil : wordsOf name ≠ [] := by
  obtain ⟨c, rest, hchars⟩ : ∃ c rest, name.toList = c :: rest :=
    List.exists_cons_of_ne_nil (by simpa using hname.1)
  have hc : c ∈ name.toList := hchars ▸ List.mem_cons_self
  have hbegins : beginsToken name.toList = true := by
    rw [hchars, beginsToken_cons_iff]
    exact ⟨(hname.2 c hc).isBlank, fun h => hname.ne_slash hc h.1⟩
  have hflawless := hname.isInert.neutral.flawless
  rw [scan_eq_reports, Scanner.initial_eq_fresh] at hflawless
  obtain ⟨more, back, token, hsplit, -, hcompletes⟩ :=
    Scanner.exists_completes_of_beginsToken rfl hbegins hflawless
  rw [wordsOf, scan_eq_reports, Scanner.initial_eq_fresh, hsplit,
    Scanner.reports_append_of_stopsBefore hcompletes.stops, tokensIn_append, hcompletes.yield_eq]
  simp

end Names

/-! ## Lines -/

/-- The words of lines, each with the line feed behind it. -/
def LinesWording (lines : List String) (words : List Word) : Prop :=
  Wording .clean .clean (String.join (lines.map (· ++ "\n"))) words

section Lines

variable {rest : List String} {words more : List Word}

theorem LinesWording.nil : LinesWording [] [] := wording_empty .clean

theorem LinesWording.cons {line : String} (hline : Wording .clean .word line words)
    (hrest : LinesWording rest more) : LinesWording (line :: rest) (words ++ more) := by
  have hfeed : Wording .word .clean "\n" [] := wording_of_fixed (by rfl)
  have hall := (hline.append hfeed).append hrest
  rw [List.append_nil] at hall
  rw [LinesWording, List.map_cons, String.join_cons]
  exact hall

theorem LinesWording.append {lines : List String} (hlines : LinesWording lines words)
    (hrest : LinesWording rest more) : LinesWording (lines ++ rest) (words ++ more) := by
  rw [LinesWording, List.map_append, String.join_append]
  exact Wording.append hlines hrest

/-- No line feed stands behind the last line of a text. -/
theorem LinesWording.textOfLines {lines : List String} {last : String}
    (hlines : LinesWording lines words) (hlast : Wording .clean .word last more) :
    Wording .clean .word (textOfLines (lines ++ [last])) (words ++ more) := by
  rw [textOfLines_concat]
  exact Wording.append hlines hlast

/-- Items on lines of their own, with commas between neighbours. -/
theorem linesWording_withCommas {α : Type} {items : List α} {write : α → String}
    {words : α → List Word}
    (hitems : ∀ item ∈ items, Wording .clean .word (write item) (words item)) :
    LinesWording (withCommas (items.map write)) (commaSeparated (items.map words)) := by
  have hcomma : Wording .word .word "," [mark ","] := wording_of_fixed (by rfl)
  unfold commaSeparated
  induction items with
  | nil => exact .nil
  | cons item others ih =>
      obtain ⟨hitem, hothers⟩ := List.forall_mem_cons.mp hitems
      cases others with
      | nil =>
          have hline := LinesWording.cons hitem .nil
          simpa [withCommas] using hline
      | cons next others =>
          have hbehind := ih hothers
          simp only [List.map_cons, withCommas] at hbehind ⊢
          rw [List.intercalate_cons_cons]
          exact .cons (hitem.append hcomma) hbehind

end Lines

/-! ## Bodies -/

/-- The words of a body, statement by statement. -/
def bodyWords (function : FunctionDef) : List Word :=
  function.statements.flatMap fun statement => wordsOf (statement.render 0)

/-- The statements of a body are those of its text. -/
theorem statements_withBody {text fragment : String} {function built : FunctionDef}
    (hbuilt : withBody fragment text function = .ok built) (hempty : function.body = .block []) :
    statementsIn text = .ok built.statements := by
  obtain ⟨snippets, hread, hpure⟩ := bind_eq_ok_iff.mp hbuilt
  rw [FunctionDef.withStatements_eq hempty, pure_eq_ok_iff] at hpure
  rw [readFragment_eq_ok_iff.mp hread, ← hpure]
  rfl

/-- The statements of a body have the words of the text that they were read from. -/
theorem bodyWords_withBody {text fragment : String} {words : List Word}
    {function built : FunctionDef} (hbuilt : withBody fragment text function = .ok built)
    (hempty : function.body = .block []) (hwording : Wording .clean .word text words) :
    bodyWords built = words := by
  have hread := statements_withBody hbuilt hempty
  have hlines : ∀ word ∈ wordsOf text, '\n' ∉ word.2.toList := by
    rw [hwording.wordsOf_eq]
    exact hwording.onOneLine
  rw [bodyWords, words_of_statementsIn hread hlines 0, hwording.wordsOf_eq]

theorem exists_bodyWords {text : String} {words : List Word} (htext : IsStatements text)
    (hwording : Wording .clean .word text words) (fragment : String) {function : FunctionDef}
    (hempty : function.body = .block []) :
    ∃ snippets, withBody fragment text function = .ok { function with body := .block snippets } ∧
      bodyWords { function with body := .block snippets } = words := by
  obtain ⟨snippets, -, hbuilt⟩ := exists_withBody htext fragment function
  rw [FunctionDef.withStatements_eq hempty, List.nil_append] at hbuilt
  exact ⟨snippets, hbuilt, bodyWords_withBody hbuilt hempty hwording⟩

end PersistLayer.Client
