import PersistLayer.Proofs.Render.Words

/-!
# Words between braces

The words of a body are those of its statements, with a brace in front and one behind.
A scanner reads a statement in a body as it reads any other part of a file, so the words
of a statement depend neither on where the body begins nor on the statements in front of
it (`words_of_scanner`).
-/

namespace PersistLayer.Syntax

/-- A scanner that has just read an opening brace. -/
def Scanner.inBraces : Scanner := fresh [.bracket '{' 0] ⟨0, 0⟩

/-- The words of a text that stands between braces. -/
def wordsInBraces (text : String) : List (TokenKind × String) :=
  (tokensIn (Scanner.inBraces.emits text.toList)).map Token.word

/-- In front of code, inside one brace. -/
structure Scanner.Braced (scanner : Scanner) : Prop where
  mode : scanner.mode = .code
  frames : scanner.frames.map Frame.enclosure = [.bracket '{']

section Braced

variable {scanner : Scanner} (hbraced : scanner.Braced)

include hbraced

theorem Scanner.Braced.stopsBefore (back : List Char) : scanner.StopsBefore back where
  isCode := by rw [hbraced.mode]; rfl
  outside := by rw [inTemplate_eq_any, hbraced.frames]; rfl
  ends := by rw [hbraced.mode]; exact fun _ _ => rfl

/-- Behind a part the scanner is inside the brace still. -/
theorem Scanner.Braced.run {text : String} (hpart : IsPart text) :
    (scanner.run text.toList).Braced := by
  obtain ⟨-, hmode, hframes⟩ := hpart.run_eq hbraced.mode
  exact ⟨hmode, hframes.trans hbraced.frames⟩

/-- **The words of a part between braces are the same wherever it stands.** -/
theorem words_of_scanner {text : String} (hpart : IsPart text) :
    (tokensIn (scanner.emits text.toList)).map Token.word = wordsInBraces text := by
  obtain ⟨line, hframes⟩ := exists_bracket_of_enclosures hbraced.frames
  have hfresh : scanner.emits text.toList =
      (Scanner.fresh [.bracket '{' line] scanner.place).emits text.toList := by
    cases htext : text.toList with
    | nil => rfl
    | cons c rest =>
        rw [(hbraced.stopsBefore (c :: rest)).emits_eq, Scanner.pending, hbraced.mode, hframes]
        rfl
  have hstart : Matches .same scanner.place.line
      (Scanner.fresh [.bracket '{' line] scanner.place) Scanner.inBraces :=
    ⟨rfl, rfl, rfl, rfl⟩
  obtain ⟨hflawless, -⟩ := hpart.run_eq hbraced.mode
  rw [hfresh] at hflawless ⊢
  obtain ⟨-, halike⟩ := hstart.run_same (Scanner.fresh_live _ _) hflawless
  exact words_alike halike

/-- The words of several parts between braces. -/
theorem words_of_parts {parts : List String} (hparts : ∀ part ∈ parts, IsPart part) :
    (tokensIn (scanner.emits (String.join parts).toList)).map Token.word =
      parts.flatMap wordsInBraces := by
  induction parts generalizing scanner with
  | nil => rfl
  | cons part rest ih =>
      have hpart := hparts part List.mem_cons_self
      have hrest := ih (hbraced.run hpart) fun other h => hparts other (List.mem_cons_of_mem _ h)
      calc (tokensIn (scanner.emits (String.join (part :: rest)).toList)).map Token.word
          = (tokensIn (scanner.emits part.toList)).map Token.word ++
              (tokensIn ((scanner.run part.toList).emits (String.join rest).toList)).map
                Token.word := by
            rw [String.join_cons, String.toList_append, Scanner.emits_append, tokensIn_append,
              List.map_append]
        _ = wordsInBraces part ++ rest.flatMap wordsInBraces := by
            rw [words_of_scanner hbraced hpart, hrest]

/-- The closing brace is the last word. -/
theorem words_of_closing :
    (tokensIn (scanner.reports ['}', '\n'])).map Token.word = [(.punctuation, "\x7d")] := by
  obtain ⟨line, hframes⟩ := exists_bracket_of_enclosures hbraced.frames
  rw [(hbraced.stopsBefore _).reports_eq, Scanner.pending, hbraced.mode, hframes]
  rfl

end Braced

/-- **The words of a body**: those of what stands in front, those of its parts and the
closing brace. -/
theorem wordsOf_braced {head : String} (hhead : (Scanner.initial.run head.toList).Braced)
    {parts : List String} (hparts : ∀ part ∈ parts, IsPart part) :
    wordsOf (head ++ String.join parts ++ "\x7d\n") =
      (tokensIn (Scanner.initial.emits head.toList)).map Token.word ++
        parts.flatMap wordsInBraces ++ [(.punctuation, "\x7d")] := by
  have hclosing := words_of_closing (hhead.run (isPart_join hparts))
  have hreports : scan (head ++ String.join parts ++ "\x7d\n").toList =
      Scanner.initial.emits head.toList ++
        ((Scanner.initial.run head.toList).emits (String.join parts).toList ++
          ((Scanner.initial.run head.toList).run (String.join parts).toList).reports
            ['}', '\n']) := by
    rw [scan_eq_reports, String.toList_append, String.toList_append, List.append_assoc,
      Scanner.reports_append, Scanner.reports_append]
    rfl
  calc wordsOf (head ++ String.join parts ++ "\x7d\n")
      = (tokensIn (Scanner.initial.emits head.toList)).map Token.word ++
          ((tokensIn ((Scanner.initial.run head.toList).emits (String.join parts).toList)).map
              Token.word ++
            (tokensIn (((Scanner.initial.run head.toList).run (String.join parts).toList).reports
              ['}', '\n'])).map Token.word) := by
        rw [wordsOf, hreports, tokensIn_append, tokensIn_append, List.map_append, List.map_append]
    _ = (tokensIn (Scanner.initial.emits head.toList)).map Token.word ++
          (parts.flatMap wordsInBraces ++ [(.punctuation, "\x7d")]) := by
        rw [words_of_parts hhead hparts, hclosing]
    _ = _ := (List.append_assoc ..).symm

end PersistLayer.Syntax
