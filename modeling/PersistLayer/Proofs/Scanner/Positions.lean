import PersistLayer.Proofs.Scanner.Depth
import PersistLayer.Proofs.Scanner.LiteralText
import PersistLayer.Proofs.Scanner.Pieces

/-!
# Positions

What a scanned text says about positions is exact (`Scanned.IsExact`).  The tokens cover the
text but for blanks and comments (`Tiles`), at the bytes and on the lines that they name.
Their depth is the number of pairs of brackets around them, and the literal lines are those
that begin behind a line feed in the text of a template literal.

The scanner meets one token after the other (`exists_next`), so the cover is found token by
token (`tiles_of_reports`), and what holds of single tokens is read off it.
-/

namespace PersistLayer.Syntax

/-! ## Tokens with gaps between them -/

/-- Behind a front part of a text, the rest of it is tokens one behind the other, with nothing
but blanks and comments before, between and after them.  The last comment may end with the
text. -/
inductive Tiles : List Char → List Char → List Token → Prop
  | done {front rest : List Char} (hgap : IsGap (rest ++ ['\n'])) : Tiles front rest []
  | token {front gap source rest : List Char} {token : Token} {more : List Token}
      (hgap : IsGap gap) (hspells : token.Spells source) (hsource : source ≠ [])
      (hstart : token.start = Text.byteLength (front ++ gap))
      (hstop : token.stop = Text.byteLength (front ++ gap ++ source))
      (hline : token.line = (front ++ gap).count '\n') :
      Tiles (front ++ gap ++ source) rest more →
        Tiles front (gap ++ source ++ rest) (token :: more)

/-- What a scanned text says is so. -/
structure Scanned.IsExact (text : String) (scanned : Scanned) : Prop where
  tiles : Tiles [] text.toList scanned.tokens
  nonempty : ∀ token ∈ scanned.tokens, token.start < token.stop
  ordered : scanned.tokens.Pairwise fun token next => token.stop ≤ next.start
  spells : ∀ token ∈ scanned.tokens, token.Spells (token.span text)
  line : ∀ token ∈ scanned.tokens,
    token.line = (Text.uptoBytes token.start text.toList).count '\n'
  nested : Nested 0 scanned.tokens
  literal : ∀ line, line ∈ scanned.literalLines ↔
    ∃ front back enclosures, text.toList = front ++ '\n' :: back ∧
      line = front.count '\n' + 1 ∧ TemplateAt text.toList enclosures ('\n' :: back)

section Tiles

variable {front rest : List Char} {tokens : List Token} (htiles : Tiles front rest tokens)

include htiles

/-- Where a token of the cover stands. -/
theorem Tiles.exists_source {token : Token} (htoken : token ∈ tokens) :
    ∃ before source back, front ++ rest = front ++ before ++ source ++ back ∧
      token.Spells source ∧ source ≠ [] ∧
      token.start = Text.byteLength (front ++ before) ∧
      token.stop = Text.byteLength (front ++ before ++ source) ∧
      token.line = (front ++ before).count '\n' := by
  induction htiles with
  | done => cases htoken
  | @token front gap source rest first more hgap hspells hsource hstart hstop hline _ ih =>
      rcases List.mem_cons.mp htoken with rfl | hmore
      · exact ⟨gap, source, rest, by simp, hspells, hsource, hstart, hstop, hline⟩
      · obtain ⟨before, source', back, htext, hrest⟩ := ih hmore
        refine ⟨gap ++ source ++ before, source', back, ?_, ?_⟩
        · simpa using htext
        · simpa using hrest

/-- The tokens of the cover are behind the front part. -/
theorem Tiles.le_start {token : Token} (htoken : token ∈ tokens) :
    Text.byteLength front ≤ token.start := by
  obtain ⟨before, source, back, -, -, -, hstart, -⟩ := htiles.exists_source htoken
  rw [hstart, Text.byteLength_append]
  exact Nat.le_add_right _ _

/-- Each token of the cover is behind the ones in front of it. -/
theorem Tiles.pairwise : tokens.Pairwise fun token next => token.stop ≤ next.start := by
  induction htiles with
  | done => exact .nil
  | token hgap hspells hsource hstart hstop hline hmore ih =>
      refine .cons (fun next hnext => ?_) ih
      rw [hstop]
      exact hmore.le_start hnext

end Tiles

theorem Text.byteLength_pos {text : List Char} (hne : text ≠ []) : 0 < Text.byteLength text := by
  obtain ⟨c, rest, rfl⟩ := List.exists_cons_of_ne_nil hne
  have hpos := Char.utf8Size_pos c
  rw [Text.byteLength_cons]
  omega

/-- **The tokens of a text cover it.** -/
theorem tiles_of_reports {frames : List Frame} {front text : List Char}
    (houtside : inTemplate frames = false)
    (hflawless : Flawless ((Scanner.fresh frames (origin.afterText front)).reports text)) :
    Tiles front text
      (tokensIn ((Scanner.fresh frames (origin.afterText front)).reports text)) := by
  induction hlength : text.length using Nat.strong_induction_on
    generalizing frames front text with
  | _ length ih =>
      subst hlength
      rcases exists_next houtside hflawless with
        ⟨-, hskips, hgap⟩ | ⟨token, gap, source, back, rfl, hspells, hcut⟩
      · rw [hskips.reports_nil, tokensIn_openReports]
        exact .done hgap
      · obtain ⟨hstart, hline⟩ := hcut.first token rfl
        obtain ⟨hstop, -⟩ := hcut.last token rfl
        have hplace : (Scanner.behind frames (origin.afterText front) gap source).place =
            origin.afterText (front ++ gap ++ source) := by
          rw [hcut.place_eq, ← Place.afterText_append, List.append_assoc]
        rw [← Place.afterText_append, offset_origin] at hstart
        rw [← Place.afterText_append, line_origin] at hline
        rw [hplace, offset_origin] at hstop
        rw [hcut.reports_eq, hplace, flawless_append] at hflawless
        rw [hcut.reports_eq, tokensIn_append, hcut.tokens, hplace]
        -- a token takes a character at least, so the text behind it is shorter
        have hpos := List.length_pos_of_ne_nil hcut.nonempty
        exact .token hcut.isGap hspells hcut.nonempty hstart hstop hline
          (ih back.length (by simp only [List.length_append]; omega) hcut.stops.outside
            hflawless.2 rfl)

/-- **What a scanned text says about positions is so.** -/
theorem tokenize_isExact {text : String} {scanned : Scanned}
    (hscanned : tokenize text = .ok scanned) : scanned.IsExact text := by
  have htiles : Tiles [] text.toList scanned.tokens := by
    obtain ⟨hflawless, rfl⟩ := tokenize_eq_ok_iff.mp hscanned
    simp only [scan_eq_reports, Scanner.initial_eq_fresh] at hflawless ⊢
    exact tiles_of_reports rfl hflawless
  refine ⟨htiles, ?_, htiles.pairwise, ?_, ?_, nested_of_tokenize hscanned,
    mem_literalLines_iff hscanned⟩
  · intro token htoken
    obtain ⟨before, source, back, -, -, hsource, hstart, hstop, -⟩ := htiles.exists_source htoken
    have hpos := Text.byteLength_pos hsource
    rw [Text.byteLength_append _ source] at hstop
    omega
  · intro token htoken
    obtain ⟨before, source, back, htext, hspells, -, hstart, hstop, -⟩ :=
      htiles.exists_source htoken
    rwa [Token.span_eq htext hstart hstop]
  · intro token htoken
    obtain ⟨before, source, back, htext, -, -, hstart, -, hline⟩ := htiles.exists_source htoken
    rw [hline, hstart, ← List.nil_append text.toList, htext, List.append_assoc,
      Text.uptoBytes_append]

/-- Of three line feeds in a template literal, the last is in the code of an interpolation and
the second in a literal in that code. -/
theorem tokenize_isExact_of_interpolation :
    tokenize "a(\x60é\n$\x7bf(\x60\n\x60)\n\x7d\x60); // é\n\"s\" 1.0" = .ok
      ⟨[⟨.identifier, "a", 0, 1, 0, 0⟩, ⟨.punctuation, "(", 1, 2, 0, 0⟩,
        ⟨.template, "é\n$\x7bf(\x60\n\x60)\n\x7d", 2, 17, 0, 1⟩, ⟨.punctuation, ")", 17, 18, 3, 0⟩,
        ⟨.punctuation, ";", 18, 19, 3, 0⟩, ⟨.string, "s", 26, 29, 4, 0⟩,
        ⟨.number, "1.0", 30, 33, 4, 0⟩], [1, 2]⟩ ∧
    Scanned.IsExact "a(\x60é\n$\x7bf(\x60\n\x60)\n\x7d\x60); // é\n\"s\" 1.0"
      ⟨[⟨.identifier, "a", 0, 1, 0, 0⟩, ⟨.punctuation, "(", 1, 2, 0, 0⟩,
        ⟨.template, "é\n$\x7bf(\x60\n\x60)\n\x7d", 2, 17, 0, 1⟩, ⟨.punctuation, ")", 17, 18, 3, 0⟩,
        ⟨.punctuation, ";", 18, 19, 3, 0⟩, ⟨.string, "s", 26, 29, 4, 0⟩,
        ⟨.number, "1.0", 30, 33, 4, 0⟩], [1, 2]⟩ := by
  have hscanned : tokenize "a(\x60é\n$\x7bf(\x60\n\x60)\n\x7d\x60); // é\n\"s\" 1.0" = .ok
      ⟨[⟨.identifier, "a", 0, 1, 0, 0⟩, ⟨.punctuation, "(", 1, 2, 0, 0⟩,
        ⟨.template, "é\n$\x7bf(\x60\n\x60)\n\x7d", 2, 17, 0, 1⟩, ⟨.punctuation, ")", 17, 18, 3, 0⟩,
        ⟨.punctuation, ";", 18, 19, 3, 0⟩, ⟨.string, "s", 26, 29, 4, 0⟩,
        ⟨.number, "1.0", 30, 33, 4, 0⟩], [1, 2]⟩ := by
    decide +kernel
  exact ⟨hscanned, tokenize_isExact hscanned⟩

end PersistLayer.Syntax
