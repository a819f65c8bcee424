import PersistLayer.Proofs.Scanner.Run

/-!
# Lines that begin inside literals

The scanner reports a line exactly where it meets a line feed while it reads the text of a
template literal, and it reports the number of the line behind it
(`mem_literalLinesIn_iff`).
-/

namespace PersistLayer.Syntax

/-! ## What reports no line -/

section LiteralLines

variable (scanner : Scanner)

theorem literalLinesIn_tokenReports (kind : TokenKind) (stop : Nat) :
    literalLinesIn (scanner.tokenReports kind stop) = [] := by
  unfold Scanner.tokenReports
  split_ifs <;> rfl

theorem literalLinesIn_markReports (c : Char) : literalLinesIn (scanner.markReports c) = [] := by
  unfold Scanner.markReports
  split_ifs <;> rfl

theorem literalLinesIn_openReports (frames : List Frame) :
    literalLinesIn (openReports frames) = [] := by
  unfold openReports
  split
  · rfl
  · rw [literalLinesIn, List.filterMap_eq_nil_iff]
    intro report hreport
    obtain ⟨frame, -, hframe⟩ := List.mem_filterMap.mp hreport
    cases frame <;> simp at hframe
    rw [← hframe]
    rfl

theorem literalLinesIn_finish : literalLinesIn scanner.finish = [] := by
  have hword : ∀ kind stop, literalLinesIn (scanner.tokenReports kind stop ++
      openReports scanner.frames) = [] := by
    intro kind stop
    rw [literalLinesIn_append, literalLinesIn_tokenReports, literalLinesIn_openReports,
      List.append_nil]
  unfold Scanner.finish
  split
  iterate 6 first | exact hword _ _ | exact literalLinesIn_openReports _
  · rfl
  · split <;> rfl
  · rfl

theorem literalLinesIn_codeStep (c : Char) : literalLinesIn (scanner.codeStep c).2 = [] := by
  have hcloser : literalLinesIn (scanner.closer c).2 = [] := by
    unfold Scanner.closer
    split
    · split_ifs <;> rfl
    · rw [literalLinesIn_append, literalLinesIn_markReports]
      split_ifs <;> rfl
    · exact literalLinesIn_markReports scanner c
  unfold Scanner.codeStep
  split_ifs
  iterate 4 exact rfl
  · exact literalLinesIn_markReports scanner c
  · exact hcloser
  iterate 3 exact rfl
  · exact literalLinesIn_markReports scanner c

/-- A line is reported for a line feed in the text of a template literal, and it is the one
behind the line feed. -/
theorem literalLinesIn_step (c : Char) :
    literalLinesIn (scanner.step c).2 =
      if (∃ dollar, scanner.mode = .template dollar) ∧ c = '\n' then [scanner.place.line + 1]
      else [] := by
  -- neither code nor the end of a word reports a line
  have hcode := literalLinesIn_codeStep scanner c
  have hend : ∀ kind, literalLinesIn (scanner.endToken kind c).2 = [] := by
    intro kind
    rw [Scanner.endToken, literalLinesIn_append, literalLinesIn_tokenReports, hcode,
      List.append_nil]
  cases hmode : scanner.mode with
  | code => simp [Scanner.step, hmode, hcode]
  | slash | quote | identifier | number =>
      simp only [Scanner.step, hmode, reduceCtorEq, exists_false, false_and, if_false]
      split_ifs
      · rfl
      · exact hend _
  | comment =>
      simp only [Scanner.step, hmode, reduceCtorEq, exists_false, false_and, if_false]
      split_ifs
      · exact hcode
      · rfl
  | string first escaped =>
      simp only [Scanner.step, hmode, Scanner.stringStep, reduceCtorEq, exists_false, false_and,
        if_false]
      split_ifs
      · rfl
      · exact literalLinesIn_tokenReports _ _ _
      iterate 3 rfl
  | template dollar =>
      simp only [Scanner.step, hmode, Scanner.templateStep, Mode.template.injEq, exists_eq',
        true_and]
      split_ifs with hbacktick hfeed hfeed
      · exact absurd (hbacktick.symm.trans hfeed) (by decide)
      · exact literalLinesIn_tokenReports _ _ _
      · rfl
      · rfl
      · rfl
  | halted =>
      simp only [Scanner.step, hmode, reduceCtorEq, exists_false, false_and, if_false]
      rfl

variable {scanner}

/-- **The lines that are reported** begin behind the line feeds that are read in the text of a
template literal. -/
theorem mem_literalLinesIn_iff (hlive : scanner.Live) {text : List Char}
    (hflawless : Flawless (scanner.reports text)) (line : Nat) :
    line ∈ literalLinesIn (scanner.reports text) ↔
      ∃ front back, text = front ++ '\n' :: back ∧
        line = (scanner.place.afterText front).line + 1 ∧
        ∃ dollar, (scanner.run front).mode = .template dollar := by
  induction text generalizing scanner with
  | nil => simp [Scanner.reports, literalLinesIn_finish]
  | cons c rest ih =>
      rw [Scanner.reports, flawless_append] at hflawless
      have hplace := Scanner.step_place hlive hflawless.1
      rw [Scanner.reports, literalLinesIn_append, List.mem_append, literalLinesIn_step,
        ih (Scanner.live_step hlive hflawless.1) hflawless.2, hplace]
      constructor
      · rintro (hfirst | ⟨front, back, rfl, hline, hmode⟩)
        · -- the line behind the first character
          split_ifs at hfirst with hfeed
          · obtain ⟨hmode, rfl⟩ := hfeed
            exact ⟨[], rest, rfl, List.mem_singleton.mp hfirst, hmode⟩
          · cases hfirst
        · exact ⟨c :: front, back, rfl, hline, hmode⟩
      · rintro ⟨front, back, htext, hline, hmode⟩
        cases front with
        | nil =>
            obtain ⟨rfl, -⟩ := List.cons.inj htext
            left
            rw [if_pos ⟨hmode, rfl⟩]
            exact List.mem_singleton.mpr hline
        | cons d front =>
            obtain ⟨rfl, rfl⟩ := List.cons.inj htext
            exact .inr ⟨front, back, rfl, hline, hmode⟩

/-- The lines of a text that begin inside a literal begin behind a line feed of the text. -/
theorem literalLine_bounds (hlive : scanner.Live) {text : List Char}
    (hflawless : Flawless (scanner.reports text)) :
    ∀ line ∈ literalLinesIn (scanner.reports text),
      scanner.place.line < line ∧ line ≤ scanner.place.line + text.count '\n' := by
  intro line hline
  obtain ⟨front, back, rfl, rfl, -⟩ := (mem_literalLinesIn_iff hlive hflawless line).mp hline
  rw [Place.line_afterText, List.count_append, List.count_cons_self]
  omega

end LiteralLines

end PersistLayer.Syntax
