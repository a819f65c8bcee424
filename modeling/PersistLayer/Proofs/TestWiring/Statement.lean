import PersistLayer.Proofs.Render.Braces
import PersistLayer.Proofs.Snippet.Braced
import PersistLayer.Proofs.Snippet.Rereading
import PersistLayer.TestWiring

/-!
# The statement that runs a script

A script stands between backticks, so that its lines but for the first begin inside a
template literal and are kept as they are.  The first one is the end of a line of code:
it is freed of the blanks at its end like any other.  What the literal holds is therefore
the script without the blanks in front of its first line break (`literalText`), and this
is the script itself exactly when there are none (`literalText_eq_iff`).
-/

namespace PersistLayer.TestWiring

open Syntax

/-! ## Embeddable texts -/

theorem beginsInterpolation_cons (c : Char) (rest : List Char) :
    beginsInterpolation (c :: rest) =
      ((c == '$' && rest.head? == some '\x7b') || beginsInterpolation rest) := by
  cases rest <;> simp [beginsInterpolation]

/-- An interpolation does not begin across a line break. -/
theorem beginsInterpolation_append_feed (front back : List Char) :
    beginsInterpolation (front ++ '\n' :: back) =
      (beginsInterpolation front || beginsInterpolation ('\n' :: back)) := by
  induction front with
  | nil => simp [beginsInterpolation]
  | cons c rest ih =>
      have hhead : ((rest ++ '\n' :: back).head? == some '\x7b') = (rest.head? == some '\x7b') := by
        cases rest <;> simp
      rw [List.cons_append, beginsInterpolation_cons, beginsInterpolation_cons, ih, hhead,
        Bool.or_assoc]

theorem beginsInterpolation_of_append {front back : List Char}
    (h : beginsInterpolation (front ++ back) = false) : beginsInterpolation front = false := by
  induction front with
  | nil => rfl
  | cons c rest ih =>
      rw [List.cons_append, beginsInterpolation_cons, Bool.or_eq_false_iff] at h
      rw [beginsInterpolation_cons, ih h.2, Bool.or_false]
      cases rest with
      | nil => simp
      | cons d tail => exact h.1

/-- A text that can stand in a template literal is read to its end as the text of the
literal, and every line break in it begins a literal line. -/
theorem run_template {scanner : Scanner} {dollar : Bool} (hmode : scanner.mode = .template dollar)
    {text : List Char} (hbacktick : backtick ∉ text) (hopens : beginsInterpolation text = false)
    (hfirst : dollar = true → text.head? ≠ some '\x7b') :
    (∃ dollar', scanner.run text = ⟨.template dollar', scanner.frames,
        scanner.place.afterText text, scanner.start, text.reverse ++ scanner.lexeme⟩) ∧
      scanner.emits text =
        (List.range' (scanner.place.line + 1) (text.count '\n')).map Report.literalLine := by
  induction text generalizing scanner dollar with
  | nil =>
      obtain ⟨mode, frames, place, start, lexeme⟩ := scanner
      obtain rfl : mode = .template dollar := hmode
      exact ⟨⟨dollar, rfl⟩, rfl⟩
  | cons c rest ih =>
      rw [List.mem_cons, not_or] at hbacktick
      rw [beginsInterpolation_cons, Bool.or_eq_false_iff] at hopens
      have hc : c ≠ backtick := Ne.symm hbacktick.1
      by_cases hfeed : c = '\n'
      · -- a line break begins a literal line, and no dollar sign reaches over it
        subst hfeed
        have hstep : scanner.step '\n' = (scanner.take (.template false) '\n',
            [.literalLine (scanner.place.line + 1)]) := by
          simp [Scanner.step, hmode, Scanner.templateStep, backtick]
        obtain ⟨⟨dollar', hrun⟩, hemits⟩ :=
          @ih (scanner.take (.template false) '\n') false rfl hbacktick.2 hopens.2 (by simp)
        refine ⟨⟨dollar', ?_⟩, ?_⟩
        · rw [Scanner.run_cons, hstep, hrun]
          simp
        · rw [Scanner.emits_cons, hstep, hemits, List.count_cons_self, List.range'_succ]
          simp [Place.after]
      · -- any other character is text; only a dollar sign is remembered
        have hbrace : ¬ (dollar = true ∧ c = '\x7b') := by
          rintro ⟨hdollar, rfl⟩
          exact hfirst hdollar rfl
        have hstep : scanner.step c = (scanner.take (.template (c == '$')) c, []) := by
          simp only [Scanner.step, hmode, Scanner.templateStep, hc, hfeed, if_false]
          rw [if_neg hbrace]
        have hnext : (c == '$') = true → rest.head? ≠ some '\x7b' := by
          intro hdollar hhead
          simp [hdollar, hhead] at hopens
        obtain ⟨⟨dollar', hrun⟩, hemits⟩ :=
          @ih (scanner.take (.template (c == '$')) c) (c == '$') rfl hbacktick.2 hopens.2 hnext
        refine ⟨⟨dollar', ?_⟩, ?_⟩
        · rw [Scanner.run_cons, hstep, hrun]
          simp
        · rw [Scanner.emits_cons, hstep, hemits, List.count_cons_of_ne hfeed]
          simp [Place.after, hfeed]

/-! ## What the literal holds -/

/-- A script without the blanks in front of its first line break. -/
def literalText (script : List Char) : List Char :=
  Text.trimEnd (script.takeWhile (· ≠ '\n')) ++ script.dropWhile (· ≠ '\n')

/-- The first line break of a script stands behind a blank. -/
def BlankBeforeBreak (script : List Char) : Prop :=
  ∃ front c back, script = front ++ c :: '\n' :: back ∧ '\n' ∉ front ∧ c ≠ '\n' ∧
    Text.isBlank c = true

/-- A text is its first line and what stands below it. -/
theorem takeWhile_line {line : List Char} (hline : '\n' ∉ line) (back : List Char) :
    (line ++ '\n' :: back).takeWhile (· ≠ '\n') = line ∧
      (line ++ '\n' :: back).dropWhile (· ≠ '\n') = '\n' :: back := by
  have hall : ∀ c ∈ line, decide (c ≠ '\n') = true := fun c hc => by
    simpa using ne_of_mem_of_not_mem hc hline
  rw [List.takeWhile_append_of_pos hall, List.dropWhile_append_of_pos hall]
  simp

/-- A script is on one line, or it has a first line. -/
theorem exists_first_break (script : List Char) :
    '\n' ∉ script ∨ ∃ line back, script = line ++ '\n' :: back ∧ '\n' ∉ line := by
  obtain ⟨line, rest, -, hscript, hline, -⟩ := exists_splitOn_eq script
  cases rest with
  | nil => exact .inl (by simpa [hscript] using hline)
  | cons next rest => exact .inr ⟨line, next ++ below rest, by rw [hscript, below_cons], hline⟩

theorem literalText_of_not_mem {script : List Char} (hline : '\n' ∉ script)
    (htrimmed : Text.trimEnd script = script) : literalText script = script := by
  have hall : ∀ c ∈ script, decide (c ≠ '\n') = true := fun c hc => by
    simpa using ne_of_mem_of_not_mem hc hline
  rw [literalText, List.takeWhile_eq_self_iff.mpr hall, List.dropWhile_eq_nil_iff.mpr hall,
    htrimmed, List.append_nil]

theorem literalText_of_line {line back : List Char} (hline : '\n' ∉ line) :
    literalText (line ++ '\n' :: back) = Text.trimEnd line ++ '\n' :: back := by
  obtain ⟨htake, hdrop⟩ := takeWhile_line hline back
  rw [literalText, htake, hdrop]

/-- **The literal holds the script** unless a blank stands in front of its first line
break. -/
theorem literalText_eq_iff {script : List Char} (htrimmed : Text.trimEnd script = script) :
    literalText script = script ↔ ¬ BlankBeforeBreak script := by
  rcases exists_first_break script with hline | ⟨line, back, rfl, hline⟩
  · refine iff_of_true (literalText_of_not_mem hline htrimmed) ?_
    rintro ⟨front, c, back, rfl, -⟩
    simp at hline
  · rw [literalText_of_line hline, List.append_left_inj, Text.trimEnd_eq_self_iff]
    constructor
    · rintro hends ⟨front, c, rest, hscript, hfront, hc, hblank⟩
      have hsame : line = front ++ [c] := by
        have hfirst : '\n' ∉ front ++ [c] := by simp [hfront, Ne.symm hc]
        have hother := (takeWhile_line hfirst rest).1
        rw [List.append_assoc, List.singleton_append, ← hscript] at hother
        exact (takeWhile_line hline back).1.symm.trans hother
      rw [hends c (by simp [hsame])] at hblank
      cases hblank
    · intro hnone c hc
      by_contra hblank
      obtain ⟨front, rfl⟩ := List.getLast?_eq_some_iff.mp hc
      simp only [List.mem_append, List.mem_singleton, not_or] at hline
      exact hnone ⟨front, c, back, by simp, hline.1, Ne.symm hline.2, by simpa using hblank⟩

/-- What the literal holds can stand in a literal as the script can. -/
theorem isEmbeddable_literalText {script : List Char} (hembeddable : isEmbeddable script = true)
    (htrimmed : Text.trimEnd script = script) : isEmbeddable (literalText script) = true := by
  rcases exists_first_break script with hline | ⟨line, back, rfl, hline⟩
  · rwa [literalText_of_not_mem hline htrimmed]
  · obtain ⟨lead, core, trail, hsplit, htrim, -⟩ := Text.exists_trimEnd_eq line
    rw [literalText_of_line hline, htrim]
    simp only [isEmbeddable, Bool.and_eq_true, Bool.not_eq_true', List.contains_eq_mem,
      decide_eq_false_iff_not, beginsInterpolation_append_feed, Bool.or_eq_false_iff,
      List.mem_append, not_or] at hembeddable ⊢
    obtain ⟨⟨hbacktick, hback⟩, hopens, hrest⟩ := hembeddable
    rw [hsplit] at hbacktick hopens
    simp only [List.mem_append, not_or] at hbacktick
    exact ⟨⟨hbacktick.1, hback⟩, beginsInterpolation_of_append hopens, hrest⟩

/-! ## The statement -/

/-- What stands in front of the script. -/
def executeHead : String := "_ = check h2Client->executeNativeSQL(\x60"

/-- The scanner in the literal of the statement, with `outer` open around it. -/
def atLiteral (dollar : Bool) (outer : List Frame) (place start : Place) (lexeme : List Char) :
    Scanner :=
  ⟨.template dollar, .template 0 :: .bracket '(' 0 :: outer, place, start, lexeme⟩

/-- The end of the statement makes a token of the literal. -/
theorem reads_end {outer : List Frame} (houtside : inTemplate outer = false) (dollar : Bool)
    (place start : Place) (lexeme : List Char) :
    (atLiteral dollar outer place start lexeme).emits [backtick, ')', ';'] =
        [.token ⟨.template, String.ofList lexeme.reverse, start.offset, place.offset + 1, start.line,
            outer.length + 1⟩,
          .token ⟨.punctuation, ")", place.offset + 1, place.offset + 2, place.line, outer.length⟩,
          .token ⟨.punctuation, ";", place.offset + 2, place.offset + 3, place.line,
            outer.length⟩] ∧
      ((atLiteral dollar outer place start lexeme).run [backtick, ')', ';']).mode = .code ∧
      ((atLiteral dollar outer place start lexeme).run [backtick, ')', ';']).frames = outer := by
  have hliteral : (atLiteral dollar outer place start lexeme).step backtick =
      (⟨.code, .bracket '(' 0 :: outer, place.after backtick, start, lexeme⟩,
        [.token ⟨.template, String.ofList lexeme.reverse, start.offset, place.offset + 1, start.line,
          outer.length + 1⟩]) := by
    simp [atLiteral, Scanner.step, Scanner.templateStep, Scanner.pass, Scanner.tokenReports, houtside]
    rfl
  have hparenthesis : (⟨.code, .bracket '(' 0 :: outer, place.after backtick, start, lexeme⟩ :
      Scanner).step ')' = (⟨.code, outer, (place.after backtick).after ')', place.after backtick, []⟩,
        [.token ⟨.punctuation, ")", place.offset + 1, place.offset + 2, place.line,
          outer.length⟩]) := by
    have hblank : Text.isBlank ')' = false := by decide
    simp [Scanner.step, Scanner.codeStep, hblank, isOpener, isCloser, Scanner.closer, closerOf,
      Scanner.opening, Scanner.markReports, houtside, backtick]
    exact ⟨rfl, rfl, rfl⟩
  have hsemicolon : (⟨.code, outer, (place.after backtick).after ')', place.after backtick, []⟩ :
      Scanner).step ';' = (⟨.code, outer, ((place.after backtick).after ')').after ';',
        (place.after backtick).after ')', []⟩,
        [.token ⟨.punctuation, ";", place.offset + 2, place.offset + 3, place.line,
          outer.length⟩]) := by
    have hblank : Text.isBlank ';' = false := by decide
    have hword : isIdentifierChar ';' = false := by decide
    simp [Scanner.step, Scanner.codeStep, hblank, hword, isOpener, isCloser,
      Scanner.opening, Scanner.markReports, houtside, backtick]
    exact ⟨rfl, rfl, rfl⟩
  simp [Scanner.emits_cons, Scanner.run_cons, hliteral, hparenthesis, hsemicolon]

/-- What is reported on the statement from its script on: the line breaks in the script
and three tokens, the first of which is the script. -/
theorem reads_script {script : List Char} (hembeddable : isEmbeddable script = true)
    {outer : List Frame} (houtside : inTemplate outer = false) (place start : Place) :
    (atLiteral false outer place start []).emits (script ++ [backtick, ')', ';']) =
        (List.range' (place.line + 1) (script.count '\n')).map Report.literalLine ++
          [.token ⟨.template, String.ofList script, start.offset,
              (place.afterText script).offset + 1, start.line, outer.length + 1⟩,
            .token ⟨.punctuation, ")", (place.afterText script).offset + 1,
              (place.afterText script).offset + 2, (place.afterText script).line, outer.length⟩,
            .token ⟨.punctuation, ";", (place.afterText script).offset + 2,
              (place.afterText script).offset + 3, (place.afterText script).line,
              outer.length⟩] ∧
      ((atLiteral false outer place start []).run (script ++ [backtick, ')', ';'])).mode = .code ∧
      ((atLiteral false outer place start []).run (script ++ [backtick, ')', ';'])).frames =
        outer := by
  simp only [isEmbeddable, Bool.and_eq_true, Bool.not_eq_true', List.contains_eq_mem,
    decide_eq_false_iff_not] at hembeddable
  obtain ⟨⟨dollar, hrun⟩, hlines⟩ := @run_template (atLiteral false outer place start []) _ rfl
    script hembeddable.1 hembeddable.2 (by simp)
  have hbehind : (atLiteral false outer place start []).run script =
      atLiteral dollar outer (place.afterText script) start script.reverse := by
    rw [hrun]
    simp [atLiteral]
  -- the script leaves the scanner in the literal, and the end of the statement leaves both
  obtain ⟨hends, hmode, hframes⟩ :=
    reads_end houtside dollar (place.afterText script) start script.reverse
  rw [Scanner.emits_append, Scanner.run_append, hbehind, hlines, hends, List.reverse_reverse]
  exact ⟨rfl, hmode, hframes⟩

/-- The statement that runs a script. -/
def executeText (script : List Char) : List Char :=
  executeHead.toList ++ (script ++ [backtick, ')', ';'])

theorem execute_eq_ok_iff {script : List Char} {snippet : Snippet} :
    execute script = .ok snippet ↔
      isEmbeddable script = true ∧
        statementIn (String.ofList (executeText script)) = .ok snippet := by
  have htext : "_ = check h2Client->executeNativeSQL(\x60" ++ String.ofList script ++ "\x60);" =
      String.ofList (executeText script) := by
    rw [← String.toList_inj]
    simp only [String.toList_append, String.toList_ofList, executeText, List.append_assoc]
    rfl
  unfold execute
  split_ifs with hembeddable
  · rw [readFragment_eq_ok_iff, ← htext]
    exact (and_iff_right hembeddable).symm
  · exact iff_of_false nofun fun h => hembeddable h.1

/-- What is reported on the statement: first on what stands in front of the script, then on
the rest. -/
theorem scan_executeText_eq {script : List Char} (hembeddable : isEmbeddable script = true) :
    scan (executeText script) = Scanner.initial.emits executeHead.toList ++
      (atLiteral false [] ⟨38, 0⟩ ⟨37, 0⟩ []).emits (script ++ [backtick, ')', ';']) := by
  have hrun : Scanner.initial.run executeHead.toList = atLiteral false [] ⟨38, 0⟩ ⟨37, 0⟩ [] := by
    decide +kernel
  obtain ⟨-, hmode, hframes⟩ := @reads_script script hembeddable [] rfl ⟨38, 0⟩ ⟨37, 0⟩
  have hfinish : ((atLiteral false [] ⟨38, 0⟩ ⟨37, 0⟩ []).run
      (script ++ [backtick, ')', ';'])).finish = [] := by
    rw [Scanner.finish, hmode, hframes]
    rfl
  calc scan (executeText script)
      = Scanner.initial.emits executeHead.toList ++
          (atLiteral false [] ⟨38, 0⟩ ⟨37, 0⟩ []).reports (script ++ [backtick, ')', ';']) := by
        rw [scan_eq_reports, executeText, Scanner.reports_append, hrun]
    _ = _ := by rw [Scanner.reports_eq_emits, hfinish, List.append_nil]

/-- The tokens of the statement reach from its first character to its last, and the lines
behind its first begin in the literal. -/
theorem scan_executeText {script : List Char} (hembeddable : isEmbeddable script = true) :
    (tokensIn (scan (executeText script))).head? = some ⟨.identifier, "_", 0, 1, 0, 0⟩ ∧
      (∃ last, (tokensIn (scan (executeText script))).getLast? = some last ∧
        last.stop = Text.byteLength (executeText script)) ∧
      literalLinesIn (scan (executeText script)) = List.range' 1 (script.count '\n') := by
  have hfirst : (tokensIn (Scanner.initial.emits executeHead.toList)).head? =
      some ⟨.identifier, "_", 0, 1, 0, 0⟩ := by
    decide +kernel
  have hsilent : literalLinesIn (Scanner.initial.emits executeHead.toList) = [] := by
    decide +kernel
  obtain ⟨hemits, -, -⟩ := @reads_script script hembeddable [] rfl ⟨38, 0⟩ ⟨37, 0⟩
  rw [scan_executeText_eq hembeddable, tokensIn_append, literalLinesIn_append, hsilent]
  refine ⟨by rw [List.head?_append, hfirst]; rfl, ?_, ?_⟩
  · have hend : (tokensIn ((atLiteral false [] ⟨38, 0⟩ ⟨37, 0⟩ []).emits
        (script ++ [backtick, ')', ';']))).getLast? = some ⟨.punctuation, ";",
          ((⟨38, 0⟩ : Place).afterText script).offset + 2,
          ((⟨38, 0⟩ : Place).afterText script).offset + 3,
          ((⟨38, 0⟩ : Place).afterText script).line, 0⟩ := by
      rw [hemits]
      simp [tokensIn, Report.token?]
    have hbytes : Text.byteLength executeHead.toList = 38 ∧
        Text.byteLength [backtick, ')', ';'] = 3 := by
      decide +kernel
    refine ⟨_, by rw [List.getLast?_append, hend]; rfl, ?_⟩
    calc ((⟨38, 0⟩ : Place).afterText script).offset + 3
        = 38 + Text.byteLength script + 3 := by rw [Place.offset_afterText]
      _ = 38 + (Text.byteLength script + 3) := Nat.add_assoc _ _ _
      _ = Text.byteLength (executeText script) := by
          rw [executeText, Text.byteLength_append, Text.byteLength_append, hbytes.1, hbytes.2]
  · rw [hemits, literalLinesIn_append]
    simp [literalLinesIn, List.filterMap_map, Function.comp_def, Report.literalLine?]

/-- Nothing is wrong with the statement, and its tokens form one construct: no token in
front of its last semicolon could end one. -/
theorem construct_of_executeText {script : List Char} (hembeddable : isEmbeddable script = true) :
    Flawless (scan (executeText script)) ∧
      constructs (tokensIn (scan (executeText script))) =
        ([tokensIn (scan (executeText script))], []) := by
  have hheadFlawless : Flawless (Scanner.initial.emits executeHead.toList) := by
    unfold Flawless
    decide +kernel
  have hheadForm : formBehind .undecided (tokensIn (Scanner.initial.emits executeHead.toList)) =
      some .undecided := by
    decide +kernel
  obtain ⟨hemits, -, -⟩ := @reads_script script hembeddable [] rfl ⟨38, 0⟩ ⟨37, 0⟩
  have hlines : tokensIn ((List.range' (0 + 1) (script.count '\n')).map Report.literalLine) = [] := by
    simp [tokensIn, List.filterMap_map, Function.comp_def, Report.token?]
  -- behind the head come the literal, a parenthesis and the semicolon
  obtain ⟨literal, parenthesis, semicolon, hbehind, hform, hdepth, hsign⟩ :
      ∃ literal parenthesis semicolon,
        tokensIn ((atLiteral false [] ⟨38, 0⟩ ⟨37, 0⟩ []).emits (script ++ [backtick, ')', ';'])) =
          [literal, parenthesis] ++ [semicolon] ∧
        formBehind .undecided [literal, parenthesis] = some .undecided ∧
        semicolon.depth = 0 ∧ semicolon.isMark ";" = true := by
    rw [hemits, tokensIn_append, hlines]
    exact ⟨_, _, _, rfl, rfl, rfl, rfl⟩
  rw [scan_executeText_eq hembeddable]
  refine ⟨?_, ?_⟩
  · rw [hemits, flawless_append, flawless_append]
    refine ⟨hheadFlawless, ?_, by simp [Report.isFlaw]⟩
    intro report hreport
    obtain ⟨line, -, rfl⟩ := List.mem_map.mp hreport
    rfl
  · have hfront : formBehind .undecided (tokensIn (Scanner.initial.emits executeHead.toList) ++
        [literal, parenthesis]) = some .undecided := by
      rw [formBehind_append, hheadForm]
      exact hform
    rw [tokensIn_append, hbehind, ← List.append_assoc]
    exact constructsOnto_of_formBehind hfront (Token.endsConstruct_semicolon hdepth hsign _ _) []

/-- The snippet of the statement is cut from its whole text. -/
theorem snippetOfTokens_executeText {script : List Char}
    (hembeddable : isEmbeddable script = true) :
    snippetOfTokens (executeText script) (literalLinesIn (scan (executeText script)))
        (tokensIn (scan (executeText script))) =
      snippetOf (executeText script) 0 (List.range' 1 (script.count '\n')) := by
  obtain ⟨hfirst, ⟨last, hlast, hstop⟩, hliteral⟩ := scan_executeText hembeddable
  have hwhole := excerpt_of_isMargin isMargin_nil (executeText script) []
  rw [List.nil_append, List.append_nil] at hwhole
  simp only [snippetOfTokens, hfirst, hlast, cutSnippet, hstop]
  rw [hliteral, show excerpt (executeText script) 0 _ = _ from hwhole]

/-- The whole statement is cut out. -/
theorem snippetOf_executeText {script : List Char} {snippet : Snippet}
    (hexecute : execute script = .ok snippet) :
    snippetOf (executeText script) 0 (List.range' 1 (script.count '\n')) = .ok snippet := by
  obtain ⟨hembeddable, hread⟩ := execute_eq_ok_iff.mp hexecute
  obtain ⟨scanned, hscanned, -, -, hsnippet⟩ := statementIn_eq_ok_iff_of_tokens.mp hread
  obtain ⟨-, rfl⟩ := tokenize_eq_ok_iff.mp hscanned
  rw [String.toList_ofList] at hsnippet
  rw [← snippetOfTokens_executeText hembeddable]
  exact hsnippet

/-- No blank of what stands in front of the script is at the end of a line. -/
theorem trimEnd_executeHead (line : List Char) :
    Text.trimEnd (executeHead.toList ++ line) = executeHead.toList ++ Text.trimEnd line := by
  obtain ⟨front, hfront⟩ : ∃ front, executeHead.toList = front ++ [backtick] :=
    ⟨executeHead.toList.dropLast, by decide⟩
  have hkept := Text.trimEnd_append (c := backtick) (by decide) front line
  rw [hfront]
  simpa using hkept

theorem count_below {lines : List (List Char)} (hlines : ∀ line ∈ lines, '\n' ∉ line) :
    (below lines).count '\n' = lines.length := by
  induction lines with
  | nil => rfl
  | cons line rest ih =>
      obtain ⟨hline, hrest⟩ := List.forall_mem_cons.mp hlines
      calc (below (line :: rest)).count '\n'
          = line.count '\n' + (below rest).count '\n' + 1 := by
            rw [below_cons, List.count_cons_self, List.count_append]
        _ = 0 + rest.length + 1 := by rw [List.count_eq_zero_of_not_mem hline, ih hrest]
        _ = (line :: rest).length := by rw [Nat.zero_add, List.length_cons]

/-- The lines of the statement: the first one loses the blanks at its end, which are those
in front of the first line break of the script. -/
theorem exists_lines {script : List Char} (htrimmed : Text.trimEnd script = script) :
    ∃ first rest, executeText script = executeHead.toList ++ first ++ below rest ∧
      '\n' ∉ first ∧ (∀ line ∈ rest, '\n' ∉ line) ∧ rest.length = script.count '\n' ∧
      Text.trimEnd (executeHead.toList ++ first) ++ below rest = executeText (literalText script) := by
  obtain ⟨first, rest, -, hsplit, hfirst, hrest⟩ := exists_splitOn_eq (script ++ [backtick, ')', ';'])
  refine ⟨first, rest, by rw [executeText, hsplit, List.append_assoc], hfirst, hrest, ?_, ?_⟩
  · have hcount := congrArg (List.count '\n') hsplit
    rw [List.count_append, List.count_append, List.count_eq_zero_of_not_mem hfirst,
      count_below hrest] at hcount
    have htail : List.count '\n' [backtick, ')', ';'] = 0 := by decide
    omega
  rw [trimEnd_executeHead, executeText, List.append_assoc]
  refine congrArg _ ?_
  rcases exists_first_break script with hline | ⟨line, back, rfl, hline⟩
  · -- a script of one line: nothing is below, and no blank is at the end
    obtain rfl : rest = [] := by
      cases rest with
      | nil => rfl
      | cons next others =>
          have hmem : '\n' ∈ script ++ [backtick, ')', ';'] := by
            rw [hsplit]
            simp
          rcases List.mem_append.mp hmem with hmem | hmem
          · exact absurd hmem hline
          · exact absurd hmem (by decide)
    have hwhole : Text.trimEnd (script ++ [backtick, ')', ';']) = script ++ [backtick, ')', ';'] := by
      rw [Text.trimEnd_eq_self_iff, List.getLast?_append]
      rintro _ ⟨rfl⟩
      decide
    rw [below_nil, List.append_nil] at hsplit ⊢
    rw [← hsplit, hwhole, literalText_of_not_mem hline htrimmed]
  · -- the first line ends at the first line break of the script, and is trimmed there
    rw [List.append_assoc, List.cons_append] at hsplit
    obtain ⟨htake, hdrop⟩ := takeWhile_line hline (back ++ [backtick, ')', ';'])
    cases rest with
    | nil =>
        rw [below_nil, List.append_nil] at hsplit
        rw [← hsplit] at hfirst
        simp at hfirst
    | cons next others =>
        obtain ⟨htake', hdrop'⟩ := takeWhile_line hfirst (next ++ below others)
        rw [below_cons] at hsplit ⊢
        rw [hsplit] at htake hdrop
        rw [← hdrop', hdrop, literalText_of_line hline, ← htake', htake]
        simp

/-- The snippet of the statement: the first line is code, and those below it are kept as they
are. -/
theorem snippetOf_lines {script first : List Char} {rest : List (List Char)}
    (htext : executeText script = executeHead.toList ++ first ++ below rest) (hfirst : '\n' ∉ first)
    (hrest : ∀ line ∈ rest, '\n' ∉ line) (hcount : rest.length = script.count '\n') :
    snippetOf (executeText script) 0 (List.range' 1 (script.count '\n')) =
      .ok ⟨⟨String.ofList (Text.trimEnd (executeHead.toList ++ first)), false⟩ ::
        rest.map fun line => ⟨String.ofList line, true⟩⟩ := by
  have hhead : '\n' ∉ executeHead.toList ∧ executeHead.toList.head? = some '_' := by decide
  have hline : '\n' ∉ executeHead.toList ++ first := by
    rw [List.mem_append, not_or]
    exact ⟨hhead.1, hfirst⟩
  have hbegins : (executeHead.toList ++ first).head? = some '_' := by
    rw [List.head?_append, hhead.2]
    rfl
  rw [htext]
  refine snippetOf_literal hline hrest hbegins (by decide) ?_ ?_
  · rw [List.mem_range'_1]
    omega
  · intro index hindex
    rw [List.mem_range'_1]
    omega

/-- **A script that can stand in a literal has its statement.** -/
theorem exists_execute {script : List Char} (htrimmed : Text.trimEnd script = script)
    (hembeddable : isEmbeddable script = true) : ∃ snippet, execute script = .ok snippet := by
  obtain ⟨hflawless, hconstructs⟩ := construct_of_executeText hembeddable
  obtain ⟨hfirst, -, -⟩ := scan_executeText hembeddable
  obtain ⟨first, rest, htext, hline, hrest, hcount, -⟩ := exists_lines htrimmed
  obtain ⟨snippet, hsnippet⟩ : ∃ snippet, snippetOf (executeText script) 0
      (List.range' 1 (script.count '\n')) = .ok snippet :=
    ⟨_, snippetOf_lines htext hline hrest hcount⟩
  rw [← snippetOfTokens_executeText hembeddable] at hsnippet
  have hscanned : tokenize (String.ofList (executeText script)) =
      .ok ⟨tokensIn (scan (executeText script)), literalLinesIn (scan (executeText script))⟩ := by
    rw [tokenize_eq_ok_iff, String.toList_ofList]
    exact ⟨hflawless, rfl⟩
  have htokens : tokensIn (scan (executeText script)) ≠ [] := by
    intro hnone
    rw [hnone] at hfirst
    cases hfirst
  refine ⟨snippet, execute_eq_ok_iff.mpr ⟨hembeddable, ?_⟩⟩
  rw [statementIn_eq_ok_iff_of_tokens, String.toList_ofList]
  exact ⟨_, hscanned, htokens, hconstructs, hsnippet⟩

/-- **The statement as it is written** holds the script without the blanks in front of its
first line break. -/
theorem render_execute {script : List Char} {snippet : Snippet}
    (htrimmed : Text.trimEnd script = script) (hexecute : execute script = .ok snippet)
    (depth : Nat) :
    (snippet.render depth).toList =
      (indentation depth).toList ++ executeText (literalText script) ++ ['\n'] := by
  obtain ⟨first, rest, htext, hfirst, hrest, hcount, hwritten⟩ := exists_lines htrimmed
  have hcut := snippetOf_executeText hexecute
  rw [snippetOf_lines htext hfirst hrest hcount, Except.ok.injEq] at hcut
  subst hcut
  have hcode : SnippetLine.IsCode
      ⟨String.ofList (Text.trimEnd (executeHead.toList ++ first)), false⟩ := by
    refine ⟨rfl, fun hempty => ?_⟩
    have hnil := congrArg String.toList hempty
    rw [String.toList_ofList, trimEnd_executeHead] at hnil
    exact absurd (List.append_eq_nil_iff.mp hnil).1 (by decide)
  -- the lines below the first one are verbatim, so they are written as they are
  have hkept : ∀ line ∈ rest, (⟨String.ofList line, true⟩ : SnippetLine).written depth = line := by
    intro line _
    rw [SnippetLine.written_of_not_isCode (by rintro ⟨hverbatim, -⟩; cases hverbatim),
      String.toList_ofList]
  calc (Snippet.render _ depth).toList
      = Snippet.written _ depth ++ ['\n'] := Snippet.render_eq (List.cons_ne_nil _ _) depth
    _ = (indentation depth).toList ++ Text.trimEnd (executeHead.toList ++ first) ++ below rest ++
          ['\n'] := by
        rw [Snippet.written, List.map_cons, hcode.written_eq, List.map_map, intercalate_feed,
          Function.comp_def, List.map_congr_left hkept, List.map_id', String.toList_ofList]
    _ = (indentation depth).toList ++ executeText (literalText script) ++ ['\n'] := by
        rw [← hwritten]
        simp only [List.append_assoc]

/-- The words in front of the script. -/
def executeHeadWords : List (TokenKind × String) :=
  [(.identifier, "_"), (.punctuation, "="), (.identifier, "check"), (.identifier, "h2Client"),
    (.punctuation, "-"), (.punctuation, ">"), (.identifier, "executeNativeSQL"),
    (.punctuation, "(")]

/-- The words of the statement that runs a script. -/
def executeWords (script : List Char) : List (TokenKind × String) :=
  executeHeadWords ++
    [(.template, String.ofList (literalText script)), (.punctuation, ")"), (.punctuation, ";")]

/-- **The words of the statement** in the body of a function. -/
theorem wordsInBraces_execute {script : List Char} {snippet : Snippet}
    (htrimmed : Text.trimEnd script = script) (hexecute : execute script = .ok snippet) :
    wordsInBraces (snippet.render 1) = executeWords script := by
  have hembeddable := isEmbeddable_literalText (execute_eq_ok_iff.mp hexecute).1 htrimmed
  have hrun : Scanner.inBraces.run ((indentation 1).toList ++ executeHead.toList) =
      atLiteral false [.bracket '\x7b' 0] ⟨42, 0⟩ ⟨41, 0⟩ [] := by
    decide +kernel
  have hhead : (tokensIn (Scanner.inBraces.emits ((indentation 1).toList ++
      executeHead.toList))).map Token.word = executeHeadWords := by
    decide +kernel
  obtain ⟨hemits, hmode, -⟩ := @reads_script _ hembeddable [.bracket '\x7b' 0] rfl ⟨42, 0⟩ ⟨41, 0⟩
  have htext : (snippet.render 1).toList = ((indentation 1).toList ++ executeHead.toList) ++
      (literalText script ++ [backtick, ')', ';']) ++ ['\n'] := by
    rw [render_execute htrimmed hexecute, executeText]
    simp only [List.append_assoc]
  have hfeed : ∀ scanner : Scanner, scanner.mode = .code → tokensIn (scanner.emits ['\n']) = [] := by
    rintro ⟨mode, frames, place, start, lexeme⟩ rfl
    rfl
  have hall : Scanner.inBraces.emits (snippet.render 1).toList =
      Scanner.inBraces.emits ((indentation 1).toList ++ executeHead.toList) ++
        ((atLiteral false [.bracket '\x7b' 0] ⟨42, 0⟩ ⟨41, 0⟩ []).emits
            (literalText script ++ [backtick, ')', ';']) ++
          ((atLiteral false [.bracket '\x7b' 0] ⟨42, 0⟩ ⟨41, 0⟩ []).run
            (literalText script ++ [backtick, ')', ';'])).emits ['\n']) := by
    rw [htext, List.append_assoc, Scanner.emits_append, hrun]
    exact congrArg _ (Scanner.emits_append _ _ _)
  calc wordsInBraces (snippet.render 1)
      = (tokensIn (Scanner.inBraces.emits ((indentation 1).toList ++
            executeHead.toList))).map Token.word ++
          (tokensIn ((atLiteral false [.bracket '\x7b' 0] ⟨42, 0⟩ ⟨41, 0⟩ []).emits
            (literalText script ++ [backtick, ')', ';']))).map Token.word := by
        rw [wordsInBraces, hall, tokensIn_append, tokensIn_append, hfeed _ hmode,
          List.append_nil, List.map_append]
    -- the words in front of the script are those of the call, behind it comes its end
    _ = executeHeadWords ++
          [(.template, String.ofList (literalText script)), (.punctuation, ")"),
            (.punctuation, ";")] := by
        rw [hhead, hemits]
        simp [tokensIn, List.filterMap_map, Function.comp_def, Report.token?, Token.word]

end PersistLayer.TestWiring
