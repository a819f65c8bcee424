import PersistLayer.Proofs.Render.Parts
import PersistLayer.Proofs.Snippet.Matching

/-!
# The words of a text in parts

The words of a text are its tokens without the places where they stand.  A scanner
behind a part of a source file is as good as one that has read nothing: it reads
code, nothing is open, and the line feed at the end of the part has ended the last
token.  So the words of several parts, one behind the other, are those of each part
in turn (`wordsOf_join`).
-/

namespace PersistLayer.Syntax

/-- A token without the place where it stands. -/
def Token.word (token : Token) : TokenKind × String := (token.kind, token.text)

/-- The words of a text. -/
def wordsOf (text : String) : List (TokenKind × String) :=
  (tokensIn (scan text.toList)).map Token.word

/-! ## The scanner behind a part -/

/-- A scanner whose outline goes on reports no fault on the way. -/
theorem Scanner.run_of_outline {scanner : Scanner} (hlive : scanner.Live) {text : List Char}
    {last : Outline} (hrun : scanner.outline.run text = some last) :
    Flawless (scanner.emits text) ∧ (scanner.run text).Live ∧
      (scanner.run text).outline = last := by
  induction text generalizing scanner with
  | nil =>
      cases hrun
      exact ⟨flawless_nil, hlive, rfl⟩
  | cons c rest ih =>
      have htracks := scanner.tracks_step hlive c
      rw [Outline.run_cons, Option.bind_eq_some_iff] at hrun
      obtain ⟨next, hstep, hrest⟩ := hrun
      rw [hstep] at htracks
      obtain ⟨hflawless, hnext, rfl⟩ := htracks
      obtain ⟨hemits, hbehind⟩ := ih hnext hrest
      rw [emits_cons, flawless_append]
      exact ⟨⟨hflawless, hemits⟩, hbehind⟩

/-- A line feed that is read as code ends whatever token was being read. -/
theorem Scanner.mode_of_step_feed {scanner : Scanner} (hlive : (scanner.step '\n').1.Live)
    (hphase : (scanner.step '\n').1.mode.phase = .code) :
    (scanner.step '\n').1.mode = .code := by
  have hblank : (scanner.codeStep '\n').1.mode = .code := by
    rw [codeStep, if_pos (by decide), opening_mode]
  have hidentifier : isIdentifierChar '\n' = false := by decide
  have hnumber : isNumberChar '\n' = false := by decide
  cases hmode : scanner.mode with
  | string line escaped =>
      simp only [step, hmode, stringStep] at hphase hlive ⊢
      split_ifs at hphase hlive ⊢ <;> simp_all [Mode.phase, Live]
  | template dollar => simp [step, hmode, templateStep, Mode.phase, backtick] at hphase
  | halted => simp [step, hmode, Live] at hlive
  | _ => simp [step, hmode, hblank, endToken, hidentifier, hnumber]

/-- A scanner in front of code comes behind a part as it was: with the same open, and no
token going on. -/
theorem IsPart.run_eq {text : String} (hpart : IsPart text) {scanner : Scanner}
    (hcode : scanner.mode = .code) :
    Flawless (scanner.emits text.toList) ∧ (scanner.run text.toList).mode = .code ∧
      (scanner.run text.toList).frames.map Frame.enclosure =
        scanner.frames.map Frame.enclosure := by
  have houtline : scanner.outline = ⟨.code, scanner.frames.map Frame.enclosure⟩ := by
    simp [Scanner.outline, Scanner.enclosures, hcode, Mode.phase]
  have hlive : scanner.Live := by simp [Scanner.Live, hcode]
  have hrun : scanner.outline.run text.toList = some scanner.outline := by
    rw [houtline]
    exact hpart.neutral _
  obtain ⟨hflawless, hlast, hbehind⟩ := Scanner.run_of_outline hlive hrun
  rw [houtline, Scanner.outline, Outline.mk.injEq] at hbehind
  obtain ⟨hphase, hopen⟩ := hbehind
  have hmode : (scanner.run text.toList).mode = .code := by
    have hends := hpart.endsLine
    unfold EndsLine at hends
    -- an empty part leaves the scanner as it was, any other ends with a line feed
    rcases List.eq_nil_or_concat text.toList with hnil | ⟨front, c, htext⟩
    · rw [hnil]
      exact hcode
    · rw [htext, List.concat_eq_append] at hends hphase hlast ⊢
      obtain rfl : c = '\n' := by simpa using hends
      rw [Scanner.run_append] at hphase hlast ⊢
      exact Scanner.mode_of_step_feed hlast hphase
  refine ⟨hflawless, hmode, ?_⟩
  rw [← hopen]
  simp [Scanner.enclosures, hmode]

/-- One bracket is open when one enclosure is. -/
theorem exists_bracket_of_enclosures {frames : List Frame} {opener : Char}
    (hframes : frames.map Frame.enclosure = [.bracket opener]) :
    ∃ line, frames = [.bracket opener line] := by
  rcases frames with _ | ⟨⟨other, line⟩ | line, outer⟩
  · cases hframes
  · obtain ⟨hother, houter⟩ := List.cons.inj hframes
    obtain rfl : other = opener := by simpa [Frame.enclosure] using hother
    obtain rfl : outer = [] := by simpa using houter
    exact ⟨line, rfl⟩
  · simp [Frame.enclosure] at hframes

/-- The scanner behind a part reads code, with nothing open and no token going on. -/
structure Scanner.Settles (text : List Char) (place : Place) : Prop where
  flawless : Flawless ((fresh [] place).emits text)
  mode : ((fresh [] place).run text).mode = .code
  frames : ((fresh [] place).run text).frames = []

theorem IsPart.settles {text : String} (hpart : IsPart text) (place : Place) :
    Scanner.Settles text.toList place := by
  obtain ⟨hflawless, hmode, hframes⟩ := hpart.run_eq (Scanner.fresh_mode [] place)
  exact ⟨hflawless, hmode, by simpa using hframes⟩

section Settles

variable {text : List Char} {place : Place} (hsettles : Scanner.Settles text place)

include hsettles

theorem Scanner.Settles.stopsBefore (back : List Char) :
    ((fresh [] place).run text).StopsBefore back where
  isCode := by rw [hsettles.mode]; rfl
  outside := by rw [hsettles.frames]; rfl
  ends := by
    intro c _
    rw [hsettles.mode]
    rfl

theorem Scanner.Settles.reports_eq :
    (fresh [] place).reports text = (fresh [] place).emits text := by
  rw [reports_eq_emits]
  simp [finish, hsettles.mode, hsettles.frames, openReports]

end Settles

/-! ## Words wherever they stand -/

/-- Reports of the same on the same text are about the same words. -/
theorem words_alike {shift : Nat} {reports others : List Report}
    (halike : ReportsAlike .same shift reports others) :
    (tokensIn reports).map Token.word = (tokensIn others).map Token.word := by
  have hword : ∀ {token other : Token}, token.Alike .same other → token.word = other.word := by
    intro token other h
    rw [Token.word, Token.word, h.kind, String.toList_injective h.text]
  have hwords : List.Forall₂ Eq ((tokensIn reports).map Token.word)
      ((tokensIn others).map Token.word) := by
    rw [List.forall₂_map_left_iff, List.forall₂_map_right_iff]
    exact (tokensIn_alike halike).imp fun _ _ h => hword h
  rwa [List.forall₂_eq_eq_eq] at hwords

/-- The scanner behind a neutral text reads code, with nothing open. -/
theorem Neutral.run_eq {text : String} (htext : Neutral text) (place : Place) :
    Flawless ((Scanner.fresh [] place).emits text.toList) ∧
      ((Scanner.fresh [] place).run text.toList).Live ∧
      ((Scanner.fresh [] place).run text.toList).outline = .initial :=
  Scanner.run_of_outline (Scanner.fresh_live [] place) (htext [])

theorem Neutral.reports_eq {text : String} (htext : Neutral text) (place : Place) :
    (Scanner.fresh [] place).reports text.toList = (Scanner.fresh [] place).yield text.toList := by
  obtain ⟨-, hlast, houtline⟩ := htext.run_eq place
  obtain ⟨hframes, hcode⟩ := Scanner.of_isClosed hlast (by rw [houtline]; rfl)
  exact Scanner.reports_eq_yield hcode hframes

/-- A neutral text has no fault. -/
theorem Neutral.flawless {text : String} (htext : Neutral text) : Flawless (scan text.toList) := by
  rw [← errorsIn_eq_nil_iff, ← faults, faults_eq_nil_iff_outline]
  exact ⟨.initial, htext [], rfl⟩

/-- What is reported on a text does not depend on what stands in front of it. -/
theorem Neutral.reports_alike {text : String} (htext : Neutral text) (place : Place) :
    ReportsAlike .same place.line ((Scanner.fresh [] place).reports text.toList)
      (scan text.toList) := by
  have hstart : Matches .same place.line (Scanner.fresh [] place) (Scanner.fresh [] ⟨0, 0⟩) :=
    ⟨rfl, rfl, by simp, rfl⟩
  obtain ⟨hflawless, -, -⟩ := htext.run_eq place
  obtain ⟨hlast, halike⟩ := hstart.run_same (Scanner.fresh_live _ _) hflawless
  rw [scan_eq_reports, show Scanner.initial = Scanner.fresh [] ⟨0, 0⟩ from rfl,
    htext.reports_eq, htext.reports_eq]
  exact List.rel_append halike hlast.pending

/-- The words of a text do not depend on what stands in front of it. -/
theorem Neutral.words_eq {text : String} (htext : Neutral text) (place : Place) :
    (tokensIn ((Scanner.fresh [] place).reports text.toList)).map Token.word = wordsOf text :=
  words_alike (htext.reports_alike place)

/-- The words of a text in two parts, when no token goes on from one to the other. -/
theorem wordsOf_append_of_stopsBefore {front back : String}
    (hframes : (Scanner.initial.run front.toList).frames = [])
    (hstops : (Scanner.initial.run front.toList).StopsBefore back.toList) (hback : Neutral back) :
    wordsOf (front ++ back) = wordsOf front ++ wordsOf back := by
  have hfront : tokensIn (Scanner.initial.yield front.toList) = tokensIn (scan front.toList) := by
    rw [scan_eq_reports, Scanner.reports_eq_emits, Scanner.finish_of_isCode hstops.isCode,
      Scanner.yield]
    simp
  have hreports : scan (front ++ back).toList = Scanner.initial.yield front.toList ++
      (Scanner.fresh [] (Scanner.initial.run front.toList).place).reports back.toList := by
    rw [scan_eq_reports, String.toList_append, Scanner.reports_append_of_stopsBefore hstops, hframes]
  calc wordsOf (front ++ back)
      = (tokensIn (Scanner.initial.yield front.toList)).map Token.word ++
          (tokensIn ((Scanner.fresh [] (Scanner.initial.run front.toList).place).reports
            back.toList)).map Token.word := by
        rw [wordsOf, hreports, tokensIn_append, List.map_append]
    -- the place that a fresh scanner reads from has no say in words
    _ = (tokensIn (scan front.toList)).map Token.word ++ wordsOf back := by
        rw [hback.words_eq, hfront]

theorem wordsOf_feed : wordsOf "\n" = [] := rfl

/-- Nothing of a part reaches into what stands behind it. -/
theorem wordsOf_append {front back : String} (hfront : IsPart front) (hback : IsPart back) :
    wordsOf (front ++ back) = wordsOf front ++ wordsOf back := by
  have hsettles := hfront.settles ⟨0, 0⟩
  exact wordsOf_append_of_stopsBefore hsettles.frames (hsettles.stopsBefore _) hback.neutral

theorem IsPart.append {front back : String} (hfront : IsPart front) (hback : IsPart back) :
    IsPart (front ++ back) := by
  refine ⟨hfront.neutral.append hback.neutral, ?_⟩
  have hjoin : EndsLine (String.join [front, back]) := by
    apply endsLine_join
    simp [hfront.endsLine, hback.endsLine]
  simpa using hjoin

theorem isPart_empty : IsPart "" := ⟨neutral_empty, rfl⟩

theorem isPart_feed : IsPart "\n" := ⟨neutral_of_run rfl, rfl⟩

theorem isPart_join {parts : List String} (hparts : ∀ part ∈ parts, IsPart part) :
    IsPart (String.join parts) :=
  ⟨neutral_join fun part hpart => (hparts part hpart).neutral,
    endsLine_join fun part hpart => (hparts part hpart).endsLine⟩

/-- The words of several parts, one behind the other. -/
theorem wordsOf_join {parts : List String} (hparts : ∀ part ∈ parts, IsPart part) :
    wordsOf (String.join parts) = parts.flatMap wordsOf := by
  induction parts with
  | nil => rfl
  | cons part rest ih =>
      have hrest : ∀ other ∈ rest, IsPart other := fun other h =>
        hparts other (List.mem_cons_of_mem _ h)
      rw [String.join_cons, wordsOf_append (hparts part List.mem_cons_self) (isPart_join hrest),
        ih hrest, List.flatMap_cons]

/-- The tokens of a part. -/
theorem IsPart.tokenize_eq {text : String} (hpart : IsPart text) :
    ∃ scanned, tokenize text = .ok scanned ∧ scanned.tokens.map Token.word = wordsOf text :=
  ⟨_, tokenize_eq_ok_iff.mpr ⟨hpart.neutral.flawless, rfl⟩, rfl⟩

/-! ## Words with slashes between them -/

/-- A slash stands for itself in front of anything but another one. -/
theorem wordsOf_slash {text : String} (htext : Neutral text) (hbegins : BeginsOther text) :
    wordsOf ("/" ++ text) = (.punctuation, "/") :: wordsOf text := by
  obtain ⟨c, rest, hfirst, hc⟩ := hbegins
  have hstops : (Scanner.initial.run "/".toList).StopsBefore text.toList := by
    refine ⟨rfl, rfl, ?_⟩
    rw [hfirst]
    rintro _ ⟨rfl⟩
    exact beq_eq_false_iff_ne.mpr hc
  exact wordsOf_append_of_stopsBefore rfl hstops htext

/-- No word goes on with a slash. -/
theorem Mode.goesOnWith_slash {mode : Mode} (hcode : mode.isCode = true)
    (hphase : mode.phase = .code) : mode.goesOnWith '/' = false := by
  cases mode with
  | code => rfl
  | quote | identifier => exact (by decide : isIdentifierChar '/' = false)
  | number => exact (by decide : isNumberChar '/' = false)
  | slash | comment => cases hphase
  | string line escaped | template dollar | halted => cases hcode

/-- A slash ends whatever token stands in front of it. -/
theorem wordsOf_append_slash {front text : String} (hfront : Neutral front) (htext : Neutral text)
    (hbegins : BeginsOther text) :
    wordsOf (front ++ ("/" ++ text)) = wordsOf front ++ (.punctuation, "/") :: wordsOf text := by
  obtain ⟨-, hlast, houtline⟩ := hfront.run_eq ⟨0, 0⟩
  obtain ⟨hframes, hcode⟩ := Scanner.of_isClosed hlast (by rw [houtline]; rfl)
  have hstops : (Scanner.initial.run front.toList).StopsBefore ("/" ++ text).toList := by
    refine ⟨hcode, (congrArg inTemplate hframes).trans rfl, ?_⟩
    rw [String.toList_append]
    rintro _ ⟨rfl⟩
    exact Mode.goesOnWith_slash hcode (congrArg Outline.phase houtline)
  rw [wordsOf_append_of_stopsBefore hframes hstops (neutral_slash htext hbegins),
    wordsOf_slash htext hbegins]

theorem wordsOf_intercalate_slash {text : String} {rest : List String}
    (htexts : ∀ other ∈ text :: rest, Neutral other ∧ BeginsOther other) :
    wordsOf ("/".intercalate (text :: rest)) =
      wordsOf text ++ rest.flatMap fun other => (.punctuation, "/") :: wordsOf other := by
  induction rest generalizing text with
  | nil => simp
  | cons next others ih =>
      obtain ⟨⟨htext, -⟩, hrest⟩ := List.forall_mem_cons.mp htexts
      have hbegins := (hrest next List.mem_cons_self).2.intercalate "/" others
      calc wordsOf ("/".intercalate (text :: next :: others))
          = wordsOf (text ++ ("/" ++ "/".intercalate (next :: others))) := by
            rw [String.intercalate_cons_cons, String.append_assoc]
        _ = wordsOf text ++ (.punctuation, "/") :: wordsOf ("/".intercalate (next :: others)) :=
            wordsOf_append_slash htext (neutral_intercalate_slash hrest) hbegins
        _ = _ := by rw [ih hrest, List.flatMap_cons, List.cons_append]

/-! ## Comments -/

theorem Scanner.run_comment {scanner : Scanner} (hmode : scanner.mode = .comment)
    {text : List Char} (htext : '\n' ∉ text) :
    scanner.emits text = [] ∧ (scanner.run text).mode = .comment := by
  induction text generalizing scanner with
  | nil => exact ⟨rfl, hmode⟩
  | cons c rest ih =>
      simp only [List.mem_cons, not_or] at htext
      have hstep : scanner.step c = (scanner.take .comment c, []) := by
        simp [step, hmode, Ne.symm htext.1]
      obtain ⟨hemits, hlast⟩ := @ih (scanner.take .comment c) rfl htext.2
      rw [emits_cons, run_cons, hstep]
      exact ⟨hemits, hlast⟩

theorem wordsOf_commentLine {line : String} (hline : '\n' ∉ line.toList) :
    wordsOf ("// " ++ line ++ "\n") = [] := by
  have hpart : IsPart ("// " ++ line ++ "\n") :=
    ⟨neutral_commentLine hline, endsLine_append (by rfl)⟩
  have hopen : ((Scanner.fresh [] ⟨0, 0⟩).run "// ".toList).mode = .comment ∧
      (Scanner.fresh [] ⟨0, 0⟩).emits "// ".toList = [] := ⟨rfl, rfl⟩
  obtain ⟨hmode, hsilent⟩ := hopen
  obtain ⟨hemits, hlast⟩ := Scanner.run_comment hmode hline
  have hfeed : ∀ scanner : Scanner, scanner.mode = .comment → scanner.emits ['\n'] = [] := by
    intro scanner hscanner
    have hblank : scanner.codeStep '\n' = (scanner.opening .code '\n' [], []) := by
      rw [Scanner.codeStep, if_pos (by decide)]
    simp [Scanner.emits_cons, Scanner.step, hscanner, hblank]
  have hnone : (Scanner.fresh [] ⟨0, 0⟩).emits ("// " ++ line ++ "\n").toList = [] := by
    rw [String.toList_append, String.toList_append, Scanner.emits_append, Scanner.emits_append,
      Scanner.run_append, hsilent, hemits]
    exact hfeed _ hlast
  have hscan : scan ("// " ++ line ++ "\n").toList = [] := by
    rw [scan_eq_reports, ← hnone]
    exact (hpart.settles ⟨0, 0⟩).reports_eq
  rw [wordsOf, hscan]
  rfl

/-- A comment has no words. -/
theorem wordsOf_comment {comment : Comment} (hplain : comment.Plain) :
    wordsOf comment.render = [] := by
  have hlines : ∀ part ∈ comment.lines.map
      (fun line => if line == "" then "\n" else "// " ++ line ++ "\n"),
      IsPart part ∧ wordsOf part = [] := by
    intro part hpart
    obtain ⟨line, hline, rfl⟩ := List.mem_map.mp hpart
    split_ifs
    · exact ⟨isPart_feed, rfl⟩
    · have hline := hplain line hline
      exact ⟨⟨neutral_commentLine hline, endsLine_append (by rfl)⟩, wordsOf_commentLine hline⟩
  have hparts := fun part hpart => (hlines part hpart).1
  calc wordsOf comment.render
      = (comment.lines.map fun line => if line == "" then "\n" else "// " ++ line ++ "\n").flatMap
          wordsOf := by
        rw [Comment.render, wordsOf_append (isPart_join hparts) isPart_feed, wordsOf_join hparts,
          wordsOf_feed, List.append_nil]
    _ = [] := List.flatMap_eq_nil_iff.mpr fun part hpart => (hlines part hpart).2

end PersistLayer.Syntax
