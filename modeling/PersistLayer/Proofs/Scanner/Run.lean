import PersistLayer.Proofs.Scanner.Outline
import PersistLayer.Text.Bytes

/-!
# Reading a text in parts

What the scanner reports on a text is put together from its parts, provided that
no token reaches from one part into the next.  `Scanner.run` is the scanner
behind a part and `Scanner.emits` what it reports on the way.

A scanner that reads code may be in the middle of a word, a number, a slash or an
apostrophe, which is a token as soon as a character follows that does not go on
with it.  `Scanner.StopsBefore` says that the token ends in front of a text, and
`Scanner.reports_append_of_stopsBefore` that what is reported from there on is the token
and then whatever a scanner reports that comes to the text fresh.
-/

namespace PersistLayer.Syntax

/-! ## Runs -/

/-- The scanner behind a text. -/
def Scanner.run (scanner : Scanner) : List Char → Scanner
  | [] => scanner
  | c :: rest => (scanner.step c).1.run rest

/-- What is reported on the way through a text, before its end is known. -/
def Scanner.emits (scanner : Scanner) : List Char → List Report
  | [] => []
  | c :: rest => (scanner.step c).2 ++ (scanner.step c).1.emits rest

section Runs

variable (scanner : Scanner) (c : Char) (rest front back : List Char)

@[simp] theorem Scanner.run_nil : scanner.run [] = scanner := rfl

@[simp] theorem Scanner.emits_nil : scanner.emits [] = [] := rfl

theorem Scanner.run_cons : scanner.run (c :: rest) = (scanner.step c).1.run rest := rfl

theorem Scanner.emits_cons :
    scanner.emits (c :: rest) = (scanner.step c).2 ++ (scanner.step c).1.emits rest := rfl

theorem Scanner.run_append : scanner.run (front ++ back) = (scanner.run front).run back := by
  induction front generalizing scanner with
  | nil => rfl
  | cons c rest ih => exact ih _

theorem Scanner.emits_append :
    scanner.emits (front ++ back) = scanner.emits front ++ (scanner.run front).emits back := by
  induction front generalizing scanner with
  | nil => rfl
  | cons c rest ih => simp [emits_cons, run_cons, ih]

theorem Scanner.reports_append :
    scanner.reports (front ++ back) = scanner.emits front ++ (scanner.run front).reports back := by
  induction front generalizing scanner with
  | nil => rfl
  | cons c rest ih => simp [reports, emits_cons, run_cons, ih]

theorem Scanner.reports_eq_emits :
    scanner.reports front = scanner.emits front ++ (scanner.run front).finish := by
  simpa [reports] using scanner.reports_append front []

end Runs

theorem Scanner.live_step {scanner : Scanner} (hlive : scanner.Live) {c : Char}
    (hflawless : Flawless (scanner.step c).2) : (scanner.step c).1.Live := by
  have htracks := scanner.tracks_step hlive c
  cases hstep : scanner.outline.step c with
  | none =>
      rw [hstep] at htracks
      exact absurd hflawless htracks
  | some next =>
      rw [hstep] at htracks
      exact htracks.2.1

/-- A scanner that reports no fault on the way is followed by its outline. -/
theorem Scanner.outline_run {scanner : Scanner} (hlive : scanner.Live) {text : List Char}
    (hflawless : Flawless (scanner.emits text)) :
    (scanner.run text).Live ∧
      scanner.outline.run text = some (scanner.run text).outline := by
  induction text generalizing scanner with
  | nil => exact ⟨hlive, rfl⟩
  | cons c rest ih =>
      have htracks := scanner.tracks_step hlive c
      rw [emits_cons, flawless_append] at hflawless
      cases hstep : scanner.outline.step c with
      | none =>
          rw [hstep] at htracks
          exact absurd hflawless.1 htracks
      | some next =>
          rw [hstep] at htracks
          obtain ⟨-, hnext, houtline⟩ := htracks
          rw [Outline.run_cons, hstep, run_cons, Option.bind_some, ← houtline]
          exact ih hnext hflawless.2

/-! ## Places -/

/-- The place behind a text. -/
def Place.afterText (place : Place) (text : List Char) : Place := text.foldl Place.after place

@[simp] theorem Place.afterText_nil (place : Place) : place.afterText [] = place := rfl

@[simp] theorem Place.afterText_cons (place : Place) (c : Char) (rest : List Char) :
    place.afterText (c :: rest) = (place.after c).afterText rest := rfl

theorem Place.afterText_append (place : Place) (front back : List Char) :
    place.afterText (front ++ back) = (place.afterText front).afterText back :=
  List.foldl_append

theorem Place.offset_afterText (place : Place) (text : List Char) :
    (place.afterText text).offset = place.offset + Text.byteLength text := by
  induction text generalizing place with
  | nil => rfl
  | cons c rest ih =>
      rw [afterText_cons, ih, Text.byteLength_cons]
      simp [after, Nat.add_assoc]

theorem Place.line_afterText (place : Place) (text : List Char) :
    (place.afterText text).line = place.line + text.count '\n' := by
  induction text generalizing place with
  | nil => rfl
  | cons c rest ih =>
      rw [afterText_cons, ih, List.count_cons]
      by_cases hfeed : c = '\n'
      · simp [after, hfeed]
        omega
      · simp [after, hfeed]

/-- The place in front of a text. -/
def origin : Place := ⟨0, 0⟩

theorem offset_origin (text : List Char) :
    (origin.afterText text).offset = Text.byteLength text := by
  rw [Place.offset_afterText, origin, Nat.zero_add]

theorem line_origin (text : List Char) : (origin.afterText text).line = text.count '\n' := by
  rw [Place.line_afterText, origin, Nat.zero_add]

theorem Scanner.closer_place (scanner : Scanner) (c : Char) :
    (scanner.closer c).1.place = scanner.place.after c := by
  unfold closer
  split
  · split_ifs <;> rfl
  · simp
  · simp

theorem Scanner.codeStep_place (scanner : Scanner) (c : Char) :
    (scanner.codeStep c).1.place = scanner.place.after c := by
  unfold codeStep
  split_ifs
  case pos => simp
  all_goals simp [closer_place]

/-- Every character moves the place of a scanner that goes on. -/
theorem Scanner.step_place {scanner : Scanner} (hlive : scanner.Live) {c : Char}
    (hflawless : Flawless (scanner.step c).2) :
    (scanner.step c).1.place = scanner.place.after c := by
  cases hmode : scanner.mode with
  | code => simp [step, hmode, codeStep_place]
  | slash | comment | quote | identifier | number =>
      simp only [step, hmode]
      split_ifs <;> simp [endToken, codeStep_place]
  | string line escaped =>
      simp only [step, hmode, stringStep] at hflawless ⊢
      split_ifs at hflawless ⊢
      · rfl
      · simp
      · simp [Report.isFlaw] at hflawless
      · simp
      · rfl
  | template dollar =>
      simp only [step, hmode, templateStep]
      split_ifs <;> simp
  | halted => simp [Live, hmode] at hlive

theorem Scanner.run_place {scanner : Scanner} (hlive : scanner.Live) {text : List Char}
    (hflawless : Flawless (scanner.emits text)) :
    (scanner.run text).place = scanner.place.afterText text := by
  induction text generalizing scanner with
  | nil => rfl
  | cons c rest ih =>
      rw [emits_cons, flawless_append] at hflawless
      have hnext := live_step hlive hflawless.1
      rw [run_cons, ih hnext hflawless.2, step_place hlive hflawless.1, Place.afterText_cons]

/-! ## The end of a token -/

/-- The kind of the token that a scanner in a mode is in the middle of, when the
token may end in front of any character that does not go on with it. -/
def Mode.pendingKind? : Mode → Option TokenKind
  | slash | quote => some .punctuation
  | identifier => some .identifier
  | number => some .number
  | _ => none

/-- A mode of reading code, words and comments included. -/
def Mode.isCode : Mode → Bool
  | code | slash | comment | quote | identifier | number => true
  | _ => false

/-- A character goes on with what a mode of reading code is in the middle of. -/
def Mode.goesOnWith : Mode → Char → Bool
  | slash, c => c == '/'
  | comment, c => c != '\n'
  | quote, c | identifier, c => isIdentifierChar c
  | number, c => isNumberChar c
  | _, _ => false

/-- The report of the token that ends here, if a scanner is in the middle of one. -/
def Scanner.pending (scanner : Scanner) : List Report :=
  match scanner.mode.pendingKind? with
  | some kind => scanner.tokenReports kind scanner.place.offset
  | none => []

/-- What is reported on a text that ends with a token or behind one. -/
def Scanner.yield (scanner : Scanner) (text : List Char) : List Report :=
  scanner.emits text ++ (scanner.run text).pending

/-- A scanner in front of code, outside literals. -/
def Scanner.fresh (frames : List Frame) (place : Place) : Scanner :=
  ⟨.code, frames, place, place, []⟩

@[simp] theorem Scanner.fresh_mode (frames : List Frame) (place : Place) :
    (fresh frames place).mode = .code := rfl

@[simp] theorem Scanner.fresh_frames (frames : List Frame) (place : Place) :
    (fresh frames place).frames = frames := rfl

@[simp] theorem Scanner.fresh_place (frames : List Frame) (place : Place) :
    (fresh frames place).place = place := rfl

@[simp] theorem Scanner.fresh_start (frames : List Frame) (place : Place) :
    (fresh frames place).start = place := rfl

theorem Scanner.initial_eq_fresh : Scanner.initial = fresh [] origin := rfl

/-- The scanner reads code outside template literals, and what it is in the middle
of ends in front of the text. -/
structure Scanner.StopsBefore (scanner : Scanner) (text : List Char) : Prop where
  isCode : scanner.mode.isCode = true
  outside : inTemplate scanner.frames = false
  ends : ∀ c ∈ text.head?, scanner.mode.goesOnWith c = false

theorem Scanner.fresh_live (frames : List Frame) (place : Place) : (fresh frames place).Live :=
  trivial

/-- Outside template literals the lexeme begins anew at every token. -/
theorem Scanner.opening_eq {scanner : Scanner} (houtside : inTemplate scanner.frames = false)
    (mode : Mode) (c : Char) (lexeme : List Char) :
    scanner.opening mode c lexeme =
      ⟨mode, scanner.frames, scanner.place.after c, scanner.place, lexeme⟩ := by
  simp [opening, houtside]

/-- Outside template literals a step into code depends on the frames and the place
only. -/
theorem Scanner.codeStep_eq_fresh {scanner : Scanner}
    (houtside : inTemplate scanner.frames = false) (c : Char) :
    scanner.codeStep c = (fresh scanner.frames scanner.place).codeStep c := by
  have hfresh : inTemplate (fresh scanner.frames scanner.place).frames = false := houtside
  have hcloser : scanner.closer c = (fresh scanner.frames scanner.place).closer c := by
    unfold closer fresh
    rcases hframes : scanner.frames with _ | ⟨⟨opener, line⟩ | line, outer⟩
    · simp [opening, markReports, hframes]
    · have hinner : inTemplate outer = false := by simpa [hframes] using houtside
      simp [opening, markReports, hinner]
    · simp [hframes] at houtside
  unfold codeStep
  rw [hcloser]
  simp only [opening_eq houtside, opening_eq hfresh]
  rfl

/-- A character that does not go on with the token being read ends it and is read
as code. -/
theorem Scanner.step_of_not_goesOn {scanner : Scanner} (hcode : scanner.mode.isCode = true)
    {c : Char} (hc : scanner.mode.goesOnWith c = false) :
    scanner.step c = ((scanner.codeStep c).1, scanner.pending ++ (scanner.codeStep c).2) := by
  cases hmode : scanner.mode with
  | code => simp [step, hmode, pending, Mode.pendingKind?]
  | slash =>
      have hslash : c ≠ '/' := by simpa [hmode, Mode.goesOnWith] using hc
      simp [step, hmode, hslash, endToken, pending, Mode.pendingKind?]
  | comment =>
      have hfeed : c = '\n' := by simpa [hmode, Mode.goesOnWith] using hc
      simp [step, hmode, hfeed, pending, Mode.pendingKind?]
  | quote | identifier =>
      have hchar : isIdentifierChar c = false := by simpa [hmode, Mode.goesOnWith] using hc
      simp [step, hmode, hchar, endToken, pending, Mode.pendingKind?]
  | number =>
      have hchar : isNumberChar c = false := by simpa [hmode, Mode.goesOnWith] using hc
      simp [step, hmode, hchar, endToken, pending, Mode.pendingKind?]
  | _ => simp [hmode, Mode.isCode] at hcode

/-- Where an outline is closed, the scanner reads code and nothing is open. -/
theorem Scanner.of_isClosed {scanner : Scanner} (hlive : scanner.Live)
    (hclosed : scanner.outline.isClosed = true) :
    scanner.frames = [] ∧ scanner.mode.isCode = true := by
  cases hmode : scanner.mode <;>
    simp_all [outline, Outline.isClosed, Mode.phase, Mode.isCode, enclosures, Live]

theorem Scanner.finish_of_isCode {scanner : Scanner} (hcode : scanner.mode.isCode = true) :
    scanner.finish = scanner.pending ++ openReports scanner.frames := by
  cases hmode : scanner.mode <;>
    simp [finish, pending, Mode.pendingKind?, hmode, Mode.isCode] at hcode ⊢

/-- Where nothing is open at the end of a text, nothing more is reported than on the text. -/
theorem Scanner.reports_eq_yield {scanner : Scanner} {text : List Char}
    (hcode : (scanner.run text).mode.isCode = true) (hframes : (scanner.run text).frames = []) :
    scanner.reports text = scanner.yield text := by
  rw [reports_eq_emits, finish_of_isCode hcode, hframes, yield]
  simp [openReports]

/-- A token that ends in front of a text leaves the text to a fresh scanner. -/
theorem Scanner.StopsBefore.step_eq {scanner : Scanner} {c : Char} {rest : List Char}
    (hstops : scanner.StopsBefore (c :: rest)) :
    scanner.step c =
      (((fresh scanner.frames scanner.place).step c).1,
        scanner.pending ++ ((fresh scanner.frames scanner.place).step c).2) := by
  rw [step_of_not_goesOn hstops.isCode (hstops.ends c rfl), codeStep_eq_fresh hstops.outside]
  rfl

theorem Scanner.StopsBefore.reports_eq {scanner : Scanner} {text : List Char}
    (hstops : scanner.StopsBefore text) :
    scanner.reports text =
      scanner.pending ++ (fresh scanner.frames scanner.place).reports text := by
  cases text with
  | nil => exact finish_of_isCode hstops.isCode
  | cons c rest => simp [reports, hstops.step_eq]

theorem Scanner.StopsBefore.run_eq {scanner : Scanner} {c : Char} {rest : List Char}
    (hstops : scanner.StopsBefore (c :: rest)) :
    scanner.run (c :: rest) = (fresh scanner.frames scanner.place).run (c :: rest) := by
  rw [run_cons, hstops.step_eq, run_cons]

theorem Scanner.StopsBefore.emits_eq {scanner : Scanner} {c : Char} {rest : List Char}
    (hstops : scanner.StopsBefore (c :: rest)) :
    scanner.emits (c :: rest) =
      scanner.pending ++ (fresh scanner.frames scanner.place).emits (c :: rest) := by
  rw [emits_cons, hstops.step_eq, emits_cons, List.append_assoc]

/-- What is reported on a text in two parts with no token across the cut. -/
theorem Scanner.reports_append_of_stopsBefore {scanner : Scanner} {front back : List Char}
    (hstops : (scanner.run front).StopsBefore back) :
    scanner.reports (front ++ back) =
      scanner.yield front ++
        (fresh (scanner.run front).frames (scanner.run front).place).reports back := by
  rw [reports_append, hstops.reports_eq, yield, List.append_assoc]

end PersistLayer.Syntax
