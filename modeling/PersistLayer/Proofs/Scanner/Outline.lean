import Mathlib.Data.List.Basic
import PersistLayer.Syntax.Scanner

/-!
# What decides whether a text has a fault

Positions, lexemes and the kinds of tokens have no say in whether a text has a
fault.  What is left of the scanner without them is its outline: whether it
reads code, a comment or a literal, and what is open around it.  An outline has
no next one where the scanner reports a fault, so a text is free of faults
exactly when its outline runs to the end and nothing is left open
(`flawless_reports_iff`, `faults_eq_nil_iff_outline`).

Outlines are put together piece by piece (`Outline.run_append`), and what
happens inside some enclosures happens alike inside more of them
(`Outline.run_enclose`).
-/

namespace PersistLayer.Syntax

/-! ## Outlines -/

/-- An open bracket or an open interpolation, wherever it was opened. -/
inductive Enclosure where
  | bracket (opener : Char)
  | interpolation
  deriving Repr, DecidableEq

/-- What is being read.  Words and numbers are code like any other: none of their
characters opens or closes anything. -/
inductive Phase where
  | code
  | slash
  | comment
  | string (escaped : Bool)
  | template (dollar : Bool)
  deriving Repr, DecidableEq

/-- What is being read and what is open around it, the innermost first.  A literal
that is being read is not among what is open around it. -/
structure Outline where
  phase : Phase
  enclosures : List Enclosure
  deriving Repr, DecidableEq

/-- Nothing has been read. -/
def Outline.initial : Outline := ⟨.code, []⟩

/-- Reads a closing bracket in code. -/
def Outline.close (enclosures : List Enclosure) (c : Char) : Option Outline :=
  match enclosures with
  | .bracket opener :: outer => if closerOf opener = c then some ⟨.code, outer⟩ else none
  | .interpolation :: outer => if c = '}' then some ⟨.template false, outer⟩ else none
  | [] => none

/-- Reads a character of code. -/
def Outline.codeStep (enclosures : List Enclosure) (c : Char) : Option Outline :=
  if c = '/' then some ⟨.slash, enclosures⟩
  else if c = '"' then some ⟨.string false, enclosures⟩
  else if c = backtick then some ⟨.template false, enclosures⟩
  else if isOpener c then some ⟨.code, .bracket c :: enclosures⟩
  else if isCloser c then close enclosures c
  else some ⟨.code, enclosures⟩

/-- Reads a character, unless it is a fault. -/
def Outline.step (outline : Outline) (c : Char) : Option Outline :=
  match outline.phase with
  | .code => codeStep outline.enclosures c
  | .slash =>
    if c = '/' then some { outline with phase := .comment } else codeStep outline.enclosures c
  | .comment => if c = '\n' then some { outline with phase := .code } else some outline
  | .string escaped =>
    if escaped then some { outline with phase := .string false }
    else if c = '"' then some { outline with phase := .code }
    else if c = '\n' then none
    else if c = '\\' then some { outline with phase := .string true }
    else some { outline with phase := .string false }
  | .template dollar =>
    if c = backtick then some { outline with phase := .code }
    else if c = '\n' then some { outline with phase := .template false }
    else if dollar ∧ c = '{' then some ⟨.code, .interpolation :: outline.enclosures⟩
    else some { outline with phase := .template (c == '$') }

/-- Reads a text, unless it has a fault. -/
def Outline.run (outline : Outline) : List Char → Option Outline
  | [] => some outline
  | c :: rest => (outline.step c).bind fun next => next.run rest

/-- Nothing is open, so the text may end. -/
def Outline.isClosed (outline : Outline) : Bool :=
  outline.enclosures.isEmpty &&
    match outline.phase with
    | .code | .slash | .comment => true
    | _ => false

@[simp] theorem Outline.run_nil (outline : Outline) : outline.run [] = some outline := rfl

theorem Outline.run_cons (outline : Outline) (c : Char) (rest : List Char) :
    outline.run (c :: rest) = (outline.step c).bind fun next => next.run rest := rfl

/-- Characters that leave an outline as it is do so one after the other. -/
theorem Outline.run_eq_self {outline : Outline} {text : List Char}
    (hstays : ∀ c ∈ text, outline.step c = some outline) : outline.run text = some outline := by
  induction text with
  | nil => rfl
  | cons c rest ih =>
      obtain ⟨hc, hrest⟩ := List.forall_mem_cons.mp hstays
      rw [run_cons, hc, Option.bind_some]
      exact ih hrest

/-- Up to the end of the line a comment goes on. -/
theorem Outline.run_words {words : List Char} (hwords : '\n' ∉ words)
    (enclosures : List Enclosure) :
    Outline.run ⟨.comment, enclosures⟩ words = some ⟨.comment, enclosures⟩ := by
  refine run_eq_self fun c hc => ?_
  have hfeed : c ≠ '\n' := fun heq => hwords (heq ▸ hc)
  simp [step, hfeed]

theorem Outline.run_append (outline : Outline) (front back : List Char) :
    outline.run (front ++ back) = (outline.run front).bind fun next => next.run back := by
  induction front generalizing outline with
  | nil => rfl
  | cons c rest ih =>
      rw [List.cons_append, run_cons, run_cons, Option.bind_assoc]
      congr 1
      funext next
      exact ih next

/-! ## Inert characters -/

/-- The characters that open or close something. -/
def delimiters : List Char := ['/', '"', backtick, '(', '[', '{', ')', ']', '}']

/-- A character that neither opens nor closes anything in code. -/
def isInert (c : Char) : Bool := !delimiters.contains c

theorem isInert_of_class (charClass : Char → Bool)
    (hclass : delimiters.any charClass = false) {c : Char} (hc : charClass c = true) :
    isInert c = true := by
  by_contra hinert
  have hmem : c ∈ delimiters := by simpa [isInert] using hinert
  exact List.any_eq_false.mp hclass c hmem hc

theorem isInert_of_isBlank {c : Char} (hc : Text.isBlank c = true) : isInert c = true :=
  isInert_of_class Text.isBlank (by decide) hc

theorem isInert_of_isIdentifierChar {c : Char} (hc : isIdentifierChar c = true) :
    isInert c = true :=
  isInert_of_class isIdentifierChar (by decide) hc

theorem isInert_of_isNumberChar {c : Char} (hc : isNumberChar c = true) : isInert c = true :=
  isInert_of_class isNumberChar (by decide) hc

theorem Outline.codeStep_of_isInert {c : Char} (hc : isInert c = true)
    (enclosures : List Enclosure) : codeStep enclosures c = some ⟨.code, enclosures⟩ := by
  simp only [isInert, delimiters, List.contains_cons, List.contains_nil, Bool.or_false,
    Bool.not_eq_true', Bool.or_eq_false_iff, beq_eq_false_iff_ne] at hc
  simp [codeStep, isOpener, isCloser, hc]

/-! ## Further enclosures around a text -/

/-- The outline with more open around it. -/
def Outline.enclose (outline : Outline) (outer : List Enclosure) : Outline :=
  { outline with enclosures := outline.enclosures ++ outer }

theorem Outline.close_enclose {enclosures : List Enclosure} {c : Char} {next : Outline}
    (hclose : close enclosures c = some next) (outer : List Enclosure) :
    close (enclosures ++ outer) c = some (next.enclose outer) := by
  unfold close at hclose ⊢
  rcases enclosures with _ | ⟨opener | _, rest⟩
  · cases hclose
  · simp only [List.cons_append] at hclose ⊢
    split_ifs at hclose ⊢
    cases hclose
    rfl
  · simp only [List.cons_append] at hclose ⊢
    split_ifs at hclose ⊢
    cases hclose
    rfl

theorem Outline.codeStep_enclose {enclosures : List Enclosure} {c : Char} {next : Outline}
    (hstep : codeStep enclosures c = some next) (outer : List Enclosure) :
    codeStep (enclosures ++ outer) c = some (next.enclose outer) := by
  unfold codeStep at hstep ⊢
  split_ifs at hstep ⊢
  iterate 4
    · cases hstep
      rfl
  · exact close_enclose hstep outer
  · cases hstep
    rfl

theorem Outline.step_enclose {outline next : Outline} {c : Char}
    (hstep : outline.step c = some next) (outer : List Enclosure) :
    (outline.enclose outer).step c = some (next.enclose outer) := by
  obtain ⟨phase, enclosures⟩ := outline
  cases phase with
  | code => exact codeStep_enclose hstep outer
  | slash =>
      simp only [step, enclose] at hstep ⊢
      split_ifs at hstep ⊢
      · cases hstep
        rfl
      · exact codeStep_enclose hstep outer
  | comment =>
      simp only [step, enclose] at hstep ⊢
      split_ifs at hstep ⊢ <;> cases hstep <;> rfl
  | string escaped =>
      simp only [step, enclose] at hstep ⊢
      split_ifs at hstep ⊢ <;> cases hstep <;> rfl
  | template dollar =>
      simp only [step, enclose] at hstep ⊢
      split_ifs at hstep ⊢ <;> cases hstep <;> rfl

/-- What happens inside some enclosures happens alike inside more of them. -/
theorem Outline.run_enclose {outline last : Outline} {text : List Char}
    (hrun : outline.run text = some last) (outer : List Enclosure) :
    (outline.enclose outer).run text = some (last.enclose outer) := by
  induction text generalizing outline with
  | nil =>
      cases hrun
      rfl
  | cons c rest ih =>
      rw [run_cons, Option.bind_eq_some_iff] at hrun
      obtain ⟨next, hstep, hrest⟩ := hrun
      rw [run_cons, step_enclose hstep outer, Option.bind_some]
      exact ih hrest

/-! ## The outline of a scanner -/

/-- What a mode reads.  A scanner that has halted has reported a fault, so what it
reads is of no account. -/
def Mode.phase : Mode → Phase
  | code | quote | identifier | number | halted => .code
  | slash => .slash
  | comment => .comment
  | string _ escaped => .string escaped
  | template dollar => .template dollar

/-- A frame without its line.  Around code, a template literal is an open
interpolation. -/
def Frame.enclosure : Frame → Enclosure
  | bracket opener _ => .bracket opener
  | template _ => .interpolation

/-- What is open around what a scanner reads.  The template literal whose text it
reads is not. -/
def Scanner.enclosures (scanner : Scanner) : List Enclosure :=
  match scanner.mode with
  | .template _ => scanner.frames.tail.map Frame.enclosure
  | _ => scanner.frames.map Frame.enclosure

/-- The outline of a scanner. -/
def Scanner.outline (scanner : Scanner) : Outline := ⟨scanner.mode.phase, scanner.enclosures⟩

/-- A scanner that has not halted, and reads the text of a template literal only
when one is open. -/
def Scanner.Live (scanner : Scanner) : Prop :=
  match scanner.mode with
  | .halted => False
  | .template _ => ∃ line outer, scanner.frames = .template line :: outer
  | _ => True

/-- The report of a fault. -/
def Report.isFlaw : Report → Bool
  | fault _ | cutOff _ => true
  | _ => false

/-- None of the reports is a fault. -/
def Flawless (reports : List Report) : Prop := ∀ report ∈ reports, report.isFlaw = false

@[simp] theorem flawless_nil : Flawless [] := by simp [Flawless]

@[simp] theorem flawless_cons (report : Report) (rest : List Report) :
    Flawless (report :: rest) ↔ report.isFlaw = false ∧ Flawless rest := by
  simp [Flawless]

@[simp] theorem flawless_append (front back : List Report) :
    Flawless (front ++ back) ↔ Flawless front ∧ Flawless back := by
  simp [Flawless, or_imp, forall_and]

theorem errorsIn_eq_nil_iff (reports : List Report) :
    errorsIn reports = [] ↔ Flawless reports := by
  have hsplit : errorsIn reports = [] ↔
      reports.filterMap Report.fault? = [] ∧ reports.filterMap Report.cutOff? = [] := by
    unfold errorsIn
    cases reports.filterMap Report.fault? with
    | nil => simp
    | cons error rest => simp
  rw [hsplit]
  simp only [List.filterMap_eq_nil_iff, Flawless, ← forall₂_and]
  refine forall₂_congr fun report _ => ?_
  cases report <;> simp [Report.fault?, Report.cutOff?, Report.isFlaw]

/-! ## Steps of the scanner and of its outline -/

/-- A step of the scanner that goes with a step of its outline: both find a fault, or
neither does. -/
def Tracks (outcome : Scanner × List Report) : Option Outline → Prop
  | some next => Flawless outcome.2 ∧ outcome.1.Live ∧ outcome.1.outline = next
  | none => ¬ Flawless outcome.2

theorem Scanner.flawless_tokenReports (scanner : Scanner) (kind : TokenKind) (stop : Nat) :
    Flawless (scanner.tokenReports kind stop) := by
  unfold tokenReports
  split <;> simp [Report.isFlaw]

theorem Scanner.flawless_markReports (scanner : Scanner) (c : Char) :
    Flawless (scanner.markReports c) := by
  unfold markReports
  split <;> simp [Report.isFlaw]

/-- Reports without a flaw in front of a step change nothing. -/
theorem tracks_append {front : List Report} (hfront : Flawless front) {scanner : Scanner}
    {reports : List Report} {result : Option Outline} (h : Tracks (scanner, reports) result) :
    Tracks (scanner, front ++ reports) result := by
  cases result with
  | none => exact fun hall => h (flawless_append _ _ |>.mp hall).2
  | some next => exact ⟨(flawless_append _ _).mpr ⟨hfront, h.1⟩, h.2⟩

theorem Scanner.tracks_closer (scanner : Scanner) (c : Char) :
    Tracks (scanner.closer c) (Outline.close (scanner.frames.map Frame.enclosure) c) := by
  unfold closer
  rcases hframes : scanner.frames with _ | ⟨⟨opener, line⟩ | line, outer⟩
  · simp [Outline.close, Tracks, Report.isFlaw]
  · simp only [List.map_cons, Frame.enclosure, Outline.close]
    split_ifs with hmatch
    · have hmarks := flawless_markReports { scanner with frames := outer } c
      exact ⟨by simpa using hmarks, by simp [Live], by simp [outline, enclosures, Mode.phase]⟩
    · simp [Tracks, Report.isFlaw]
  · simp only [List.map_cons, Frame.enclosure, Outline.close]
    split_ifs with hbrace
    · exact ⟨flawless_nil, ⟨line, outer, hframes⟩,
        by simp [outline, enclosures, hframes, Mode.phase]⟩
    · simp [Tracks, Report.isFlaw]

theorem Scanner.tracks_codeStep (scanner : Scanner) (c : Char) :
    Tracks (scanner.codeStep c)
      (Outline.codeStep (scanner.frames.map Frame.enclosure) c) := by
  have hmarks := scanner.flawless_markReports c
  by_cases hblank : Text.isBlank c = true
  · rw [Outline.codeStep_of_isInert (isInert_of_isBlank hblank), codeStep, if_pos hblank]
    exact ⟨flawless_nil, by simp [Live], by simp [outline, enclosures, Mode.phase]⟩
  · unfold codeStep Outline.codeStep
    rw [if_neg hblank]
    split_ifs
    · exact ⟨flawless_nil, by simp [Live], by simp [outline, enclosures, Mode.phase]⟩
    · exact ⟨flawless_nil, by simp [Live], by simp [outline, enclosures, Mode.phase]⟩
    · exact ⟨flawless_nil, by simp [Live], by simp [outline, enclosures, Mode.phase]⟩
    · exact ⟨hmarks, by simp [Live], by simp [outline, enclosures, Mode.phase, Frame.enclosure]⟩
    · exact scanner.tracks_closer c
    · exact ⟨flawless_nil, by simp [Live], by simp [outline, enclosures, Mode.phase]⟩
    · exact ⟨flawless_nil, by simp [Live], by simp [outline, enclosures, Mode.phase]⟩
    · exact ⟨flawless_nil, by simp [Live], by simp [outline, enclosures, Mode.phase]⟩
    · exact ⟨hmarks, by simp [Live], by simp [outline, enclosures, Mode.phase]⟩

/-- A token that ends leaves the character behind it to be read as code. -/
theorem Scanner.tracks_endToken (scanner : Scanner) (kind : TokenKind) (c : Char) :
    Tracks (scanner.endToken kind c)
      (Outline.codeStep (scanner.frames.map Frame.enclosure) c) :=
  tracks_append (scanner.flawless_tokenReports kind _) (scanner.tracks_codeStep c)

theorem Scanner.tracks_stringStep (scanner : Scanner) (line : Nat) (escaped : Bool) (c : Char)
    (hmode : scanner.mode = .string line escaped) :
    Tracks (scanner.stringStep line escaped c) (scanner.outline.step c) := by
  have htoken := scanner.flawless_tokenReports .string (scanner.place.offset + c.utf8Size)
  unfold stringStep Outline.step
  simp only [outline, enclosures, hmode, Mode.phase]
  split_ifs
  · exact ⟨flawless_nil, by simp [Live], by simp [outline, enclosures, Mode.phase]⟩
  · exact ⟨htoken, by simp [Live], by simp [outline, enclosures, Mode.phase]⟩
  · simp [Tracks, Report.isFlaw]
  · exact ⟨flawless_nil, by simp [Live], by simp [outline, enclosures, Mode.phase]⟩
  · exact ⟨flawless_nil, by simp [Live], by simp [outline, enclosures, Mode.phase]⟩

theorem Scanner.tracks_templateStep (scanner : Scanner) (dollar : Bool) (c : Char)
    (hmode : scanner.mode = .template dollar) (hlive : scanner.Live) :
    Tracks (scanner.templateStep dollar c) (scanner.outline.step c) := by
  obtain ⟨line, outer, hframes⟩ : ∃ line outer, scanner.frames = .template line :: outer := by
    simpa [Live, hmode] using hlive
  unfold templateStep Outline.step
  simp only [outline, enclosures, hmode, Mode.phase, hframes, List.tail_cons]
  split_ifs
  · exact ⟨flawless_tokenReports _ _ _, by simp [Live], by simp [outline, enclosures, Mode.phase]⟩
  · exact ⟨by simp [Report.isFlaw], by simp [Live, hframes],
      by simp [outline, enclosures, Mode.phase, hframes]⟩
  · exact ⟨flawless_nil, by simp [Live],
      by simp [outline, enclosures, Mode.phase, hframes, Frame.enclosure]⟩
  · exact ⟨flawless_nil, by simp [Live, hframes],
      by simp [outline, enclosures, Mode.phase, hframes]⟩

/-- A character that goes on a word or a number is inert, so the outline stays. -/
theorem Scanner.tracks_take_word (scanner : Scanner) {mode : Mode} {c : Char}
    (hphase : mode = .identifier ∨ mode = .number) (hc : isInert c = true) :
    Tracks (scanner.take mode c, [])
      (Outline.codeStep (scanner.frames.map Frame.enclosure) c) := by
  rw [Outline.codeStep_of_isInert hc]
  rcases hphase with rfl | rfl
  · exact ⟨flawless_nil, by simp [Live], by simp [outline, enclosures, Mode.phase]⟩
  · exact ⟨flawless_nil, by simp [Live], by simp [outline, enclosures, Mode.phase]⟩

/-- The scanner and its outline take a character alike. -/
theorem Scanner.tracks_step {scanner : Scanner} (hlive : scanner.Live) (c : Char) :
    Tracks (scanner.step c) (scanner.outline.step c) := by
  cases hmode : scanner.mode with
  | code =>
      simp only [step, hmode, Outline.step, outline, enclosures, Mode.phase]
      exact scanner.tracks_codeStep c
  | slash =>
      simp only [step, hmode, Outline.step, outline, enclosures, Mode.phase]
      split_ifs
      · exact ⟨flawless_nil, by simp [Live], by simp [outline, enclosures, Mode.phase]⟩
      · exact scanner.tracks_endToken _ c
  | comment =>
      simp only [step, hmode, Outline.step, outline, enclosures, Mode.phase]
      split_ifs with hfeed
      · -- the line feed is read as code, and the outline only leaves the comment
        subst hfeed
        rw [← Outline.codeStep_of_isInert (c := '\n') (by decide)]
        exact scanner.tracks_codeStep '\n'
      · exact ⟨flawless_nil, by simp [Live], by simp [outline, enclosures, Mode.phase]⟩
  | quote =>
      simp only [step, hmode, Outline.step, outline, enclosures, Mode.phase]
      split_ifs with hchar
      · exact scanner.tracks_take_word (.inl rfl) (isInert_of_isIdentifierChar hchar)
      · exact scanner.tracks_endToken _ c
  | identifier =>
      simp only [step, hmode, Outline.step, outline, enclosures, Mode.phase]
      split_ifs with hchar
      · exact scanner.tracks_take_word (.inl rfl) (isInert_of_isIdentifierChar hchar)
      · exact scanner.tracks_endToken _ c
  | number =>
      simp only [step, hmode, Outline.step, outline, enclosures, Mode.phase]
      split_ifs with hchar
      · exact scanner.tracks_take_word (.inr rfl) (isInert_of_isNumberChar hchar)
      · exact scanner.tracks_endToken _ c
  | string line escaped =>
      simpa only [step, hmode] using scanner.tracks_stringStep line escaped c hmode
  | template dollar =>
      simpa only [step, hmode] using scanner.tracks_templateStep dollar c hmode hlive
  | halted => simp [Live, hmode] at hlive

/-! ## Whole texts -/

theorem flawless_openReports_iff (frames : List Frame) :
    Flawless (openReports frames) ↔ frames = [] := by
  constructor
  · intro hflawless
    unfold openReports at hflawless
    split at hflawless
    · simp [Report.isFlaw] at hflawless
    · -- no template literal is open, so every frame is a bracket and reported
      rename_i hbrackets
      by_contra hne
      obtain ⟨frame, hframe⟩ := List.exists_mem_of_ne_nil _ hne
      cases frame with
      | template line =>
          simpa [Frame.templateLine?] using List.findSome?_eq_none_iff.mp hbrackets _ hframe
      | bracket opener line =>
          have hreport : Report.fault (.unclosed opener line) ∈
              frames.reverse.filterMap fun frame =>
                match frame with
                | .bracket opener line => some (.fault (.unclosed opener line))
                | .template _ => none :=
            List.mem_filterMap.mpr ⟨_, List.mem_reverse.mpr hframe, rfl⟩
          simpa [Report.isFlaw] using hflawless _ hreport
  · rintro rfl
    exact flawless_nil

/-- The text may end exactly where the outline is closed. -/
theorem Scanner.flawless_finish_iff {scanner : Scanner} (hlive : scanner.Live) :
    Flawless scanner.finish ↔ scanner.outline.isClosed = true := by
  have htoken := fun kind => scanner.flawless_tokenReports kind scanner.place.offset
  cases hmode : scanner.mode with
  | string line escaped =>
      simp [finish, hmode, outline, Outline.isClosed, Mode.phase, Report.isFlaw]
  | template dollar =>
      obtain ⟨line, outer, hframes⟩ : ∃ line outer, scanner.frames = .template line :: outer := by
        simpa [Live, hmode] using hlive
      have hline : scanner.frames.findSome? Frame.templateLine? = some line := by
        rw [hframes]
        rfl
      simp [finish, hmode, hline, outline, Outline.isClosed, Mode.phase, Report.isFlaw]
  | halted => simp [Live, hmode] at hlive
  | _ =>
      simp [finish, hmode, outline, enclosures, Outline.isClosed, Mode.phase, htoken,
        flawless_openReports_iff]

/-- A text is read without a fault exactly when its outline runs to the end and
nothing is left open. -/
theorem Scanner.flawless_reports_iff {scanner : Scanner} (hlive : scanner.Live)
    (text : List Char) :
    Flawless (scanner.reports text) ↔
      ∃ last, scanner.outline.run text = some last ∧ last.isClosed = true := by
  induction text generalizing scanner with
  | nil => simp [reports, flawless_finish_iff hlive]
  | cons c rest ih =>
      have htracks := scanner.tracks_step hlive c
      rw [reports, flawless_append, Outline.run_cons]
      cases hstep : scanner.outline.step c with
      | none =>
          rw [hstep] at htracks
          simpa using fun hflawless => absurd hflawless htracks
      | some next =>
          rw [hstep] at htracks
          obtain ⟨hflawless, hnext, houtline⟩ := htracks
          simp [hflawless, ih hnext, houtline]

theorem faults_eq_nil_iff_outline (text : String) :
    faults text = [] ↔
      ∃ last, Outline.initial.run text.toList = some last ∧ last.isClosed = true := by
  rw [faults, errorsIn_eq_nil_iff, scan_eq_reports]
  exact Scanner.flawless_reports_iff (by simp [Scanner.Live, Scanner.initial]) _

/-- The tokens among reports, in order. -/
def tokensIn (reports : List Report) : List Token := reports.filterMap Report.token?

/-- The lines that begin in the text of a template literal, among reports. -/
def literalLinesIn (reports : List Report) : List Nat := reports.filterMap Report.literalLine?

@[simp] theorem tokensIn_nil : tokensIn [] = [] := rfl

@[simp] theorem tokensIn_append (front back : List Report) :
    tokensIn (front ++ back) = tokensIn front ++ tokensIn back :=
  List.filterMap_append

@[simp] theorem literalLinesIn_append (front back : List Report) :
    literalLinesIn (front ++ back) = literalLinesIn front ++ literalLinesIn back :=
  List.filterMap_append

/-- A text gives tokens when none of the reports on it is a fault. -/
theorem tokenize_eq_ok_iff {text : String} {scanned : Scanned} :
    tokenize text = .ok scanned ↔
      Flawless (scan text.toList) ∧
        scanned = ⟨tokensIn (scan text.toList), literalLinesIn (scan text.toList)⟩ := by
  rw [← errorsIn_eq_nil_iff]
  unfold tokenize
  cases herrors : errorsIn (scan text.toList) with
  | nil => simp [herrors, tokensIn, literalLinesIn, eq_comm]
  | cons error rest => simp [herrors]

end PersistLayer.Syntax
