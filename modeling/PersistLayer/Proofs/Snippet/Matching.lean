import Mathlib.Data.List.Forall2
import PersistLayer.Proofs.Scanner.Tokens
import PersistLayer.Proofs.Snippet.Layout

/-!
# A scanner sees through a change of layout

Two scanners match when they are in the middle of the same thing, with the same
things open around it, and have read texts that differ only in their layout.
They stay so while one of them reads a text and the other a text that is relaid
(`Matches.run`), and what they report on the way is alike.
-/

namespace PersistLayer.Syntax

/-! ## Scanners and reports that match -/

/-- A mode without the line on which its string literal was opened. -/
def Mode.bare : Mode → Mode
  | string _ escaped => .string 0 escaped
  | mode => mode

theorem Mode.bare_string (line line' : Nat) (escaped : Bool) :
    (string line escaped).bare = (string line' escaped).bare := rfl

/-- Two modes that are the same but for the line of a string literal. -/
theorem Mode.bare_eq_bare {mode other : Mode} (h : mode.bare = other.bare) :
    other = mode ∨ ∃ line line' escaped,
      mode = .string line escaped ∧ other = .string line' escaped := by
  cases mode <;> cases other <;> simp_all [bare]

/-- What two texts have in common, however far they have been read. -/
structure Likeness where
  holds : List Char → List Char → Prop
  refl : ∀ text, holds text text
  snoc : ∀ {text other} c, holds text other → holds (text ++ [c]) (other ++ [c])

/-- The texts are the same. -/
def Likeness.same : Likeness := ⟨Eq, Eq.refl, fun c h => congrArg (· ++ [c]) h⟩

/-- The texts differ in their layout at most. -/
def Likeness.layout : Likeness := ⟨Reindented, .refl, fun c h => h.append (.refl [c])⟩

/-- One more character at the end of two texts that are kept backwards. -/
theorem Likeness.cons (likeness : Likeness) (c : Char) {text other : List Char}
    (h : likeness.holds text.reverse other.reverse) :
    likeness.holds (c :: text).reverse (c :: other).reverse := by
  rw [List.reverse_cons, List.reverse_cons]
  exact likeness.snoc c h

/-- Two scanners are in the middle of the same thing, `shift` lines apart. -/
structure Matches (likeness : Likeness) (shift : Nat) (scanner other : Scanner) : Prop where
  mode : scanner.mode.bare = other.mode.bare
  frames : scanner.frames.map Frame.enclosure = other.frames.map Frame.enclosure
  line : scanner.place.line = shift + other.place.line
  lexeme : likeness.holds scanner.lexeme.reverse other.lexeme.reverse

/-- The same token but for what its text may differ in. -/
structure Token.Alike (likeness : Likeness) (token other : Token) : Prop where
  kind : token.kind = other.kind
  text : likeness.holds token.text.toList other.text.toList
  depth : token.depth = other.depth

/-- Two reports of the same, `shift` lines apart. -/
inductive Report.Alike (likeness : Likeness) (shift : Nat) : Report → Report → Prop where
  | token {found other : Token} (h : found.Alike likeness other) :
      Alike likeness shift (.token found) (.token other)
  | literalLine (line : Nat) :
      Alike likeness shift (.literalLine (shift + line)) (.literalLine line)

/-- Two lists of reports that are alike one by one. -/
def ReportsAlike (likeness : Likeness) (shift : Nat) : List Report → List Report → Prop :=
  List.Forall₂ (Report.Alike likeness shift)

theorem tokensIn_alike {likeness : Likeness} {shift : Nat} {reports others : List Report}
    (halike : ReportsAlike likeness shift reports others) :
    List.Forall₂ (Token.Alike likeness) (tokensIn reports) (tokensIn others) := by
  induction halike with
  | nil => exact .nil
  | cons hfirst _ ih =>
      cases hfirst with
      | token h => exact .cons h ih
      | literalLine line => exact ih

/-- Two outcomes of a step that match. -/
def MatchesAfter (likeness : Likeness) (shift : Nat) (outcome other : Scanner × List Report) :
    Prop :=
  Matches likeness shift outcome.1 other.1 ∧ ReportsAlike likeness shift outcome.2 other.2

theorem inTemplate_eq_any (frames : List Frame) :
    inTemplate frames = (frames.map Frame.enclosure).contains .interpolation := by
  induction frames with
  | nil => rfl
  | cons frame outer ih => cases frame <;> simp [ih, Frame.enclosure]

theorem Scanner.isLive_iff_of_enclosures (scanner : Scanner) :
    scanner.Live ↔ match scanner.mode with
      | .halted => False
      | .template _ => (scanner.frames.map Frame.enclosure).head? = some .interpolation
      | _ => True := by
  cases hmode : scanner.mode with
  | template dollar =>
      rcases hframes : scanner.frames with _ | ⟨_ | _, outer⟩ <;>
        simp [Live, hmode, hframes, Frame.enclosure]
  | _ => simp [Live, hmode]

section Moves

variable {likeness : Likeness} {shift : Nat} {scanner other : Scanner}
  (hmatch : Matches likeness shift scanner other)

include hmatch

theorem Matches.inTemplate_eq : inTemplate scanner.frames = inTemplate other.frames := by
  rw [inTemplate_eq_any, inTemplate_eq_any, hmatch.frames]

theorem Matches.live (hlive : scanner.Live) : other.Live := by
  rw [Scanner.isLive_iff_of_enclosures] at hlive ⊢
  rw [← hmatch.frames]
  rcases Mode.bare_eq_bare hmatch.mode with hmode | ⟨line, line', escaped, hmode, hother⟩
  · rwa [hmode]
  · simp [hother]

/-- A scanner that matches one in code is in the middle of the very same thing. -/
theorem Matches.mode_eq (hcode : scanner.mode.isCode = true) : other.mode = scanner.mode := by
  rcases Mode.bare_eq_bare hmatch.mode with hsame | ⟨line, line', escaped, hstring, -⟩
  · exact hsame
  · rw [hstring] at hcode
    cases hcode

theorem Matches.frames_eq_nil (hclosed : scanner.frames = []) : other.frames = [] := by
  have hmap := hmatch.frames
  rw [hclosed, List.map_nil, eq_comm, List.map_eq_nil_iff] at hmap
  exact hmap

theorem Matches.line_after (c : Char) :
    (scanner.place.after c).line = shift + (other.place.after c).line := by
  have hline := hmatch.line
  simp only [Place.after]
  split_ifs <;> omega

theorem Matches.take {mode mode' : Mode} (hmode : mode.bare = mode'.bare) (c : Char) :
    Matches likeness shift (scanner.take mode c) (other.take mode' c) :=
  ⟨hmode, hmatch.frames, hmatch.line_after c, likeness.cons c hmatch.lexeme⟩

theorem Matches.pass {mode mode' : Mode} (hmode : mode.bare = mode'.bare) (c : Char) :
    Matches likeness shift (scanner.pass mode c) (other.pass mode' c) := by
  unfold Scanner.pass
  rw [hmatch.inTemplate_eq]
  split_ifs
  · exact hmatch.take hmode c
  · exact ⟨hmode, hmatch.frames, hmatch.line_after c, hmatch.lexeme⟩

theorem Matches.opening {mode mode' : Mode} (hmode : mode.bare = mode'.bare) (c : Char)
    (lexeme : List Char) :
    Matches likeness shift (scanner.opening mode c lexeme) (other.opening mode' c lexeme) := by
  unfold Scanner.opening
  rw [hmatch.inTemplate_eq]
  split_ifs
  · exact hmatch.take hmode c
  · exact ⟨hmode, hmatch.frames, hmatch.line_after c, likeness.refl _⟩

theorem Matches.withFrames {frames frames' : List Frame}
    (hframes : frames.map Frame.enclosure = frames'.map Frame.enclosure) :
    Matches likeness shift { scanner with frames } { other with frames := frames' } :=
  ⟨hmatch.mode, hframes, hmatch.line, hmatch.lexeme⟩

theorem Matches.tokenReports (kind : TokenKind) (stop stop' : Nat) :
    ReportsAlike likeness shift (scanner.tokenReports kind stop)
      (other.tokenReports kind stop') := by
  unfold Scanner.tokenReports
  rw [hmatch.inTemplate_eq]
  split_ifs
  · exact .nil
  · refine .cons (.token ⟨rfl, by simpa using hmatch.lexeme, ?_⟩) .nil
    simpa using congrArg List.length hmatch.frames

theorem Matches.markReports (c : Char) :
    ReportsAlike likeness shift (scanner.markReports c) (other.markReports c) := by
  unfold Scanner.markReports
  rw [hmatch.inTemplate_eq]
  split_ifs
  · exact .nil
  · refine .cons (.token ⟨rfl, likeness.refl _, ?_⟩) .nil
    simpa using congrArg List.length hmatch.frames

end Moves

/-! ## Steps -/

section Steps

variable {likeness : Likeness} {shift : Nat} {scanner other : Scanner}
  (hmatch : Matches likeness shift scanner other) (c : Char)

include hmatch

theorem Matches.closer (hflawless : Flawless (scanner.closer c).2) :
    MatchesAfter likeness shift (scanner.closer c) (other.closer c) := by
  have hframes := hmatch.frames
  unfold Scanner.closer at hflawless ⊢
  -- the innermost frames are of one kind, so three of the nine pairs are left
  rcases hscanner : scanner.frames with _ | ⟨⟨opener, line⟩ | line, outer⟩ <;>
    rcases hother : other.frames with _ | ⟨⟨opener', line'⟩ | line', outer'⟩ <;>
    simp only [hscanner, hother, List.map_nil, List.map_cons, List.cons.injEq, reduceCtorEq,
      Frame.enclosure, Enclosure.bracket.injEq, false_and, true_and] at hframes hflawless ⊢
  · -- nothing is open, which is a fault
    simp [Report.isFlaw] at hflawless
  · -- a bracket is open, and it is closed by its own closer
    obtain ⟨rfl, houter⟩ := hframes
    have hclosed := hmatch.withFrames houter
    split_ifs at hflawless ⊢
    · exact ⟨hclosed.opening rfl c [], hclosed.markReports c⟩
    · simp [Report.isFlaw] at hflawless
  · -- an interpolation is open, and only a brace ends it
    split_ifs at hflawless ⊢
    · exact ⟨hmatch.take rfl c, .nil⟩
    · simp [Report.isFlaw] at hflawless

theorem Matches.codeStep (hflawless : Flawless (scanner.codeStep c).2) :
    MatchesAfter likeness shift (scanner.codeStep c) (other.codeStep c) := by
  unfold Scanner.codeStep at hflawless ⊢
  -- a string is the one thing to begin with a line in its mode, and that line may differ
  split_ifs at hflawless ⊢
  · exact ⟨hmatch.opening rfl c [], .nil⟩
  · exact ⟨hmatch.opening rfl c [c], .nil⟩
  · exact ⟨hmatch.opening (Mode.bare_string _ _ _) c [], .nil⟩
  · refine ⟨(hmatch.opening rfl c []).withFrames ?_, .nil⟩
    simp [Frame.enclosure, hmatch.frames]
  · refine ⟨(hmatch.opening rfl c []).withFrames ?_, hmatch.markReports c⟩
    simp [Frame.enclosure, hmatch.frames]
  · exact hmatch.closer c hflawless
  · exact ⟨hmatch.opening rfl c [c], .nil⟩
  · exact ⟨hmatch.opening rfl c [c], .nil⟩
  · exact ⟨hmatch.opening rfl c [c], .nil⟩
  · exact ⟨hmatch.opening rfl c [], hmatch.markReports c⟩

theorem Matches.endToken (kind : TokenKind) (hflawless : Flawless (scanner.endToken kind c).2) :
    MatchesAfter likeness shift (scanner.endToken kind c) (other.endToken kind c) := by
  obtain ⟨-, hstep⟩ := (flawless_append _ _).mp hflawless
  obtain ⟨hnext, hreports⟩ := hmatch.codeStep c hstep
  exact ⟨hnext, List.rel_append (hmatch.tokenReports kind _ _) hreports⟩

theorem Matches.stringStep {line line' : Nat} {escaped : Bool}
    (hflawless : Flawless (scanner.stringStep line escaped c).2) :
    MatchesAfter likeness shift (scanner.stringStep line escaped c)
      (other.stringStep line' escaped c) := by
  unfold Scanner.stringStep at hflawless ⊢
  split_ifs at hflawless ⊢
  · exact ⟨hmatch.take (Mode.bare_string _ _ _) c, .nil⟩
  · exact ⟨hmatch.pass rfl c, hmatch.tokenReports _ _ _⟩
  · simp [Report.isFlaw] at hflawless
  · exact ⟨hmatch.pass (Mode.bare_string _ _ _) c, .nil⟩
  · exact ⟨hmatch.take (Mode.bare_string _ _ _) c, .nil⟩

theorem Matches.templateStep (dollar : Bool) :
    MatchesAfter likeness shift (scanner.templateStep dollar c) (other.templateStep dollar c) := by
  have htail : scanner.frames.tail.map Frame.enclosure = other.frames.tail.map Frame.enclosure := by
    rw [List.map_tail, List.map_tail, hmatch.frames]
  have hclosed := hmatch.withFrames htail
  unfold Scanner.templateStep
  split_ifs
  · exact ⟨hclosed.pass rfl c, hclosed.tokenReports _ _ _⟩
  · refine ⟨hmatch.take rfl c, .cons ?_ .nil⟩
    rw [hmatch.line, Nat.add_assoc]
    exact .literalLine _
  · exact ⟨hmatch.take rfl c, .nil⟩
  · exact ⟨hmatch.take rfl c, .nil⟩

/-- Scanners that match take a character alike. -/
theorem Matches.step (hlive : scanner.Live) (hflawless : Flawless (scanner.step c).2) :
    MatchesAfter likeness shift (scanner.step c) (other.step c) := by
  -- the modes are the same, or those of strings that began on different lines
  rcases Mode.bare_eq_bare hmatch.mode with hother | ⟨line, line', escaped, hmode, hother⟩
  · unfold Scanner.step at hflawless ⊢
    rw [hother]
    cases hmode : scanner.mode with
    | code =>
        simp only [hmode] at hflawless
        exact hmatch.codeStep c hflawless
    | slash | quote | identifier | number =>
        simp only [hmode] at hflawless ⊢
        split_ifs at hflawless ⊢
        · exact ⟨hmatch.take rfl c, .nil⟩
        · exact hmatch.endToken c _ hflawless
    | comment =>
        simp only [hmode] at hflawless ⊢
        split_ifs at hflawless ⊢
        · exact hmatch.codeStep c hflawless
        · exact ⟨hmatch.take rfl c, .nil⟩
    | string line escaped =>
        simp only [hmode] at hflawless
        exact hmatch.stringStep c hflawless
    | template dollar => exact hmatch.templateStep c dollar
    | halted => simp [Scanner.Live, hmode] at hlive
  · simp only [Scanner.step, hmode, hother] at hflawless ⊢
    exact hmatch.stringStep c hflawless

theorem Matches.pending :
    ReportsAlike likeness shift scanner.pending other.pending := by
  unfold Scanner.pending
  rcases Mode.bare_eq_bare hmatch.mode with hmode | ⟨line, line', escaped, hmode, hother⟩
  · rw [hmode]
    cases scanner.mode.pendingKind? with
    | none => exact .nil
    | some kind => exact hmatch.tokenReports kind _ _
  · rw [hmode, hother]
    exact .nil

end Steps

theorem flawless_of_alike {likeness : Likeness} {shift : Nat} {reports others : List Report}
    (halike : ReportsAlike likeness shift reports others) :
    Flawless reports ∧ Flawless others := by
  induction halike with
  | nil => exact ⟨flawless_nil, flawless_nil⟩
  | cons hfirst _ ih =>
      rw [flawless_cons, flawless_cons]
      cases hfirst <;> exact ⟨⟨rfl, ih.1⟩, ⟨rfl, ih.2⟩⟩

/-- Scanners that match read the same text alike. -/
theorem Matches.run_same {likeness : Likeness} {shift : Nat} {scanner other : Scanner}
    (hmatch : Matches likeness shift scanner other) (hlive : scanner.Live) {text : List Char}
    (hflawless : Flawless (scanner.emits text)) :
    Matches likeness shift (scanner.run text) (other.run text) ∧
      ReportsAlike likeness shift (scanner.emits text) (other.emits text) := by
  induction text generalizing scanner other with
  | nil => exact ⟨hmatch, .nil⟩
  | cons c rest ih =>
      rw [Scanner.emits_cons, flawless_append] at hflawless
      obtain ⟨hnext, hfirst⟩ := hmatch.step c hlive hflawless.1
      obtain ⟨hlast, hrest⟩ := ih hnext (Scanner.live_step hlive hflawless.1) hflawless.2
      exact ⟨hlast, List.rel_append hfirst hrest⟩

/-! ## Line breaks -/

/-- A mode of reading a string literal. -/
def Mode.isString : Mode → Bool
  | string _ _ => true
  | _ => false

/-- The characters that are read next belong to the text of a literal. -/
def Scanner.keeps (scanner : Scanner) : Bool :=
  inTemplate scanner.frames || scanner.mode.isString

/-- Reading some blanks leads to a mode and reports something, with the same things
open as before. -/
structure Scanner.Reaches (scanner : Scanner) (blanks : List Char) (mode : Mode)
    (reports : List Report) : Prop where
  mode : (scanner.run blanks).mode = mode
  frames : (scanner.run blanks).frames = scanner.frames
  emits : scanner.emits blanks = reports
  lexeme : (scanner.run blanks).lexeme =
    if scanner.keeps then blanks.reverse ++ scanner.lexeme else []

section Reaches

variable {scanner : Scanner}

theorem Scanner.Reaches.nil (hkeeps : scanner.keeps = true) :
    scanner.Reaches [] scanner.mode [] :=
  ⟨rfl, rfl, rfl, by simp [hkeeps]⟩

theorem Scanner.Reaches.cons {c : Char} {rest : List Char} {mode : Mode} {reports : List Report}
    (hframes : (scanner.step c).1.frames = scanner.frames)
    (hstring : (scanner.step c).1.mode.isString = scanner.mode.isString)
    (hlexeme : scanner.keeps = true → (scanner.step c).1.lexeme = c :: scanner.lexeme)
    (hrest : (scanner.step c).1.Reaches rest mode reports) :
    scanner.Reaches (c :: rest) mode ((scanner.step c).2 ++ reports) where
  mode := hrest.mode
  frames := hrest.frames.trans hframes
  emits := by rw [emits_cons, hrest.emits]
  lexeme := by
    have hkeeps : (scanner.step c).1.keeps = scanner.keeps := by
      rw [keeps, keeps, hframes, hstring]
    rw [run_cons, hrest.lexeme, hkeeps]
    split_ifs with h
    · rw [hlexeme h, List.reverse_cons, List.append_assoc]
      rfl
    · rfl

theorem Mode.goesOnWith_of_isBlank {mode : Mode} (hcomment : mode ≠ .comment) {c : Char}
    (hc : Text.isBlank c = true) : mode.goesOnWith c = false := by
  have hslash : c ≠ '/' := by
    rintro rfl
    exact absurd hc (by decide)
  have hword : isIdentifierChar c = false := by
    by_contra hchar
    simp [isBlank_eq_false_of_isIdentifierChar (by simpa using hchar)] at hc
  have hnumber : isNumberChar c = false := by
    by_contra hchar
    simp [isBlank_eq_false_of_isNumberChar (by simpa using hchar)] at hc
  cases mode <;> simp_all [goesOnWith]

/-- A blank in code. -/
theorem Scanner.step_blank (hcode : scanner.mode.isCode = true) (hcomment : scanner.mode ≠ .comment)
    {c : Char} (hc : Text.isBlank c = true) :
    scanner.step c = (scanner.opening .code c [], scanner.pending) := by
  rw [step_of_not_goesOn hcode (Mode.goesOnWith_of_isBlank hcomment hc)]
  simp [codeStep, hc]

/-- A margin has no character that means anything in a literal. -/
theorem IsMargin.ne {blanks : List Char} (hmargin : IsMargin blanks) {c : Char} (hc : c ∈ blanks) :
    c ≠ '"' ∧ c ≠ '\\' ∧ c ≠ backtick ∧ c ≠ '{' ∧ c ≠ '$' ∧ c ≠ '\n' := by
  obtain ⟨hblank, hfeed⟩ := hmargin c hc
  refine ⟨?_, ?_, ?_, ?_, ?_, hfeed⟩
  all_goals
    rintro rfl
    exact absurd hblank (by decide)

theorem Scanner.reaches_code {blanks : List Char} (hcode : scanner.mode.isCode = true)
    (hcomment : scanner.mode ≠ .comment) (hblanks : ∀ c ∈ blanks, Text.isBlank c = true)
    (hne : blanks ≠ []) : scanner.Reaches blanks .code scanner.pending := by
  have hstring : scanner.mode.isString = false := by
    cases hmode : scanner.mode <;> simp [hmode, Mode.isCode, Mode.isString] at hcode ⊢
  induction blanks generalizing scanner with
  | nil => exact absurd rfl hne
  | cons c rest ih =>
      have hstep := step_blank hcode hcomment (hblanks c List.mem_cons_self)
      cases rest with
      | nil =>
          -- the first blank ends the token that is pending
          refine ⟨by simp [run_cons, hstep], by simp [run_cons, hstep],
            by simp [emits_cons, hstep], ?_⟩
          simp only [run_cons, hstep, run_nil, keeps, hstring, Bool.or_false]
          unfold opening
          split_ifs <;> rfl
      | cons d tail =>
          -- the others find none
          have hrest := @ih (scanner.step c).1 (by simp [hstep, Mode.isCode])
            (by simp [hstep]) (fun other h => hblanks other (List.mem_cons_of_mem _ h))
            (by simp) (by simp [hstep, Mode.isString])
          have hboth := hrest.cons (by simp [hstep]) (by rw [hstring, hstep, opening_mode]; rfl) (by
            intro hkeeps
            have hinside : inTemplate scanner.frames = true := by
              simpa [keeps, hstring] using hkeeps
            rw [hstep, opening_eq_take hinside, take_lexeme])
          simpa [hstep, pending, Mode.pendingKind?] using hboth

theorem Scanner.reaches_comment {trail lead : List Char} (hmode : scanner.mode = .comment)
    (htrail : IsMargin trail) (hlead : IsMargin lead) :
    scanner.Reaches (trail ++ '\n' :: lead) .code [] := by
  induction trail generalizing scanner with
  | nil =>
      -- the line feed is read as code is
      have hfresh : ({ scanner with mode := .code } : Scanner).Reaches ('\n' :: lead) .code [] := by
        refine reaches_code rfl (by simp) (fun c hc => ?_) (by simp)
        rcases List.mem_cons.mp hc with rfl | hc
        · decide
        · exact (hlead c hc).1
      have hstep : ({ scanner with mode := .code } : Scanner).step '\n' = scanner.step '\n' := by
        simp [step, hmode, codeStep, opening, Text.isBlank]
        rfl
      have hkeeps : ({ scanner with mode := .code } : Scanner).keeps = scanner.keeps := by
        simp [keeps, hmode, Mode.isString]
      refine ⟨?_, ?_, ?_, ?_⟩
      · rw [List.nil_append, run_cons, ← hstep]
        exact hfresh.mode
      · rw [List.nil_append, run_cons, ← hstep]
        exact hfresh.frames
      · rw [List.nil_append, emits_cons, ← hstep]
        exact hfresh.emits
      · rw [List.nil_append, run_cons, ← hstep, ← hkeeps]
        exact hfresh.lexeme
  | cons c rest ih =>
      have hstep : scanner.step c = (scanner.take .comment c, []) := by
        simp [step, hmode, (htrail c List.mem_cons_self).2]
      have hrest := @ih (scanner.step c).1 (by simp [hstep])
        fun other h => htrail other (List.mem_cons_of_mem _ h)
      simpa [hstep] using hrest.cons (by simp [hstep]) (by simp [hstep, hmode])
        (fun _ => by simp [hstep])

/-- In a literal a character that means nothing is taken, and the mode stays. -/
theorem Scanner.reaches_of_steps {mode : Mode} {text : List Char} (hmode : scanner.mode = mode)
    (hkeeps : scanner.keeps = true)
    (hsteps : ∀ c ∈ text, ∀ other : Scanner, other.mode = mode →
      other.step c = (other.take mode c, [])) : scanner.Reaches text mode [] := by
  induction text generalizing scanner with
  | nil =>
      rw [← hmode]
      exact .nil hkeeps
  | cons c rest ih =>
      obtain ⟨hc, hrest⟩ := List.forall_mem_cons.mp hsteps
      have hstep := hc scanner hmode
      have hbehind : (scanner.take mode c).keeps = true := by
        rwa [keeps, take_frames, take_mode, ← hmode]
      have hreaches : (scanner.step c).1.Reaches rest mode [] := by
        rw [hstep]
        exact ih (take_mode scanner mode c) hbehind hrest
      simpa [hstep] using hreaches.cons (by simp [hstep]) (by simp [hstep, hmode])
        (fun _ => by simp [hstep])

theorem Scanner.reaches_string_margin {line : Nat} {lead : List Char}
    (hmode : scanner.mode = .string line false) (hlead : IsMargin lead) :
    scanner.Reaches lead (.string line false) [] := by
  refine reaches_of_steps hmode (by simp [keeps, hmode, Mode.isString]) ?_
  intro c hc other hother
  obtain ⟨hquote, hbackslash, -, -, -, hfeed⟩ := hlead.ne hc
  simp [step, hother, stringStep, hquote, hbackslash, hfeed]

theorem Scanner.reaches_string {line : Nat} {lead : List Char}
    (hmode : scanner.mode = .string line true) (hlead : IsMargin lead) :
    scanner.Reaches ('\n' :: lead) (.string line false) [] := by
  have hstep : scanner.step '\n' = (scanner.take (.string line false) '\n', []) := by
    simp [step, hmode, stringStep]
  have hrest := @reaches_string_margin (scanner.step '\n').1 line lead (by simp [hstep]) hlead
  simpa [hstep] using hrest.cons (by simp [hstep]) (by simp [hstep, hmode, Mode.isString])
    (fun _ => by simp [hstep])

theorem Scanner.reaches_template_margin {lead : List Char}
    (hmode : scanner.mode = .template false) (hinside : inTemplate scanner.frames = true)
    (hlead : IsMargin lead) : scanner.Reaches lead (.template false) [] := by
  refine reaches_of_steps hmode (by simp [keeps, hinside]) ?_
  intro c hc other hother
  obtain ⟨-, -, hbacktick, -, hdollar, hfeed⟩ := hlead.ne hc
  have hnot : (c == '$') = false := by simpa using hdollar
  simp [step, hother, templateStep, hbacktick, hnot, hfeed]

theorem Scanner.reaches_template {dollar : Bool} {trail lead : List Char}
    (hmode : scanner.mode = .template dollar) (hinside : inTemplate scanner.frames = true)
    (htrail : IsMargin trail) (hlead : IsMargin lead) :
    scanner.Reaches (trail ++ '\n' :: lead) (.template false)
      [.literalLine (scanner.place.line + 1)] := by
  induction trail generalizing scanner dollar with
  | nil =>
      -- the line feed is the one character that is reported
      have hstep : scanner.step '\n' = (scanner.take (.template false) '\n',
          [.literalLine (scanner.place.line + 1)]) := by
        simp [step, hmode, templateStep, backtick]
      have hrest := @reaches_template_margin (scanner.step '\n').1 lead
        (by simp [hstep]) (by simpa [hstep]) hlead
      simpa [hstep] using hrest.cons (by simp [hstep]) (by simp [hstep, hmode, Mode.isString])
        (fun _ => by simp [hstep])
  | cons c rest ih =>
      obtain ⟨-, -, hbacktick, hbrace, hdollar, hfeed⟩ := htrail.ne List.mem_cons_self
      have hstep : scanner.step c = (scanner.take (.template false) c, []) := by
        have hnot : (c == '$') = false := by simpa using hdollar
        simp [step, hmode, templateStep, hbacktick, hbrace, hnot, hfeed]
      have hrest := @ih (scanner.step c).1 false (by simp [hstep])
        (by simpa [hstep])
        fun other h => htrail other (List.mem_cons_of_mem _ h)
      have hline : (scanner.step c).1.place.line = scanner.place.line := by
        simp [hstep, Place.after, hfeed]
      rw [hline] at hrest
      simpa [hstep] using hrest.cons (by simp [hstep]) (by simp [hstep, hmode, Mode.isString])
        (fun _ => by simp [hstep])

end Reaches

section LineBreaks

variable {shift : Nat} {scanner other : Scanner} (hmatch : Matches .layout shift scanner other)

include hmatch

/-- Scanners that match and come through blanks to the same mode match behind
them. -/
theorem Matches.reaches (hlive : scanner.Live) {blanks blanks' : List Char} {mode mode' : Mode}
    {reports reports' : List Report} (hreaches : scanner.Reaches blanks mode reports)
    (hreaches' : other.Reaches blanks' mode' reports') (hmode : mode.bare = mode'.bare)
    (halike : ReportsAlike .layout shift reports reports')
    (hblanks : Reindented blanks blanks') (hcount : blanks.count '\n' = blanks'.count '\n') :
    Matches .layout shift (scanner.run blanks) (other.run blanks') ∧
      ReportsAlike .layout shift (scanner.emits blanks) (other.emits blanks') := by
  obtain ⟨hflawless, hflawless'⟩ := flawless_of_alike halike
  have hstring : scanner.mode.isString = other.mode.isString := by
    rcases Mode.bare_eq_bare hmatch.mode with hother | ⟨line, line', escaped, hscanner, hother⟩
    · rw [hother]
    · rw [hscanner, hother]
      rfl
  have hkeeps : scanner.keeps = other.keeps := by
    rw [Scanner.keeps, Scanner.keeps, hmatch.inTemplate_eq, hstring]
  refine ⟨⟨?_, ?_, ?_, ?_⟩, by rwa [hreaches.emits, hreaches'.emits]⟩
  · rw [hreaches.mode, hreaches'.mode, hmode]
  · rw [hreaches.frames, hreaches'.frames, hmatch.frames]
  · calc (scanner.run blanks).place.line
        = scanner.place.line + blanks.count '\n' := by
          rw [Scanner.run_place hlive (by rwa [hreaches.emits]), Place.line_afterText]
      _ = shift + (other.place.line + blanks'.count '\n') := by
          rw [hmatch.line, hcount, Nat.add_assoc]
      _ = shift + (other.run blanks').place.line := by
          rw [Scanner.run_place (hmatch.live hlive) (by rwa [hreaches'.emits]),
            Place.line_afterText]
  · rw [hreaches.lexeme, hreaches'.lexeme, hkeeps]
    split_ifs
    · rw [List.reverse_append, List.reverse_append, List.reverse_reverse, List.reverse_reverse]
      exact hmatch.lexeme.append hblanks
    · exact .nil

end LineBreaks

/-- In a string literal a line break is escaped, so no blanks are in front of it. -/
theorem Scanner.trail_eq_nil {scanner : Scanner} {line : Nat} {escaped : Bool}
    (hmode : scanner.mode = .string line escaped) {trail rest : List Char}
    (htrail : IsMargin trail) (hflawless : Flawless (scanner.emits (trail ++ '\n' :: rest))) :
    trail = [] ∧ escaped = true := by
  have hfault : ∀ stopped : Scanner, stopped.mode = .string line false →
      ¬ Flawless (stopped.emits ('\n' :: rest)) := by
    intro stopped hstopped
    simp [emits_cons, step, hstopped, stringStep, Report.isFlaw]
  cases trail with
  | nil =>
      cases escaped with
      | false => exact absurd hflawless (hfault scanner hmode)
      | true => exact ⟨rfl, rfl⟩
  | cons c blanks =>
      -- whatever is escaped is escaped no more behind the first blank
      obtain ⟨hquote, hbackslash, -, -, -, hfeed⟩ := htrail.ne List.mem_cons_self
      have hstep : (scanner.step c).1.mode = .string line false := by
        cases escaped <;> simp [step, hmode, stringStep, hquote, hbackslash, hfeed]
      have hblanks := reaches_string_margin hstep
        (fun other h => htrail other (List.mem_cons_of_mem _ h) : IsMargin blanks)
      rw [List.cons_append, emits_cons, flawless_append, emits_append, flawless_append] at hflawless
      exact absurd hflawless.2.2 (hfault _ hblanks.mode)

/-- Scanners that match come alike through a line break. -/
theorem Matches.lineBreak {shift : Nat} {scanner other : Scanner}
    (hmatch : Matches .layout shift scanner other) (hlive : scanner.Live)
    {trail lead lead' : List Char} (htrail : IsMargin trail) (hlead : IsMargin lead) (hlead' : IsMargin lead')
    (hkept : ∀ dollar, (scanner.run (trail ++ ['\n'])).mode = .template dollar → lead' = lead)
    (hflawless : Flawless (scanner.emits (trail ++ '\n' :: lead))) :
    Matches .layout shift (scanner.run (trail ++ '\n' :: lead)) (other.run ('\n' :: lead')) ∧
      ReportsAlike .layout shift (scanner.emits (trail ++ '\n' :: lead))
        (other.emits ('\n' :: lead')) := by
  have hblanks : Reindented (trail ++ '\n' :: lead) ('\n' :: lead') := by
    simpa using Reindented.lineBreak htrail isMargin_nil hlead hlead' .nil
  have hcount : (trail ++ '\n' :: lead).count '\n' = ('\n' :: lead').count '\n' := by
    simp [List.count_eq_zero_of_not_mem htrail.not_mem,
      List.count_eq_zero_of_not_mem hlead.not_mem, List.count_eq_zero_of_not_mem hlead'.not_mem]
  have hallBlank : ∀ {trail lead : List Char}, IsMargin trail → IsMargin lead →
      ∀ c ∈ trail ++ '\n' :: lead, Text.isBlank c = true := by
    intro trail lead htrail hlead c hc
    rcases List.mem_append.mp hc with hc | hc
    · exact (htrail c hc).1
    · rcases List.mem_cons.mp hc with rfl | hc
      · decide
      · exact (hlead c hc).1
  rcases Mode.bare_eq_bare hmatch.mode with hother | ⟨line, line', escaped, hmode, hother⟩
  · cases hmode : scanner.mode with
    | code | slash | quote | identifier | number =>
        -- the first blank ends whatever token is being read, in both scanners
        rw [hmode] at hother
        exact hmatch.reaches hlive
          (Scanner.reaches_code (by simp [hmode, Mode.isCode]) (by simp [hmode])
            (hallBlank htrail hlead) (by simp))
          (Scanner.reaches_code (by simp [hother, Mode.isCode]) (by simp [hother])
            (hallBlank isMargin_nil hlead') (by simp))
          rfl hmatch.pending hblanks hcount
    | comment =>
        -- the blanks in front of the line feed belong to the comment
        rw [hmode] at hother
        exact hmatch.reaches hlive (Scanner.reaches_comment hmode htrail hlead)
          (Scanner.reaches_comment hother isMargin_nil hlead') rfl .nil hblanks hcount
    | string line escaped =>
        -- a line feed in a string is escaped, or it is a fault
        rw [hmode] at hother
        obtain ⟨rfl, rfl⟩ := Scanner.trail_eq_nil hmode htrail hflawless
        exact hmatch.reaches hlive (Scanner.reaches_string hmode hlead)
          (Scanner.reaches_string hother hlead') rfl .nil hblanks hcount
    | template dollar =>
        -- here the margin is text, which is why it has to be the same
        rw [hmode] at hother
        have hinside : inTemplate scanner.frames = true := by
          obtain ⟨line, outer, hframes⟩ : ∃ line outer, scanner.frames = .template line :: outer := by
            simpa [Scanner.Live, hmode] using hlive
          simp [hframes]
        obtain rfl := hkept false (Scanner.reaches_template hmode hinside htrail isMargin_nil).mode
        refine hmatch.reaches hlive (Scanner.reaches_template hmode hinside htrail hlead)
          (Scanner.reaches_template hother (by rwa [← hmatch.inTemplate_eq]) isMargin_nil hlead)
          rfl (.cons ?_ .nil) hblanks hcount
        rw [hmatch.line, Nat.add_assoc]
        exact .literalLine _
    | halted => simp [Scanner.Live, hmode] at hlive
  · -- two strings that began on different lines
    obtain ⟨rfl, rfl⟩ := Scanner.trail_eq_nil hmode htrail hflawless
    exact hmatch.reaches hlive (Scanner.reaches_string hmode hlead)
      (Scanner.reaches_string hother hlead') (Mode.bare_string _ _ _) .nil hblanks hcount

/-- **A scanner sees through a change of layout.** -/
theorem Matches.run {shift : Nat} {scanner other : Scanner}
    (hmatch : Matches .layout shift scanner other) (hlive : scanner.Live)
    {text written : List Char} (hrelaid : Relaid scanner text written)
    (hflawless : Flawless (scanner.emits text)) :
    Matches .layout shift (scanner.run text) (other.run written) ∧
      ReportsAlike .layout shift (scanner.emits text) (other.emits written) := by
  induction hrelaid generalizing other with
  | nil scanner => exact ⟨hmatch, .nil⟩
  | cons c _ ih =>
      -- a character that is copied
      rw [Scanner.emits_cons, flawless_append] at hflawless
      obtain ⟨hnext, hfirst⟩ := hmatch.step c hlive hflawless.1
      obtain ⟨hlast, hrest⟩ := ih hnext (Scanner.live_step hlive hflawless.1) hflawless.2
      exact ⟨hlast, List.rel_append hfirst hrest⟩
  | @lineBreak scanner trail lead lead' text written htrail hlead hlead' hkept _ ih =>
      -- a line break whose margins may change
      have htext : trail ++ '\n' :: (lead ++ text) = (trail ++ '\n' :: lead) ++ text := by simp
      have hwritten : '\n' :: (lead' ++ written) = ('\n' :: lead') ++ written := rfl
      rw [htext, Scanner.emits_append, flawless_append] at hflawless
      obtain ⟨hnext, hfirst⟩ := hmatch.lineBreak hlive htrail hlead hlead' hkept hflawless.1
      obtain ⟨hlast, hrest⟩ := ih hnext (Scanner.outline_run hlive hflawless.1).1 hflawless.2
      rw [htext, hwritten, scanner.run_append (trail ++ '\n' :: lead),
        other.run_append ('\n' :: lead'), scanner.emits_append (trail ++ '\n' :: lead),
        other.emits_append ('\n' :: lead')]
      exact ⟨hlast, List.rel_append hfirst hrest⟩

end PersistLayer.Syntax
