import PersistLayer.Fragment
import PersistLayer.Proofs.Render.File
import PersistLayer.Proofs.Snippet.Statements
import PersistLayer.Syntax.Name

/-!
# The words of a text as it is put together

A generated text is fixed text with names between, and its words can be read off the
pieces.  A scanner that comes to a piece outside template literals reads the same words
whatever is open around it and wherever it stands; it matters only whether it is in the
middle of a word (`Scanner.Agrees`).  So a piece is known by the edge that it may stand
behind, the edge that it leaves, and its words (`Wording`), and two pieces with one edge
between them make one (`Wording.append`).

When a text is read and written again the words stay the same, as long as none of them
goes over a line break (`words_of_statementsIn`).
-/

namespace PersistLayer.Syntax

/-- A token without its place. -/
abbrev Word := TokenKind × String

/-- The words among reports. -/
def wordsIn (reports : List Report) : List Word := (tokensIn reports).map Token.word

@[simp] theorem wordsIn_nil : wordsIn [] = [] := rfl

@[simp] theorem wordsIn_append (reports more : List Report) :
    wordsIn (reports ++ more) = wordsIn reports ++ wordsIn more := by
  simp [wordsIn, tokensIn_append]

/-- A mark. -/
def mark (text : String) : Word := (.punctuation, text)

/-! ## Scanners that read the same words -/

/-- Two scanners outside template literals that are in the middle of the same. -/
structure Scanner.Agrees (scanner other : Scanner) : Prop where
  mode : scanner.mode.bare = other.mode.bare
  lexeme : scanner.lexeme = other.lexeme
  outside : inTemplate scanner.frames = false
  otherOutside : inTemplate other.frames = false
  noTemplate : ∀ dollar, scanner.mode ≠ .template dollar

/-- Both scanners read the same words and agree behind them. -/
def AgreesAfter (outcome other : Scanner × List Report) : Prop :=
  outcome.1.Agrees other.1 ∧ wordsIn outcome.2 = wordsIn other.2

section Steps

variable {scanner other : Scanner} (houtside : inTemplate scanner.frames = false)
  (hother : inTemplate other.frames = false)

include houtside hother

theorem agrees_opening {mode : Mode} (hmode : ∀ dollar, mode ≠ .template dollar) (c : Char)
    (lexeme : List Char) :
    (scanner.opening mode c lexeme).Agrees (other.opening mode c lexeme) := by
  rw [Scanner.opening_eq houtside, Scanner.opening_eq hother]
  exact ⟨rfl, rfl, houtside, hother, hmode⟩

theorem wordsIn_markReports (c : Char) :
    wordsIn (scanner.markReports c) = wordsIn (other.markReports c) := by
  simp [Scanner.markReports, houtside, hother, wordsIn, tokensIn, Report.token?, Token.word]

end Steps

/-- A closing bracket is a mark, whatever it closes. -/
theorem Scanner.closer_outside {scanner : Scanner} (houtside : inTemplate scanner.frames = false)
    (c : Char) :
    (scanner.closer c).1.mode = .code ∧ (scanner.closer c).1.lexeme = [] ∧
      inTemplate (scanner.closer c).1.frames = false ∧
      wordsIn (scanner.closer c).2 = [mark c.toString] := by
  have hwords : ∀ other : Scanner, inTemplate other.frames = false →
      wordsIn (other.markReports c) = [mark c.toString] := by
    intro other hother
    simp [markReports, hother, wordsIn, tokensIn, Report.token?, Token.word, mark]
  unfold closer
  rcases hframes : scanner.frames with _ | ⟨⟨opener, line⟩ | line, outer⟩
  · refine ⟨by simp, by rw [opening_eq houtside], by simp [hframes], ?_⟩
    exact hwords scanner houtside
  · have houter : inTemplate outer = false := by simpa [hframes] using houtside
    have hclosed : inTemplate { scanner with frames := outer }.frames = false := houter
    refine ⟨by simp, by simp [opening_eq hclosed], by simpa using houter, ?_⟩
    rw [wordsIn_append, hwords _ hclosed]
    split_ifs <;> rfl
  · simp [hframes] at houtside

section Reading

variable {scanner other : Scanner} {c : Char} (hc : c ≠ backtick)

include hc

/-- In code, two scanners read a character alike unless it begins a template literal. -/
theorem agreesAfter_codeStep (houtside : inTemplate scanner.frames = false)
    (hother : inTemplate other.frames = false) :
    AgreesAfter (scanner.codeStep c) (other.codeStep c) := by
  have hopening : ∀ mode lexeme, (∀ dollar, mode ≠ .template dollar) →
      (scanner.opening mode c lexeme).Agrees (other.opening mode c lexeme) :=
    fun mode lexeme hmode => agrees_opening houtside hother hmode c lexeme
  have hmarks := wordsIn_markReports houtside hother c
  unfold Scanner.codeStep
  split_ifs
  · exact ⟨hopening _ _ nofun, rfl⟩
  · exact ⟨hopening _ _ nofun, rfl⟩
  · rw [Scanner.opening_eq houtside, Scanner.opening_eq hother]
    exact ⟨⟨rfl, rfl, houtside, hother, nofun⟩, rfl⟩
  · -- an opening bracket is one more frame for both
    rw [Scanner.opening_eq houtside, Scanner.opening_eq hother]
    exact ⟨⟨rfl, rfl, by simpa using houtside, by simpa using hother, nofun⟩, hmarks⟩
  · -- a closing bracket is a word for both, whether it closes something or is a fault
    obtain ⟨hmode, hlexeme, hframes, hwords⟩ := Scanner.closer_outside houtside c
    obtain ⟨hmode', hlexeme', hframes', hwords'⟩ := Scanner.closer_outside hother c
    exact ⟨⟨by rw [hmode, hmode'], by rw [hlexeme, hlexeme'], hframes, hframes',
      by simp [hmode]⟩, by rw [hwords, hwords']⟩
  · exact ⟨hopening _ _ nofun, rfl⟩
  · exact ⟨hopening _ _ nofun, rfl⟩
  · exact ⟨hopening _ _ nofun, rfl⟩
  · exact ⟨hopening _ _ nofun, hmarks⟩

end Reading

section Agrees

variable {scanner other : Scanner} (hagrees : scanner.Agrees other)

include hagrees

theorem Scanner.Agrees.take {mode mode' : Mode} (hmode : mode.bare = mode'.bare)
    (hcode : ∀ dollar, mode ≠ .template dollar) (c : Char) :
    AgreesAfter (scanner.take mode c, []) (other.take mode' c, []) :=
  ⟨⟨hmode, congrArg (c :: ·) hagrees.lexeme, hagrees.outside, hagrees.otherOutside, hcode⟩, rfl⟩

theorem Scanner.Agrees.pass {mode mode' : Mode} (hmode : mode.bare = mode'.bare)
    (hcode : ∀ dollar, mode ≠ .template dollar) (c : Char) :
    (scanner.pass mode c).Agrees (other.pass mode' c) := by
  simp only [Scanner.pass, hagrees.outside, hagrees.otherOutside]
  exact ⟨hmode, hagrees.lexeme, hagrees.outside, hagrees.otherOutside, hcode⟩

theorem Scanner.Agrees.tokenReports (kind : TokenKind) (stop stop' : Nat) :
    wordsIn (scanner.tokenReports kind stop) = wordsIn (other.tokenReports kind stop') := by
  simp [Scanner.tokenReports, hagrees.outside, hagrees.otherOutside, hagrees.lexeme, wordsIn,
    tokensIn, Report.token?, Token.word]

theorem Scanner.Agrees.pending : wordsIn scanner.pending = wordsIn other.pending := by
  unfold Scanner.pending
  rcases Mode.bare_eq_bare hagrees.mode with hmode | ⟨line, line', escaped, hmode, hother⟩
  · rw [hmode]
    cases scanner.mode.pendingKind? with
    | none => rfl
    | some kind => exact hagrees.tokenReports kind _ _
  · rw [hmode, hother]
    rfl

variable {c : Char} (hc : c ≠ backtick)

include hc

theorem Scanner.Agrees.endToken (kind : TokenKind) :
    AgreesAfter (scanner.endToken kind c) (other.endToken kind c) := by
  obtain ⟨hnext, hwords⟩ := agreesAfter_codeStep hc hagrees.outside hagrees.otherOutside
  refine ⟨hnext, ?_⟩
  simp only [Scanner.endToken, wordsIn_append, hwords]
  rw [hagrees.tokenReports]

omit hc in
theorem Scanner.Agrees.stringStep (line line' : Nat) (escaped : Bool) :
    AgreesAfter (scanner.stringStep line escaped c) (other.stringStep line' escaped c) := by
  unfold Scanner.stringStep
  split_ifs
  · exact hagrees.take (Mode.bare_string _ _ _) (by simp) c
  · exact ⟨hagrees.pass rfl (by simp) c, hagrees.tokenReports _ _ _⟩
  · exact ⟨⟨rfl, hagrees.lexeme, hagrees.outside, hagrees.otherOutside, nofun⟩, rfl⟩
  · exact ⟨hagrees.pass (Mode.bare_string _ _ _) (by simp) c, rfl⟩
  · exact hagrees.take (Mode.bare_string _ _ _) (by simp) c

theorem Scanner.Agrees.step : AgreesAfter (scanner.step c) (other.step c) := by
  have hcode := agreesAfter_codeStep hc hagrees.outside hagrees.otherOutside
  rcases Mode.bare_eq_bare hagrees.mode with hmode | ⟨line, line', escaped, hmode, hother⟩
  · unfold Scanner.step
    rw [hmode]
    cases hmode : scanner.mode with
    | code => exact hcode
    | slash | quote | identifier | number =>
        simp only
        split_ifs
        · exact hagrees.take rfl (by simp) c
        · exact hagrees.endToken hc _
    | comment =>
        simp only
        split_ifs
        · exact hcode
        · exact hagrees.take rfl (by simp) c
    | string line escaped => exact hagrees.stringStep line line escaped
    | template dollar => exact absurd hmode (hagrees.noTemplate dollar)
    | halted => exact ⟨hagrees, rfl⟩
  · -- string literals that began on different lines
    simp only [Scanner.step, hmode, hother]
    exact hagrees.stringStep line line' escaped

end Agrees

/-- Scanners that agree read the same words in a text without template literals. -/
theorem Scanner.Agrees.run {scanner other : Scanner} (hagrees : scanner.Agrees other)
    {text : List Char} (htext : backtick ∉ text) :
    (scanner.run text).Agrees (other.run text) ∧
      wordsIn (scanner.emits text) = wordsIn (other.emits text) := by
  induction text generalizing scanner other with
  | nil => exact ⟨hagrees, rfl⟩
  | cons c rest ih =>
      simp only [List.mem_cons, not_or] at htext
      obtain ⟨hnext, hwords⟩ := hagrees.step (Ne.symm htext.1)
      obtain ⟨hlast, hrest⟩ := ih hnext htext.2
      refine ⟨hlast, ?_⟩
      rw [emits_cons, emits_cons, wordsIn_append, wordsIn_append, hwords, hrest]

/-! ## Pieces of text -/

/-- What a scanner may be in the middle of between two pieces of a text: nothing, a word, or
a slash. -/
inductive Edge where
  | clean
  | word
  | slash
  deriving DecidableEq

/-- The modes that a scanner may have at an edge. -/
def Edge.modes : Edge → List Mode
  | clean => [.code]
  | word => [.code, .quote, .identifier, .number]
  | slash => [.code, .slash]

/-- No token goes on from the edge into the text. -/
def Edge.endsBefore (edge : Edge) (text : List Char) : Bool :=
  text.head?.all fun c => edge.modes.all fun mode => !mode.goesOnWith c

theorem Edge.mem_modes_of_bare {edge : Edge} {mode other : Mode} (hmode : mode ∈ edge.modes)
    (hbare : other.bare = mode.bare) : other ∈ edge.modes := by
  rcases Mode.bare_eq_bare hbare with rfl | ⟨line, line', escaped, -, rfl⟩
  · exact hmode
  · cases edge <;> simp [modes] at hmode

/-- The scanner stands at an edge, outside template literals. -/
structure Scanner.At (scanner : Scanner) (edge : Edge) : Prop where
  outside : inTemplate scanner.frames = false
  mode : scanner.mode ∈ edge.modes

/-- A piece of text that may stand behind an edge, the edge behind it, and its words.  A
word that goes on at the edge in front ends there, and one that goes on behind the piece is
among its words.  No word goes over a line break. -/
structure Wording (before after : Edge) (text : String) (words : List Word) : Prop where
  words_eq : ∀ scanner : Scanner, scanner.At before →
    wordsIn (scanner.yield text.toList) = wordsIn scanner.pending ++ words
  behind : ∀ scanner : Scanner, scanner.At before → (scanner.run text.toList).At after
  onOneLine : ∀ word ∈ words, '\n' ∉ word.2.toList

theorem Scanner.initial_at (edge : Edge) : Scanner.initial.At edge :=
  ⟨rfl, by cases edge <;> decide⟩

/-- Behind code, the end of the text adds no word. -/
theorem wordsOf_eq_yield {text : String}
    (hcode : (Scanner.initial.run text.toList).mode.isCode = true) :
    wordsOf text = wordsIn (Scanner.initial.yield text.toList) := by
  have htokens : tokensIn (scan text.toList) = tokensIn (Scanner.initial.yield text.toList) :=
    calc tokensIn (scan text.toList)
        = tokensIn (Scanner.initial.yield text.toList ++
            openReports (Scanner.initial.run text.toList).frames) := by
          rw [scan_eq_reports, Scanner.reports_eq_emits, Scanner.finish_of_isCode hcode,
            ← List.append_assoc]
          rfl
      _ = tokensIn (Scanner.initial.yield text.toList) := by
          rw [tokensIn_append, tokensIn_openReports, List.append_nil]
  rw [wordsOf, htokens]
  rfl

/-- At an edge a scanner reads code. -/
theorem Scanner.At.isCode {scanner : Scanner} {edge : Edge} (hscanner : scanner.At edge) :
    scanner.mode.isCode = true := by
  have hall : ∀ mode ∈ edge.modes, mode.isCode = true := by cases edge <;> decide
  exact hall _ hscanner.mode

/-- The words of the whole text, if there is nothing else. -/
theorem Wording.wordsOf_eq {before after : Edge} {text : String} {words : List Word}
    (htext : Wording before after text words) : wordsOf text = words := by
  have hbehind := htext.behind .initial (Scanner.initial_at before)
  rw [wordsOf_eq_yield hbehind.isCode]
  exact htext.words_eq .initial (Scanner.initial_at before)

section Pieces

variable {before middle after : Edge} {front back text : String} {words more : List Word}

theorem Wording.append (hfront : Wording before middle front words)
    (hback : Wording middle after back more) :
    Wording before after (front ++ back) (words ++ more) where
  words_eq := by
    intro scanner hscanner
    have hmore := hback.words_eq _ (hfront.behind scanner hscanner)
    have hwords := hfront.words_eq scanner hscanner
    rw [Scanner.yield, wordsIn_append] at hwords
    calc wordsIn (scanner.yield (front ++ back).toList)
        = wordsIn (scanner.emits front.toList) ++
            wordsIn ((scanner.run front.toList).yield back.toList) := by
          rw [Scanner.yield, String.toList_append, Scanner.emits_append, Scanner.run_append,
            List.append_assoc, wordsIn_append]
          rfl
      _ = (wordsIn (scanner.emits front.toList) ++
            wordsIn (scanner.run front.toList).pending) ++ more := by
          rw [hmore, List.append_assoc]
      _ = wordsIn scanner.pending ++ (words ++ more) := by rw [hwords, List.append_assoc]
  behind := by
    intro scanner hscanner
    rw [String.toList_append, Scanner.run_append]
    exact hback.behind _ (hfront.behind scanner hscanner)
  onOneLine := List.forall_mem_append.mpr ⟨hfront.onOneLine, hback.onOneLine⟩

/-- What a fixed text is between two edges can be seen by reading it. -/
def wordingFixed (before after : Edge) (text : String) (words : List Word) : Bool :=
  !text.toList.isEmpty && !text.toList.contains backtick && before.endsBefore text.toList &&
    wordsIn (Scanner.initial.yield text.toList) == words &&
    after.modes.contains (Scanner.initial.run text.toList).mode &&
    words.all fun word => !word.2.toList.contains '\n'

theorem Scanner.At.stopsBefore {scanner : Scanner} (hscanner : scanner.At before)
    {text : List Char} (htext : before.endsBefore text = true) : scanner.StopsBefore text where
  isCode := hscanner.isCode
  outside := hscanner.outside
  ends := by
    intro c hc
    rw [Edge.endsBefore, Option.mem_def.mp hc] at htext
    simpa using List.all_eq_true.mp htext _ hscanner.mode

/-- A text that no token goes on with is read as by a scanner that has read nothing. -/
theorem Scanner.StopsBefore.yield_words {scanner : Scanner} {text : List Char}
    (hstops : scanner.StopsBefore text) (hne : text ≠ []) (htext : backtick ∉ text) :
    wordsIn (scanner.yield text) = wordsIn scanner.pending ++ wordsIn (initial.yield text) ∧
      (scanner.run text).mode.bare = (initial.run text).mode.bare ∧
      inTemplate (scanner.run text).frames = false := by
  obtain ⟨c, rest, rfl⟩ := List.exists_cons_of_ne_nil hne
  have hstart : (fresh scanner.frames scanner.place).Agrees initial :=
    ⟨rfl, rfl, hstops.outside, rfl, nofun⟩
  obtain ⟨hbehind, hwords⟩ := hstart.run htext
  rw [hstops.run_eq]
  refine ⟨?_, hbehind.mode, hbehind.outside⟩
  calc wordsIn (scanner.yield (c :: rest))
      = wordsIn scanner.pending ++
          (wordsIn ((fresh scanner.frames scanner.place).emits (c :: rest)) ++
            wordsIn ((fresh scanner.frames scanner.place).run (c :: rest)).pending) := by
        rw [yield, hstops.emits_eq, hstops.run_eq, wordsIn_append, wordsIn_append,
          List.append_assoc]
    _ = wordsIn scanner.pending ++ (wordsIn (initial.emits (c :: rest)) ++
          wordsIn (initial.run (c :: rest)).pending) := by rw [hwords, hbehind.pending]
    _ = wordsIn scanner.pending ++ wordsIn (initial.yield (c :: rest)) := by
        rw [yield, wordsIn_append]

theorem wording_of_fixed (hfixed : wordingFixed before after text words = true) :
    Wording before after text words := by
  simp only [wordingFixed, Bool.and_eq_true, Bool.not_eq_true', beq_iff_eq,
    List.isEmpty_eq_false_iff, List.contains_eq_mem, decide_eq_false_iff_not, decide_eq_true_eq,
    List.all_eq_true] at hfixed
  obtain ⟨⟨⟨⟨⟨hne, htext⟩, hends⟩, hwords⟩, hmode⟩, hlines⟩ := hfixed
  have hread := fun (scanner : Scanner) (hscanner : scanner.At before) =>
    (hscanner.stopsBefore hends).yield_words hne htext
  refine ⟨fun scanner hscanner => ?_, fun scanner hscanner => ?_, hlines⟩
  · rw [(hread scanner hscanner).1, hwords]
  · obtain ⟨-, hbare, houtside⟩ := hread scanner hscanner
    exact ⟨houtside, Edge.mem_modes_of_bare hmode hbare⟩

/-- An empty text leaves every edge as it is. -/
theorem wording_empty (edge : Edge) : Wording edge edge "" [] :=
  ⟨fun scanner _ => by simp [Scanner.yield], fun _ hscanner => hscanner, by simp⟩

/-- An edge that allows less may take the place of the one in front, and an edge that allows
more that of the one behind. -/
theorem Wording.mono {before' after' : Edge} (htext : Wording before after text words)
    (hbefore : before'.modes ⊆ before.modes) (hafter : after.modes ⊆ after'.modes) :
    Wording before' after' text words := by
  have hat : ∀ scanner : Scanner, scanner.At before' → scanner.At before :=
    fun scanner hscanner => ⟨hscanner.outside, hbefore hscanner.mode⟩
  refine ⟨fun scanner hscanner => htext.words_eq scanner (hat scanner hscanner), ?_,
    htext.onOneLine⟩
  intro scanner hscanner
  have hbehind := htext.behind scanner (hat scanner hscanner)
  exact ⟨hbehind.outside, hafter hbehind.mode⟩

/-- Nothing is in the middle of a word at the clean edge. -/
theorem Wording.loosen (htext : Wording before .clean text words) :
    Wording before .word text words :=
  htext.mono (List.Subset.refl _) (by decide)

/-- What may stand behind a word may stand behind nothing. -/
theorem Wording.ofWord (htext : Wording .word after text words) :
    Wording .clean after text words :=
  htext.mono (by decide) (List.Subset.refl _)

end Pieces

/-! ## Names and literals -/

theorem Scanner.At.codeStep_inert {scanner : Scanner} {edge : Edge} (hscanner : scanner.At edge)
    {c : Char} (hc : isInert c = true) : (scanner.codeStep c).1.At .word := by
  have hopening : ∀ mode lexeme, mode ∈ Edge.word.modes →
      (scanner.opening mode c lexeme).At .word :=
    fun mode lexeme hmode => ⟨by simpa using hscanner.outside, by simpa using hmode⟩
  simp only [isInert, delimiters, List.contains_cons, List.contains_nil, Bool.or_false,
    Bool.not_eq_true', Bool.or_eq_false_iff, beq_eq_false_iff_ne] at hc
  have hopener : isOpener c = false := by simp [isOpener, hc]
  have hcloser : isCloser c = false := by simp [isCloser, hc]
  simp only [Scanner.codeStep, hc, hopener, hcloser, if_false, Bool.false_eq_true]
  split_ifs <;> exact hopening _ _ (by decide)

/-- A text that opens and closes nothing is read as code from its beginning to its end. -/
theorem Scanner.At.run_inert {scanner : Scanner} (hscanner : scanner.At .word) {text : List Char}
    (hinert : ∀ c ∈ text, isInert c = true) : (scanner.run text).At .word := by
  induction text generalizing scanner with
  | nil => exact hscanner
  | cons c rest ih =>
      obtain ⟨hc, hrest⟩ := List.forall_mem_cons.mp hinert
      refine ih ?_ hrest
      have hcode := hscanner.codeStep_inert hc
      have htake : ∀ mode, mode ∈ Edge.word.modes → (scanner.take mode c).At .word :=
        fun mode hmode => ⟨hscanner.outside, hmode⟩
      have hmode := hscanner.mode
      simp only [Edge.modes, List.mem_cons, List.not_mem_nil, or_false] at hmode
      rcases hmode with hmode | hmode | hmode | hmode <;> simp only [step, hmode]
      · exact hcode
      all_goals
        split_ifs
        · exact htake _ (by decide)
        · exact hcode

/-- The words of a text that opens and closes nothing are written with its characters, and
have no blanks in them. -/
theorem chars_of_mem_wordsOf {text : String} (hinert : ∀ c ∈ text.toList, isInert c = true)
    {word : Word} (hword : word ∈ wordsOf text) :
    word.2.toList ⊆ text.toList ∧ ∀ c ∈ word.2.toList, Text.isBlank c = false := by
  obtain ⟨token, htoken, rfl⟩ := List.mem_map.mp hword
  have hflawless := (neutral_of_inert hinert).flawless
  rw [scan_eq_reports, Scanner.initial_eq_fresh] at htoken hflawless
  obtain ⟨front, source, back, htext, hspells, -⟩ := exists_source rfl hflawless htoken
  have hsource : source ⊆ text.toList := by
    rw [htext]
    exact fun c hc => List.mem_append_left _ (List.mem_append_right _ hc)
  refine ⟨fun c hc => hsource (hspells.subset hc), ?_⟩
  unfold Token.Spells at hspells
  -- a literal would begin with a mark that opens something
  split at hspells
  · have hopens : backtick ∈ text.toList := hsource (by simp [hspells])
    exact absurd (hinert _ hopens) (by decide)
  · obtain ⟨body, hbody, -⟩ := hspells
    have hopens : '"' ∈ text.toList := hsource (by simp [hbody])
    exact absurd (hinert _ hopens) (by decide)
  · rw [Token.word, ← hspells.1]
    exact hspells.2

/-- A text that opens and closes nothing has its words wherever no token goes on into it. -/
theorem wording_inert {before : Edge} {text : String} (hne : text ≠ "")
    (hinert : ∀ c ∈ text.toList, isInert c = true)
    (hends : before.endsBefore text.toList = true) :
    Wording before .word text (wordsOf text) := by
  have htext : backtick ∉ text.toList := fun hmem => absurd (hinert _ hmem) (by decide)
  have hlast := (Scanner.initial_at .word).run_inert hinert
  have hlines : ∀ word ∈ wordsOf text, '\n' ∉ word.2.toList := fun word hword hfeed =>
    absurd ((chars_of_mem_wordsOf hinert hword).2 _ hfeed) (by decide)
  have hread := fun (scanner : Scanner) (hscanner : scanner.At before) =>
    (hscanner.stopsBefore hends).yield_words (by simpa using hne) htext
  refine ⟨fun scanner hscanner => ?_, fun scanner hscanner => ?_, hlines⟩
  · rw [(hread scanner hscanner).1, wordsOf_eq_yield hlast.isCode]
  · obtain ⟨-, hbare, houtside⟩ := hread scanner hscanner
    exact ⟨houtside, Edge.mem_modes_of_bare hlast.mode hbare⟩

/-- A text whose characters are all taken in one mode is put behind what was read. -/
theorem Scanner.run_take {mode : Mode} {text : List Char}
    (htake : ∀ scanner : Scanner, scanner.mode = mode →
      ∀ c ∈ text, scanner.step c = (scanner.take mode c, []))
    {scanner : Scanner} (hmode : scanner.mode = mode) :
    scanner.emits text = [] ∧ (scanner.run text).mode = mode ∧
      (scanner.run text).frames = scanner.frames ∧
      (scanner.run text).lexeme = text.reverse ++ scanner.lexeme := by
  induction text generalizing scanner with
  | nil => exact ⟨rfl, hmode, rfl, rfl⟩
  | cons c rest ih =>
      have hstep := htake scanner hmode c List.mem_cons_self
      have hrest := fun other hother d hd => htake other hother d (List.mem_cons_of_mem _ hd)
      obtain ⟨hemits, hlast, hframes, hlexeme⟩ := ih hrest (take_mode scanner mode c)
      rw [emits_cons, run_cons, hstep]
      exact ⟨hemits, hlast, hframes, by simpa using hlexeme⟩

/-- A quote in code opens a literal. -/
theorem Scanner.step_quote {scanner : Scanner} (hmode : scanner.mode = .code) :
    scanner.step '"' = (scanner.opening (.string scanner.place.line false) '"' [], []) := by
  rw [step, hmode, codeStep, if_neg (by decide), if_neg (by decide), if_pos rfl]

/-- A quote in a literal closes it, and the literal is a word. -/
theorem Scanner.step_quote_inside {scanner : Scanner} {line : Nat}
    (hmode : scanner.mode = .string line false) (houtside : inTemplate scanner.frames = false) :
    (scanner.step '"').1.mode = .code ∧ (scanner.step '"').1.frames = scanner.frames ∧
      wordsIn (scanner.step '"').2 = [(.string, String.ofList scanner.lexeme.reverse)] := by
  simp [step, hmode, stringStep, tokenReports, houtside, wordsIn, tokensIn, Report.token?,
    Token.word]

/-- A quoted text is one literal when nothing in it would have to be escaped. -/
theorem wording_quoted {value : String}
    (hvalue : ∀ c ∈ value.toList, c ≠ '"' ∧ c ≠ '\\' ∧ c ≠ '\n') :
    Wording .word .clean ("\"" ++ value ++ "\"") [(.string, value)] := by
  have htext : ("\"" ++ value ++ "\"").toList = '"' :: (value.toList ++ ['"']) := by simp
  have hread : ∀ scanner : Scanner, scanner.At .word →
      wordsIn (scanner.yield ('"' :: (value.toList ++ ['"']))) =
          wordsIn scanner.pending ++ [(.string, value)] ∧
        (scanner.run ('"' :: (value.toList ++ ['"']))).At .clean := by
    intro scanner hscanner
    have hstops : scanner.StopsBefore ('"' :: (value.toList ++ ['"'])) :=
      hscanner.stopsBefore rfl
    have houtside : inTemplate (Scanner.fresh scanner.frames scanner.place).frames = false :=
      hscanner.outside
    -- the literal is opened, filled and closed
    obtain ⟨opened, hstep, hmode, hframes, hlexeme⟩ : ∃ opened,
        (Scanner.fresh scanner.frames scanner.place).step '"' = (opened, []) ∧
          opened.mode = .string scanner.place.line false ∧ opened.frames = scanner.frames ∧
          opened.lexeme = [] :=
      ⟨_, Scanner.step_quote rfl, by simp, by simp, by rw [Scanner.opening_eq houtside]⟩
    have htake : ∀ other : Scanner, other.mode = .string scanner.place.line false →
        ∀ c ∈ value.toList,
          other.step c = (other.take (.string scanner.place.line false) c, []) := by
      intro other hother c hc
      obtain ⟨hquote, hescape, hfeed⟩ := hvalue c hc
      simp [Scanner.step, hother, Scanner.stringStep, hquote, hescape, hfeed]
    obtain ⟨hemits, hmode', hframes', hlexeme'⟩ := Scanner.run_take htake hmode
    rw [hframes] at hframes'
    rw [hlexeme, List.append_nil] at hlexeme'
    have hfilled : inTemplate (opened.run value.toList).frames = false := by
      rw [hframes', hscanner.outside]
    obtain ⟨hclosed, hclosedFrames, hwords⟩ := Scanner.step_quote_inside hmode' hfilled
    have hrun : scanner.run ('"' :: (value.toList ++ ['"'])) =
        ((opened.run value.toList).step '"').1 := by
      rw [hstops.run_eq, Scanner.run_cons, hstep, Scanner.run_append]
      rfl
    have hemit : wordsIn (scanner.emits ('"' :: (value.toList ++ ['"']))) =
        wordsIn scanner.pending ++ [(.string, value)] := by
      rw [hstops.emits_eq, Scanner.emits_cons, hstep, Scanner.emits_append, hemits]
      simp [Scanner.emits_cons, hwords, hlexeme']
    rw [Scanner.yield, wordsIn_append, hrun, hemit]
    refine ⟨?_, ?_, ?_⟩
    · simp [Scanner.pending, hclosed, Mode.pendingKind?]
    · rw [hclosedFrames, hfilled]
    · simp [Edge.modes, hclosed]
  refine ⟨fun scanner hscanner => ?_, fun scanner hscanner => ?_, ?_⟩
  · rw [htext]
    exact (hread scanner hscanner).1
  · rw [htext]
    exact (hread scanner hscanner).2
  · simpa using fun hfeed => (hvalue '\n' hfeed).2.2 rfl

/-! ## The words of a name -/

/-- In code, a character of a name begins a number if it is a digit and an identifier if
not. -/
theorem Scanner.codeStep_of_isIdentifierChar {scanner : Scanner} {c : Char}
    (hc : isIdentifierChar c = true) :
    scanner.codeStep c =
      (scanner.opening (if c.isDigit then .number else .identifier) c [c], []) := by
  have hinert := isInert_of_isIdentifierChar hc
  have hquote : c ≠ '\'' := by
    rintro rfl
    exact absurd hc (by decide)
  simp only [isInert, delimiters, List.contains_cons, List.contains_nil, Bool.or_false,
    Bool.not_eq_true', Bool.or_eq_false_iff, beq_eq_false_iff_ne] at hinert
  have hopener : isOpener c = false := by simp [isOpener, hinert]
  have hcloser : isCloser c = false := by simp [isCloser, hinert]
  simp only [codeStep, isBlank_eq_false_of_isIdentifierChar hc, hinert, hopener, hcloser, hquote,
    hc, if_false, Bool.false_eq_true, if_true]
  split_ifs <;> rfl

section Taken

variable {scanner : Scanner} (houtside : inTemplate scanner.frames = false) {text : List Char}
  (htext : ∀ c ∈ text, isIdentifierChar c = true)

include houtside htext

/-- The rest of a name belongs to an identifier that has begun. -/
theorem Scanner.yield_identifier (hmode : scanner.mode = .identifier) :
    wordsIn (scanner.yield text) =
      [(.identifier, String.ofList (scanner.lexeme.reverse ++ text))] := by
  have htake : ∀ other : Scanner, other.mode = .identifier →
      ∀ c ∈ text, other.step c = (other.take .identifier c, []) := by
    intro other hother c hc
    simp [step, hother, htext c hc]
  obtain ⟨hemits, hlast, hframes, hlexeme⟩ := run_take htake hmode
  simp [yield, pending, hemits, hlast, Mode.pendingKind?, tokenReports, hframes, houtside, hlexeme,
    wordsIn, tokensIn, Report.token?, Token.word]

/-- A number that has begun goes as far as its characters do, and an identifier may be
behind it. -/
theorem Scanner.yield_number (hmode : scanner.mode = .number) :
    wordsIn (scanner.yield text) = [(.number, String.ofList (scanner.lexeme.reverse ++ text))] ∨
      ∃ front back, text = front ++ back ∧ wordsIn (scanner.yield text) =
        [(.number, String.ofList (scanner.lexeme.reverse ++ front)),
          (.identifier, String.ofList back)] := by
  induction text generalizing scanner with
  | nil =>
      left
      simp [yield, pending, hmode, Mode.pendingKind?, tokenReports, houtside, wordsIn, tokensIn,
        Report.token?, Token.word]
  | cons c rest ih =>
      obtain ⟨hc, hrest⟩ := List.forall_mem_cons.mp htext
      have hyield : scanner.yield (c :: rest) =
          (scanner.step c).2 ++ (scanner.step c).1.yield rest := by
        simp [yield, emits_cons, run_cons]
      by_cases hnumber : isNumberChar c = true
      · -- the number goes on
        have hstep : scanner.step c = (scanner.take .number c, []) := by
          simp [step, hmode, hnumber]
        have htaken : inTemplate (scanner.take .number c).frames = false := houtside
        have hlexeme : (scanner.take .number c).lexeme.reverse = scanner.lexeme.reverse ++ [c] := by
          simp
        rw [hyield, hstep, List.nil_append]
        rcases ih htaken hrest rfl with hone | ⟨front, back, hsplit, htwo⟩
        · left
          rw [hone, hlexeme, List.append_assoc, List.singleton_append]
        · right
          refine ⟨c :: front, back, by rw [hsplit, List.cons_append], ?_⟩
          rw [htwo, hlexeme, List.append_assoc, List.singleton_append]
      · -- all digits are characters of a number
        right
        have hdigit : c.isDigit = false := by
          by_contra h
          simp [isNumberChar, Char.isAlphanum, h] at hnumber
        have hstep : scanner.step c = (scanner.opening .identifier c [c],
            scanner.tokenReports .number scanner.place.offset) := by
          simp [step, hmode, hnumber, endToken, codeStep_of_isIdentifierChar hc, hdigit]
        have hbehind : wordsIn ((scanner.opening .identifier c [c]).yield rest) =
            [(.identifier, String.ofList (c :: rest))] := by
          rw [yield_identifier (by simpa using houtside) hrest (by simp), opening_eq houtside]
          rfl
        refine ⟨[], c :: rest, rfl, ?_⟩
        rw [hyield, hstep, wordsIn_append, hbehind]
        simp [tokenReports, houtside, wordsIn, tokensIn, Report.token?, Token.word]

end Taken

/-- **A name is one identifier, one number, or a number with an identifier behind it.** -/
theorem wordsOf_name {name : String} (hname : IsName name) :
    wordsOf name = [(.identifier, name)] ∨ wordsOf name = [(.number, name)] ∨
      ∃ front back, name = front ++ back ∧
        wordsOf name = [(.number, front), (.identifier, back)] := by
  obtain ⟨hne, hchars⟩ := hname
  obtain ⟨c, rest, htext⟩ : ∃ c rest, name.toList = c :: rest :=
    List.exists_cons_of_ne_nil (by simpa using hne)
  have hinert : ∀ d ∈ name.toList, isInert d = true := fun d hd =>
    isInert_of_isIdentifierChar (hchars d hd)
  have hofList : name = String.ofList ([c] ++ rest) := by
    rw [List.singleton_append, ← htext, String.ofList_toList]
  rw [wordsOf_eq_yield ((Scanner.initial_at .word).run_inert hinert).isCode, htext]
  rw [htext, List.forall_mem_cons] at hchars
  obtain ⟨hc, hrest⟩ := hchars
  -- the first character says what the name begins with
  have hstep : Scanner.initial.step c = ((Scanner.initial.opening
      (if c.isDigit then .number else .identifier) c [c]), []) :=
    Scanner.codeStep_of_isIdentifierChar hc
  have hyield : Scanner.initial.yield (c :: rest) = (Scanner.initial.step c).1.yield rest := by
    simp [Scanner.yield, Scanner.emits_cons, Scanner.run_cons, hstep]
  have houtside : inTemplate (Scanner.initial.step c).1.frames = false := by
    rw [hstep, Scanner.opening_frames]
    rfl
  have hlexeme : (Scanner.initial.step c).1.lexeme.reverse = [c] := by
    rw [hstep, Scanner.opening_eq rfl]
    rfl
  rw [hyield]
  by_cases hdigit : c.isDigit = true
  · have hmode : (Scanner.initial.step c).1.mode = .number := by simp [hstep, hdigit]
    right
    rcases Scanner.yield_number houtside hrest hmode with hone | ⟨front, back, hsplit, htwo⟩
    · left
      rw [hone, hlexeme, ← hofList]
    · right
      refine ⟨String.ofList ([c] ++ front), String.ofList back, ?_, ?_⟩
      · rw [hofList, hsplit, ← List.append_assoc, String.ofList_append]
      · rw [htwo, hlexeme]
  · have hmode : (Scanner.initial.step c).1.mode = .identifier := by simp [hstep, hdigit]
    left
    rw [Scanner.yield_identifier houtside hrest hmode, hlexeme, ← hofList]

/-! ## Lists -/

/-- Words with commas between neighbours. -/
def commaSeparated (items : List (List Word)) : List Word := [mark ","].intercalate items

/-- A list of written items is read as their words with commas between. -/
theorem wording_commaList {α : Type} {items : List α} {write : α → String} {words : α → List Word}
    (hitems : ∀ item ∈ items, Wording .clean .word (write item) (words item)) :
    Wording .clean .word (commaList (items.map write)) (commaSeparated (items.map words)) := by
  have hcomma : Wording .word .clean ", " [mark ","] := wording_of_fixed (by rfl)
  unfold commaList commaSeparated
  induction items with
  | nil => exact (wording_empty .clean).loosen
  | cons item rest ih =>
      obtain ⟨hitem, hrest⟩ := List.forall_mem_cons.mp hitems
      cases rest with
      | nil => simpa using hitem
      | cons next others =>
          have hbehind := ih hrest
          simp only [List.map_cons] at hbehind ⊢
          rw [String.intercalate_cons_cons, List.intercalate_cons_cons]
          exact (hitem.append hcomma).append hbehind

/-! ## Words that are read and written again -/

/-- A token that differs in layout from another is the same word if it is on one line. -/
theorem Token.Alike.word_eq {token other : Token} (halike : token.Alike .layout other)
    (hline : '\n' ∉ token.text.toList) : other.word = token.word := by
  have htext : other.text = token.text :=
    String.toList_injective (halike.text.eq_of_not_mem hline)
  rw [Token.word, Token.word, halike.kind, htext]

/-- A snippet has the words that it was cut from, if none goes over a line break. -/
theorem Stands.words_eq {text : List Char} {literalLines : List Nat} {chunk : List Token}
    {snippet : Snippet} {front gap piece back : List Char}
    (hstands : Stands text literalLines chunk snippet front gap piece back)
    (hlines : ∀ token ∈ chunk, '\n' ∉ token.text.toList) (depth : Nat) :
    wordsOf (snippet.render depth) = chunk.map Token.word := by
  obtain ⟨parsed, hparsed, halike⟩ := hstands.tokens_alike depth
  obtain ⟨-, rfl⟩ := tokenize_eq_ok_iff.mp hparsed
  have hsame : ∀ {chunk tokens : List Token},
      List.Forall₂ (Token.Alike .layout) chunk tokens →
      (∀ token ∈ chunk, '\n' ∉ token.text.toList) →
      tokens.map Token.word = chunk.map Token.word := by
    intro chunk tokens halike hlines
    induction halike with
    | nil => rfl
    | cons hfirst _ ih =>
        obtain ⟨hline, hlines⟩ := List.forall_mem_cons.mp hlines
        rw [List.map_cons, List.map_cons, hfirst.word_eq hline, ih hlines]
  exact hsame halike hlines

/-- **Statements that are read and written again have the words of their text**, if none
goes over a line break. -/
theorem words_of_statementsIn {text : String} {snippets : List Snippet}
    (hread : statementsIn text = .ok snippets)
    (hlines : ∀ word ∈ wordsOf text, '\n' ∉ word.2.toList) (depth : Nat) :
    (snippets.flatMap fun snippet => wordsOf (snippet.render depth)) = wordsOf text := by
  obtain ⟨scanned, complete, hscanned, htokens, hstands⟩ := stands_of_statementsIn hread
  obtain ⟨-, rfl⟩ := tokenize_eq_ok_iff.mp hscanned
  have hwords : wordsOf text = complete.flatten.map Token.word := congrArg _ htokens
  rw [hwords] at hlines ⊢
  clear hread htokens hwords
  induction hstands with
  | nil => rfl
  | @cons chunk snippet complete snippets hfirst _ ih =>
      obtain ⟨front, gap, piece, back, hstand⟩ := hfirst
      rw [List.flatten_cons, List.map_append, List.forall_mem_append] at hlines
      have hchunk : ∀ token ∈ chunk, '\n' ∉ token.text.toList := fun token htoken =>
        hlines.1 _ (List.mem_map_of_mem htoken)
      calc ((snippet :: snippets).flatMap fun snippet => wordsOf (snippet.render depth))
          = wordsOf (snippet.render depth) ++
              snippets.flatMap fun snippet => wordsOf (snippet.render depth) := List.flatMap_cons
        _ = chunk.map Token.word ++ complete.flatten.map Token.word := by
            rw [hstand.words_eq hchunk depth, ih hlines.2]
        _ = (chunk :: complete).flatten.map Token.word := by
            rw [List.flatten_cons, List.map_append]

theorem words_of_memberIn {text : String} {snippet : Snippet}
    (hread : memberIn text = .ok snippet)
    (hlines : ∀ word ∈ wordsOf text, '\n' ∉ word.2.toList) (depth : Nat) :
    wordsOf (snippet.render depth) = wordsOf text := by
  simpa using words_of_statementsIn (statementIn_eq_ok_iff.mp hread) hlines depth

end PersistLayer.Syntax
