import PersistLayer.Proofs.Scanner.Run
import PersistLayer.Proofs.Text.Blank

/-!
# Reading one token

A token that is begun is completed when no fault follows, and its source is what
its text says (`Scanner.Reads.exists_completes`).  Inside a template literal that
takes all characters up to the backtick that ends the outermost literal; a word
goes on as long as its characters do, and a string up to its closing quote.

Between tokens there are blanks and comments (`Scanner.exists_skips`), and where
neither follows a token begins (`Scanner.exists_completes_of_beginsToken`).
-/

namespace PersistLayer.Syntax

@[simp] theorem tokensIn_openReports (frames : List Frame) : tokensIn (openReports frames) = [] := by
  unfold openReports
  split
  · rfl
  · rw [tokensIn, List.filterMap_eq_nil_iff]
    intro report hreport
    obtain ⟨frame, -, hframe⟩ := List.mem_filterMap.mp hreport
    cases frame <;> simp at hframe
    rw [← hframe]
    rfl

/-! ## Inside template literals -/

/-- A step inside a template literal that does not end it: the character joins the
raw text and no token is reported. -/
structure Scanner.Collects (scanner : Scanner) (c : Char) (outcome : Scanner × List Report) :
    Prop where
  lexeme : outcome.1.lexeme = c :: scanner.lexeme
  start : outcome.1.start = scanner.start
  inside : inTemplate outcome.1.frames = true
  silent : tokensIn outcome.2 = []

section Inside

variable {scanner : Scanner} (hinside : inTemplate scanner.frames = true) (c : Char)

include hinside

theorem Scanner.opening_eq_take (mode : Mode) (lexeme : List Char) :
    scanner.opening mode c lexeme = scanner.take mode c := by
  simp [opening, hinside]

theorem Scanner.pass_eq_take (mode : Mode) : scanner.pass mode c = scanner.take mode c := by
  simp [pass, hinside]

theorem Scanner.tokenReports_inside (kind : TokenKind) (stop : Nat) :
    scanner.tokenReports kind stop = [] := by
  simp [tokenReports, hinside]

theorem Scanner.markReports_inside : scanner.markReports c = [] := by
  simp [markReports, hinside]

theorem Scanner.collects_take (mode : Mode) : scanner.Collects c (scanner.take mode c, []) :=
  ⟨rfl, rfl, hinside, rfl⟩

theorem Scanner.collects_closer : scanner.Collects c (scanner.closer c) := by
  unfold closer
  rcases hframes : scanner.frames with _ | ⟨⟨opener, line⟩ | line, outer⟩
  · simp [hframes] at hinside
  · have houter : inTemplate outer = true := by simpa [hframes] using hinside
    have hclosed : inTemplate ({ scanner with frames := outer } : Scanner).frames = true := houter
    simp only [opening_eq_take hclosed, markReports_inside hclosed]
    refine ⟨rfl, rfl, houter, ?_⟩
    split_ifs <;> rfl
  · dsimp only
    split_ifs
    · exact collects_take hinside c _
    · exact ⟨rfl, rfl, hinside, rfl⟩

omit hinside in
theorem Scanner.collects_ite {p : Prop} [Decidable p] {yes no : Scanner × List Report}
    (hyes : scanner.Collects c yes) (hno : scanner.Collects c no) :
    scanner.Collects c (if p then yes else no) := by
  split_ifs
  · exact hyes
  · exact hno

theorem Scanner.collects_codeStep : scanner.Collects c (scanner.codeStep c) := by
  unfold codeStep
  simp only [opening_eq_take hinside, markReports_inside hinside]
  refine collects_ite c ?_ (collects_ite c ?_ (collects_ite c ?_ (collects_ite c ?_ (collects_ite c ?_
    (collects_ite c ?_ (collects_ite c ?_ (collects_ite c ?_ (collects_ite c ?_ ?_))))))))
  · exact collects_take hinside c _
  · exact collects_take hinside c _
  · exact collects_take hinside c _
  · exact ⟨rfl, rfl, by simp, rfl⟩
  · exact ⟨rfl, rfl, by simpa using hinside, rfl⟩
  · exact collects_closer hinside c
  · exact collects_take hinside c _
  · exact collects_take hinside c _
  · exact collects_take hinside c _
  · exact collects_take hinside c _

theorem Scanner.collects_endToken (kind : TokenKind) :
    scanner.Collects c (scanner.endToken kind c) := by
  have hstep := collects_codeStep hinside c
  refine ⟨hstep.lexeme, hstep.start, hstep.inside, ?_⟩
  simpa [endToken, tokenReports_inside hinside] using hstep.silent

theorem Scanner.collects_stringStep (line : Nat) (escaped : Bool)
    (hflawless : Flawless (scanner.stringStep line escaped c).2) :
    scanner.Collects c (scanner.stringStep line escaped c) := by
  unfold stringStep at hflawless ⊢
  simp only [pass_eq_take hinside, tokenReports_inside hinside] at hflawless ⊢
  split_ifs at hflawless ⊢
  · exact collects_take hinside c _
  · exact collects_take hinside c _
  · simp [Report.isFlaw] at hflawless
  · exact collects_take hinside c _
  · exact collects_take hinside c _

theorem Scanner.collects_templateStep (dollar : Bool)
    (hopen : c = backtick → inTemplate scanner.frames.tail = true) :
    scanner.Collects c (scanner.templateStep dollar c) := by
  unfold templateStep
  split_ifs with hbacktick
  · have houter := hopen hbacktick
    have htail : inTemplate { scanner with frames := scanner.frames.tail }.frames = true := houter
    simp only [pass_eq_take htail, tokenReports_inside htail]
    exact ⟨rfl, rfl, houter, rfl⟩
  · exact ⟨rfl, rfl, hinside, rfl⟩
  · exact collects_take hinside c _
  · exact collects_take hinside c _

/-- A character inside a template literal joins its raw text, unless it is the
backtick that ends the outermost literal. -/
theorem Scanner.collects_step (hlive : scanner.Live)
    (hopen : ∀ dollar, scanner.mode = .template dollar → c = backtick →
      inTemplate scanner.frames.tail = true)
    (hflawless : Flawless (scanner.step c).2) :
    scanner.Collects c (scanner.step c) := by
  cases hmode : scanner.mode with
  | code =>
      simp only [step, hmode]
      exact collects_codeStep hinside c
  | slash | quote | identifier | number =>
      simp only [step, hmode]
      split_ifs
      · exact collects_take hinside c _
      · exact collects_endToken hinside c _
  | comment =>
      simp only [step, hmode]
      split_ifs
      · exact collects_codeStep hinside c
      · exact collects_take hinside c _
  | string line escaped =>
      simp only [step, hmode] at hflawless ⊢
      exact collects_stringStep hinside c line escaped hflawless
  | template dollar =>
      simp only [step, hmode]
      exact collects_templateStep hinside c dollar (hopen dollar hmode)
  | halted => simp [Live, hmode] at hlive

end Inside

/-! ## Blanks are in no word -/

theorem isBlank_eq_false_of_isIdentifierChar {c : Char} (hc : isIdentifierChar c = true) :
    Text.isBlank c = false :=
  Text.isBlank_eq_false_of_class isIdentifierChar (by decide +kernel) hc

theorem isBlank_eq_false_of_isNumberChar {c : Char} (hc : isNumberChar c = true) :
    Text.isBlank c = false :=
  Text.isBlank_eq_false_of_class isNumberChar (by decide) hc

/-! ## The middle of a token -/

/-- A mode in the middle of a word, a number, a slash or an apostrophe. -/
def Mode.isWord (mode : Mode) : Bool := mode.pendingKind?.isSome

theorem Mode.of_pendingKind {mode : Mode} {kind : TokenKind}
    (hkind : mode.pendingKind? = some kind) :
    mode.isCode = true ∧ mode ≠ .comment ∧ kind ≠ .template ∧ kind ≠ .string := by
  cases mode <;> simp [pendingKind?] at hkind <;> subst hkind <;> simp [isCode]

/-- The scanner is in the middle of a token whose source so far is `source`. -/
def Scanner.Reads (scanner : Scanner) (source : List Char) : Prop :=
  if inTemplate scanner.frames then source = backtick :: scanner.lexeme.reverse
  else
    match scanner.mode with
    | .slash | .quote | .identifier | .number =>
      source = scanner.lexeme.reverse ∧ ∀ c ∈ source, Text.isBlank c = false
    | .string _ _ => ∃ body, source = '"' :: body ∧ scanner.lexeme ⊆ body
    | _ => False

/-- The source is what the token is written as. -/
def Token.Spells (token : Token) (source : List Char) : Prop :=
  match token.kind with
  | .template => source = backtick :: (token.text.toList ++ [backtick])
  | .string => ∃ body, source = '"' :: (body ++ ['"']) ∧ token.text.toList ⊆ body
  | _ => source = token.text.toList ∧ ∀ c ∈ source, Text.isBlank c = false

theorem Token.spells_of_word {token : Token} {source : List Char}
    (htemplate : token.kind ≠ .template) (hstring : token.kind ≠ .string)
    (hsource : source = token.text.toList) (hblanks : ∀ c ∈ source, Text.isBlank c = false) :
    token.Spells source := by
  unfold Spells
  split
  · exact absurd ‹_› htemplate
  · exact absurd ‹_› hstring
  · exact ⟨hsource, hblanks⟩

/-- The token is an opening bracket. -/
def Token.opens (token : Token) : Bool :=
  token.isMark "(" || token.isMark "[" || token.isMark "\x7b"

/-- The token whose source so far is `source` goes on with `more` and ends in front
of `back`. -/
structure Scanner.Completes (scanner : Scanner) (source more back : List Char) (token : Token) :
    Prop where
  stops : (scanner.run more).StopsBefore back
  mode_ne : (scanner.run more).mode ≠ .comment
  yield_eq : tokensIn (scanner.yield more) = [token]
  start_eq : token.start = scanner.start.offset
  line_eq : token.line = scanner.start.line
  stop_eq : token.stop = (scanner.run more).place.offset
  depth_eq : token.opens = false → token.depth = (scanner.run more).frames.length
  spells : token.Spells (source ++ more)

/-- A character that goes on with the token whose source so far is `source`. -/
structure Scanner.GoesOn (scanner : Scanner) (source : List Char) (c : Char) : Prop where
  silent : tokensIn (scanner.step c).2 = []
  reads : (scanner.step c).1.Reads (source ++ [c])
  start_eq : (scanner.step c).1.start = scanner.start
  mode_ne : inTemplate (scanner.step c).1.frames = false → (scanner.step c).1.mode ≠ .slash

theorem Scanner.Completes.cons {scanner : Scanner} {source : List Char} {c : Char}
    (hsilent : tokensIn (scanner.step c).2 = [])
    (hstart : (scanner.step c).1.start = scanner.start) {more back : List Char} {token : Token}
    (hrest : (scanner.step c).1.Completes (source ++ [c]) more back token) :
    scanner.Completes source (c :: more) back token where
  stops := hrest.stops
  mode_ne := hrest.mode_ne
  yield_eq := by
    rw [yield, emits_cons, List.append_assoc, tokensIn_append, hsilent, List.nil_append]
    exact hrest.yield_eq
  start_eq := by rw [hrest.start_eq, hstart]
  line_eq := by rw [hrest.line_eq, hstart]
  stop_eq := hrest.stop_eq
  depth_eq := hrest.depth_eq
  spells := by simpa using hrest.spells

/-- A step that leads to code completes the token it reports. -/
theorem Scanner.completes_of_step {scanner : Scanner} {c : Char} {token : Token}
    (hreports : tokensIn (scanner.step c).2 = [token])
    (hmode : (scanner.step c).1.mode = .code)
    (houtside : inTemplate (scanner.step c).1.frames = false)
    (hstart : token.start = scanner.start.offset) (hline : token.line = scanner.start.line)
    (hstop : token.stop = (scanner.step c).1.place.offset)
    (hdepth : token.opens = false → token.depth = (scanner.step c).1.frames.length)
    {source : List Char} (hspells : token.Spells (source ++ [c])) (back : List Char) :
    scanner.Completes source [c] back token where
  stops := ⟨by simp [run_cons, hmode, Mode.isCode], by simpa [run_cons] using houtside,
    by simp [run_cons, hmode, Mode.goesOnWith]⟩
  mode_ne := by simp [run_cons, hmode]
  yield_eq := by simp [yield, emits_cons, run_cons, pending, hmode, Mode.pendingKind?, hreports]
  start_eq := hstart
  line_eq := hline
  stop_eq := hstop
  depth_eq := hdepth
  spells := hspells

/-- A word ends in front of what does not go on with it. -/
theorem Scanner.Reads.completes_word {scanner : Scanner} {source : List Char}
    (hreads : scanner.Reads source) (houtside : inTemplate scanner.frames = false)
    (hword : scanner.mode.isWord = true) (back : List Char)
    (hback : ∀ c ∈ back.head?, scanner.mode.goesOnWith c = false) :
    ∃ token, scanner.Completes source [] back token := by
  obtain ⟨kind, hkind⟩ := Option.isSome_iff_exists.mp hword
  obtain ⟨hsource, hblanks⟩ :
      source = scanner.lexeme.reverse ∧ ∀ c ∈ source, Text.isBlank c = false := by
    cases hmode : scanner.mode <;> simp_all [Reads, Mode.pendingKind?]
  obtain ⟨hcode, hcomment, htemplate, hstring⟩ := Mode.of_pendingKind hkind
  refine ⟨⟨kind, String.ofList scanner.lexeme.reverse, scanner.start.offset,
    scanner.place.offset, scanner.start.line, scanner.frames.length⟩,
      ⟨hcode, houtside, hback⟩, hcomment, ?_, rfl, rfl, rfl, fun _ => rfl, ?_⟩
  · simp [yield, pending, hkind, tokenReports, houtside, tokensIn, Report.token?]
  · rw [List.append_nil]
    exact Token.spells_of_word htemplate hstring (by simpa using hsource) hblanks

/-- A character that goes on with a word. -/
theorem Scanner.Reads.goesOn_word {scanner : Scanner} {source : List Char}
    (hreads : scanner.Reads source) (houtside : inTemplate scanner.frames = false)
    (hword : scanner.mode.isWord = true) {c : Char} (hc : scanner.mode.goesOnWith c = true)
    (hslash : scanner.mode ≠ .slash) : scanner.GoesOn source c := by
  obtain ⟨hsource, hblanks⟩ :
      source = scanner.lexeme.reverse ∧ ∀ c ∈ source, Text.isBlank c = false := by
    cases hold : scanner.mode <;> simp_all [Reads, Mode.isWord, Mode.pendingKind?]
  -- a word takes the character, and none of its characters is a blank
  have htake : ∀ mode, mode = .identifier ∨ mode = .number → Text.isBlank c = false →
      scanner.step c = (scanner.take mode c, []) → scanner.GoesOn source c := by
    intro mode hmode hblank hstep
    have hall : ∀ other ∈ source ++ [c], Text.isBlank other = false := by
      simpa [or_imp, forall_and, hblank] using hblanks
    refine ⟨by simp [hstep], ?_, by simp [hstep], ?_⟩
    · rcases hmode with rfl | rfl <;> simpa [hstep, Reads, houtside, hsource] using hall
    · rcases hmode with rfl | rfl <;> simp [hstep]
  cases hmode : scanner.mode with
  | quote | identifier =>
      have hchar : isIdentifierChar c = true := by simpa [hmode, Mode.goesOnWith] using hc
      exact htake _ (.inl rfl) (isBlank_eq_false_of_isIdentifierChar hchar)
        (by simp [step, hmode, hchar])
  | number =>
      have hchar : isNumberChar c = true := by simpa [hmode, Mode.goesOnWith] using hc
      exact htake _ (.inr rfl) (isBlank_eq_false_of_isNumberChar hchar)
        (by simp [step, hmode, hchar])
  | slash => exact absurd hmode hslash
  | _ => simp [hmode, Mode.isWord, Mode.pendingKind?] at hword

/-- What is no word is a string literal. -/
theorem Scanner.Reads.exists_string {scanner : Scanner} {source : List Char}
    (hreads : scanner.Reads source) (houtside : inTemplate scanner.frames = false)
    (hword : ¬ scanner.mode.isWord = true) :
    ∃ line escaped, scanner.mode = .string line escaped := by
  cases hmode : scanner.mode with
  | string line escaped => exact ⟨line, escaped, rfl⟩
  | slash | quote | identifier | number => simp [hmode, Mode.isWord, Mode.pendingKind?] at hword
  | code | comment | template | halted => simp [Reads, houtside, hmode] at hreads

/-- A character of a string literal outside template literals. -/
theorem Scanner.Reads.step_string {scanner : Scanner} {source : List Char}
    (hreads : scanner.Reads source) (houtside : inTemplate scanner.frames = false)
    {line : Nat} {escaped : Bool} (hmode : scanner.mode = .string line escaped) {c : Char}
    (hflawless : Flawless (scanner.step c).2) :
    (∀ back, ∃ token, scanner.Completes source [c] back token) ∨ scanner.GoesOn source c := by
  obtain ⟨body, hsource, hbody⟩ : ∃ body, source = '"' :: body ∧ scanner.lexeme ⊆ body := by
    simpa [Reads, houtside, hmode] using hreads
  have hkept : scanner.lexeme ⊆ body ++ [c] := fun _ h => List.mem_append_left _ (hbody h)
  have hgrown : c :: scanner.lexeme ⊆ body ++ [c] :=
    List.cons_subset.mpr ⟨by simp, hkept⟩
  by_cases hclose : escaped = false ∧ c = '"'
  · -- the closing quote completes the token
    left
    intro back
    obtain ⟨rfl, rfl⟩ := hclose
    have hstep : scanner.step '"' = (scanner.pass .code '"',
        scanner.tokenReports .string (scanner.place.offset + '"'.utf8Size)) := by
      simp [step, hmode, stringStep]
    refine ⟨⟨.string, String.ofList scanner.lexeme.reverse, scanner.start.offset,
      scanner.place.offset + '"'.utf8Size, scanner.start.line, scanner.frames.length⟩,
        completes_of_step ?_ ?_ ?_ rfl rfl ?_ ?_ ?_ back⟩
    · simp [hstep, tokenReports, houtside, tokensIn, Report.token?]
    · simp [hstep]
    · simp [hstep, houtside]
    · simp [hstep, Place.after]
    · simp [hstep]
    · exact ⟨body, by simp [hsource], by simpa using hbody⟩
  · -- any other character but a line feed is one of the literal
    right
    have hgoes : ∀ next : Scanner, scanner.step c = (next, []) →
        (∃ kept, next.mode = .string line kept) → next.frames = scanner.frames →
        next.start = scanner.start → next.lexeme ⊆ body ++ [c] → scanner.GoesOn source c := by
      rintro next hstep ⟨kept, hnext⟩ hframes hstart hlexeme
      refine ⟨by simp [hstep], ?_, by simp [hstep, hstart], by simp [hstep, hnext]⟩
      simp only [hstep, Reads, hframes, houtside, hnext, hsource, List.cons_append]
      exact ⟨_, rfl, hlexeme⟩
    have hstep : scanner.step c = scanner.stringStep line escaped c := by simp only [step, hmode]
    rw [hstep] at hflawless
    rw [stringStep] at hstep
    unfold stringStep at hflawless
    split_ifs at hflawless hstep with hescaped hquote hfeed hbackslash
    · exact hgoes _ hstep ⟨false, rfl⟩ rfl rfl hgrown
    · exact absurd ⟨by simpa using hescaped, hquote⟩ hclose
    · simp [Report.isFlaw] at hflawless
    · exact hgoes _ hstep ⟨true, by simp⟩ (by simp) (by simp)
        (by simpa [pass, houtside] using hkept)
    · exact hgoes _ hstep ⟨false, rfl⟩ rfl rfl hgrown

/-- A character inside a template literal. -/
theorem Scanner.Reads.step_inside {scanner : Scanner} {source : List Char}
    (hreads : scanner.Reads source) (hinside : inTemplate scanner.frames = true)
    (hlive : scanner.Live) {c : Char} (hflawless : Flawless (scanner.step c).2) :
    (∀ back, ∃ token, scanner.Completes source [c] back token) ∨ scanner.GoesOn source c := by
  have hsource : source = backtick :: scanner.lexeme.reverse := by
    simpa [Reads, hinside] using hreads
  by_cases hclose : ∃ dollar, scanner.mode = .template dollar ∧ c = backtick ∧
      inTemplate scanner.frames.tail = false
  · -- the backtick of the outermost literal completes the token
    left
    intro back
    obtain ⟨dollar, hmode, rfl, houter⟩ := hclose
    refine ⟨⟨.template, String.ofList scanner.lexeme.reverse, scanner.start.offset,
      scanner.place.offset + backtick.utf8Size, scanner.start.line, scanner.frames.tail.length⟩,
        completes_of_step ?_ ?_ ?_ rfl rfl ?_ ?_ (by simp [Token.Spells, hsource]) back⟩
    · simp [step, hmode, templateStep, tokenReports, houter, tokensIn, Report.token?]
    · simp [step, hmode, templateStep]
    · simpa [step, hmode, templateStep] using houter
    · simp [step, hmode, templateStep, Place.after]
    · simp [step, hmode, templateStep]
  · right
    have hcollects : scanner.Collects c (scanner.step c) := by
      refine collects_step hinside c hlive ?_ hflawless
      intro dollar hmode hc
      by_contra houter
      exact hclose ⟨dollar, hmode, hc, by simpa using houter⟩
    refine ⟨hcollects.silent, ?_, hcollects.start, by simp [hcollects.inside]⟩
    simp [Reads, hcollects.inside, hcollects.lexeme, hsource]

theorem Scanner.frames_eq_nil_of_isClosed {scanner : Scanner}
    (hclosed : scanner.outline.isClosed = true) : scanner.frames = [] := by
  cases hmode : scanner.mode <;>
    simp_all [outline, enclosures, Outline.isClosed, Mode.phase]

/-- **A token that is begun is completed.**  When no fault follows, the rest of the
token stands at the beginning of the text. -/
theorem Scanner.Reads.exists_completes {scanner : Scanner} {source text : List Char}
    (hreads : scanner.Reads source) (hlive : scanner.Live)
    (hflawless : Flawless (scanner.reports text))
    (hslash : inTemplate scanner.frames = false → scanner.mode = .slash → text.head? ≠ some '/') :
    ∃ more back token, text = more ++ back ∧ scanner.Completes source more back token := by
  induction text generalizing scanner source with
  | nil =>
      have hclosed := (flawless_finish_iff hlive).mp hflawless
      have houtside : inTemplate scanner.frames = false := by
        simp [frames_eq_nil_of_isClosed hclosed]
      have hword : scanner.mode.isWord = true := by
        cases hmode : scanner.mode <;>
          simp_all [Reads, Mode.isWord, Mode.pendingKind?, outline, Outline.isClosed, Mode.phase]
      obtain ⟨token, htoken⟩ := hreads.completes_word houtside hword [] (by simp)
      exact ⟨[], [], token, rfl, htoken⟩
  | cons c rest ih =>
      rw [reports, flawless_append] at hflawless
      obtain ⟨hstep, hrest⟩ := hflawless
      -- a character that goes on with the token leaves the rest of it to the rest of the text
      have hnext : scanner.GoesOn source c → ∃ more back token, c :: rest = more ++ back ∧
          scanner.Completes source more back token := by
        intro hgoes
        obtain ⟨more, back, token, rfl, htoken⟩ := ih hgoes.reads (live_step hlive hstep) hrest
          fun houtside hmode => absurd hmode (hgoes.mode_ne houtside)
        exact ⟨c :: more, back, token, rfl, htoken.cons hgoes.silent hgoes.start_eq⟩
      have hlast : (∀ back, ∃ token, scanner.Completes source [c] back token) →
          ∃ more back token, c :: rest = more ++ back ∧
            scanner.Completes source more back token := by
        intro hcompletes
        obtain ⟨token, htoken⟩ := hcompletes rest
        exact ⟨[c], rest, token, rfl, htoken⟩
      by_cases hinside : inTemplate scanner.frames = true
      · exact (hreads.step_inside hinside hlive hstep).elim hlast hnext
      have houtside : inTemplate scanner.frames = false := by simpa using hinside
      by_cases hword : scanner.mode.isWord = true
      · by_cases hc : scanner.mode.goesOnWith c = true
        · refine hnext (hreads.goesOn_word houtside hword hc ?_)
          intro hmode
          simp [hmode, Mode.goesOnWith] at hc
          simpa [hc] using hslash houtside hmode
        · obtain ⟨token, htoken⟩ := hreads.completes_word houtside hword
            (c :: rest) (by simpa using hc)
          exact ⟨[], c :: rest, token, rfl, htoken⟩
      · obtain ⟨line, escaped, hmode⟩ := hreads.exists_string houtside hword
        exact (hreads.step_string houtside hmode hstep).elim hlast hnext

/-! ## Between tokens -/

/-- Blanks and comments, which hold no token. -/
structure Scanner.Skips (scanner : Scanner) (gap : List Char) : Prop where
  mode : (scanner.run gap).mode = .code ∨ (scanner.run gap).mode = .comment
  frames : (scanner.run gap).frames = scanner.frames
  silent : scanner.emits gap = []

theorem Scanner.Skips.cons {scanner : Scanner} {c : Char} {gap : List Char}
    (hsilent : (scanner.step c).2 = []) (hframes : (scanner.step c).1.frames = scanner.frames)
    (hgap : (scanner.step c).1.Skips gap) : scanner.Skips (c :: gap) where
  mode := hgap.mode
  frames := hgap.frames.trans hframes
  silent := by rw [emits_cons, hsilent, hgap.silent, List.append_nil]

/-- The text begins with a token: neither with a blank nor with a comment. -/
def beginsToken : List Char → Bool
  | '/' :: '/' :: _ => false
  | c :: _ => !Text.isBlank c
  | [] => false

/-- Blanks and comments, each comment with the line feed behind it. -/
inductive IsGap : List Char → Prop where
  | nil : IsGap []
  | blank {c : Char} {rest : List Char} (hc : Text.isBlank c = true) (hrest : IsGap rest) :
      IsGap (c :: rest)
  | comment {text rest : List Char} (htext : '\n' ∉ text) (hrest : IsGap rest) :
      IsGap ('/' :: '/' :: (text ++ '\n' :: rest))

/-- A gap that begins in code or in a comment. -/
def Mode.LeavesBy (mode : Mode) (gap : List Char) : Prop :=
  if mode = .comment then ∃ text rest, gap = text ++ '\n' :: rest ∧ '\n' ∉ text ∧ IsGap rest
  else IsGap gap

/-- The text is blanks and comments up to its end or up to a token.  A comment at the end of
the text has no line feed behind it. -/
def Scanner.SkipsInto (scanner : Scanner) (text : List Char) : Prop :=
  (scanner.Skips text ∧ scanner.mode.LeavesBy (text ++ ['\n'])) ∨
    ∃ gap back, text = gap ++ back ∧ scanner.Skips gap ∧ (scanner.run gap).mode = .code ∧
      beginsToken back = true ∧ scanner.mode.LeavesBy gap

/-- A character that leaves the brackets and is not reported is skipped. -/
theorem Scanner.SkipsInto.cons {scanner : Scanner} {c : Char} {rest : List Char}
    (hsilent : (scanner.step c).2 = []) (hframes : (scanner.step c).1.frames = scanner.frames)
    (hgrows : ∀ gap, (scanner.step c).1.mode.LeavesBy gap → scanner.mode.LeavesBy (c :: gap))
    (hrest : (scanner.step c).1.SkipsInto rest) : scanner.SkipsInto (c :: rest) := by
  rcases hrest with ⟨hskips, hleaves⟩ | ⟨gap, back, rfl, hskips, hgap, hback, hleaves⟩
  · exact .inl ⟨hskips.cons hsilent hframes, hgrows _ hleaves⟩
  · exact .inr ⟨c :: gap, back, rfl, hskips.cons hsilent hframes, hgap, hback, hgrows gap hleaves⟩

/-- Two slashes in code begin a comment. -/
theorem Scanner.SkipsInto.comment {scanner : Scanner} (hmode : scanner.mode = .code)
    {rest : List Char}
    (hrest : ((scanner.opening .slash '/' ['/']).take .comment '/').SkipsInto rest) :
    scanner.SkipsInto ('/' :: '/' :: rest) := by
  have hfirst : scanner.step '/' = (scanner.opening .slash '/' ['/'], []) := by
    simp [step, hmode, codeStep, show Text.isBlank '/' = false by decide]
  have hsecond : (scanner.opening .slash '/' ['/']).step '/' =
      ((scanner.opening .slash '/' ['/']).take .comment '/', []) := by
    simp [step]
  have hskip : ∀ gap, ((scanner.opening .slash '/' ['/']).take .comment '/').Skips gap →
      scanner.Skips ('/' :: '/' :: gap) := by
    intro gap hgap
    refine Skips.cons (by simp [hfirst]) (by simp [hfirst]) ?_
    rw [hfirst]
    refine Skips.cons (by simp [hsecond]) (by simp [hsecond]) ?_
    rwa [hsecond]
  have hgrows : ∀ gap, Mode.comment.LeavesBy gap → scanner.mode.LeavesBy ('/' :: '/' :: gap) := by
    simp only [hmode, Mode.LeavesBy, reduceCtorEq, if_false, if_true]
    rintro _ ⟨text, below, rfl, htext, hbelow⟩
    exact .comment htext hbelow
  rcases hrest with ⟨hskips, hleaves⟩ | ⟨gap, back, rfl, hskips, hgap, hback, hleaves⟩
  · exact .inl ⟨hskip _ hskips, hgrows _ hleaves⟩
  · refine .inr ⟨_, back, rfl, hskip _ hskips, ?_, hback, hgrows _ hleaves⟩
    rw [run_cons, hfirst, run_cons, hsecond, hgap]

/-- In code, a blank is skipped. -/
theorem Scanner.SkipsInto.blank {scanner : Scanner} (hmode : scanner.mode = .code) {c : Char}
    (hc : Text.isBlank c = true) {rest : List Char}
    (hrest : (scanner.opening .code c []).SkipsInto rest) : scanner.SkipsInto (c :: rest) := by
  have hstep : scanner.step c = (scanner.opening .code c [], []) := by
    simp [step, hmode, codeStep, hc]
  refine .cons (by simp [hstep]) (by simp [hstep]) ?_ (by rwa [hstep])
  simp only [hstep, hmode, opening_mode, Mode.LeavesBy, reduceCtorEq, if_false]
  exact fun gap hgap => .blank hc hgap

/-- A line feed ends a comment. -/
theorem Scanner.SkipsInto.feed {scanner : Scanner} (hmode : scanner.mode = .comment)
    {rest : List Char} (hrest : (scanner.opening .code '\n' []).SkipsInto rest) :
    scanner.SkipsInto ('\n' :: rest) := by
  have hstep : scanner.step '\n' = (scanner.opening .code '\n' [], []) := by
    simp [step, hmode, codeStep, show Text.isBlank '\n' = true by decide]
  refine .cons (by simp [hstep]) (by simp [hstep]) ?_ (by rwa [hstep])
  simp only [hstep, hmode, opening_mode, Mode.LeavesBy, reduceCtorEq, if_false, if_true]
  exact fun gap hgap => ⟨[], gap, rfl, List.not_mem_nil, hgap⟩

/-- Any other character goes on with a comment. -/
theorem Scanner.SkipsInto.inComment {scanner : Scanner} (hmode : scanner.mode = .comment)
    {c : Char} (hc : c ≠ '\n') {rest : List Char}
    (hrest : (scanner.take .comment c).SkipsInto rest) : scanner.SkipsInto (c :: rest) := by
  have hstep : scanner.step c = (scanner.take .comment c, []) := by
    simp [step, hmode, hc]
  refine .cons (by simp [hstep]) (by simp [hstep]) ?_ (by rwa [hstep])
  simp only [hstep, hmode, take_mode, Mode.LeavesBy, if_true]
  rintro gap ⟨text, below, rfl, htext, hbelow⟩
  exact ⟨c :: text, below, rfl, by simp [htext, hc.symm], hbelow⟩

theorem beginsToken_cons_iff {c : Char} {rest : List Char} :
    beginsToken (c :: rest) = true ↔
      Text.isBlank c = false ∧ ¬ (c = '/' ∧ rest.head? = some '/') := by
  rw [beginsToken.eq_def]
  split
  case h_1 below heq =>
    obtain ⟨rfl, rfl⟩ := List.cons.inj heq
    simp
  case h_2 d below hcomment heq =>
    obtain ⟨rfl, rfl⟩ := List.cons.inj heq
    have hcode : ¬ (c = '/' ∧ rest.head? = some '/') := by
      rintro ⟨rfl, hhead⟩
      obtain ⟨below, rfl⟩ := List.head?_eq_some_iff.mp hhead
      exact hcomment below rfl rfl
    simp [hcode]
  case h_3 heq => cases heq

/-- In code or in a comment, a text is blanks and comments up to its end or up to a token. -/
theorem Scanner.exists_skips (scanner : Scanner)
    (hmode : scanner.mode = .code ∨ scanner.mode = .comment) (text : List Char) :
    scanner.SkipsInto text := by
  -- two slashes are skipped at once, so the induction is on the length
  induction hlength : text.length using Nat.strong_induction_on generalizing scanner text with
  | _ length ih =>
      subst hlength
      rcases text with _ | ⟨c, rest⟩
      · refine .inl ⟨⟨hmode, rfl, rfl⟩, ?_⟩
        rcases hmode with hmode | hmode
        · simp only [hmode, Mode.LeavesBy, reduceCtorEq, if_false]
          exact .blank (by decide) .nil
        · simp only [hmode, Mode.LeavesBy, if_true]
          exact ⟨[], [], rfl, List.not_mem_nil, .nil⟩
      rcases hmode with hmode | hmode
      · by_cases hblank : Text.isBlank c = true
        · exact .blank hmode hblank (ih rest.length (by simp) _ (by simp) rest rfl)
        by_cases hcomment : c = '/' ∧ rest.head? = some '/'
        · obtain ⟨rfl, hhead⟩ := hcomment
          obtain ⟨below, rfl⟩ := List.head?_eq_some_iff.mp hhead
          have hshorter : below.length < ('/' :: '/' :: below).length := by
            rw [List.length_cons, List.length_cons]
            omega
          exact .comment hmode (ih below.length hshorter _ (.inr rfl) below rfl)
        · refine .inr ⟨[], c :: rest, rfl, ⟨.inl hmode, rfl, rfl⟩, hmode,
            beginsToken_cons_iff.mpr ⟨by simpa using hblank, hcomment⟩, ?_⟩
          simp only [hmode, Mode.LeavesBy, reduceCtorEq, if_false]
          exact .nil
      · by_cases hfeed : c = '\n'
        · subst hfeed
          exact .feed hmode (ih rest.length (by simp) _ (by simp) rest rfl)
        · exact .inComment hmode hfeed (ih rest.length (by simp) _ (.inr rfl) rest rfl)

/-! ## From one token to the next -/

/-- The mark that is a token of its own is written as it is. -/
theorem Token.spells_mark {token : Token} {c : Char} (hkind : token.kind = .punctuation)
    (htext : token.text = c.toString) (hc : Text.isBlank c = false) : token.Spells [c] := by
  refine spells_of_word (by simp [hkind]) (by simp [hkind]) (by simp [htext]) ?_
  simpa using hc

/-- A character that opens a token leaves its rest to the text behind. -/
theorem Scanner.exists_completes_of_opening {frames : List Frame} {place : Place} {c : Char}
    {rest : List Char} (hflawless : Flawless ((fresh frames place).reports (c :: rest)))
    {next : Scanner} (hstep : (fresh frames place).step c = (next, []))
    (hstart : next.start = place) (hreads : next.Reads [c])
    (hslash : next.mode = .slash → rest.head? ≠ some '/') :
    ∃ more back token, c :: rest = more ++ back ∧ more ≠ [] ∧
      (fresh frames place).Completes [] more back token := by
  rw [reports, flawless_append] at hflawless
  have hlive : next.Live := by
    rw [← show ((fresh frames place).step c).1 = next by rw [hstep]]
    exact live_step (fresh_live _ _) hflawless.1
  rw [hstep] at hflawless
  obtain ⟨more, back, token, rfl, htoken⟩ :=
    hreads.exists_completes hlive hflawless.2 fun _ hmode => hslash hmode
  refine ⟨c :: more, back, token, rfl, by simp, Completes.cons ?_ ?_ ?_⟩
  · simp [hstep]
  · rw [hstep]
    exact hstart
  · simpa [hstep] using htoken

/-- A character that is a token of its own leaves the text behind it. -/
theorem Scanner.exists_completes_of_mark {frames inner after : List Frame} {place : Place}
    {c : Char} (rest : List Char) (hblank : Text.isBlank c = false) {lexeme : List Char}
    {reports : List Report}
    (hstep : (fresh frames place).step c = (⟨.code, after, place.after c, place, lexeme⟩, reports))
    (hreports : tokensIn reports =
      [⟨.punctuation, c.toString, place.offset, place.offset + c.utf8Size, place.line,
        inner.length⟩])
    (houtside : inTemplate after = false) (hafter : isOpener c = false → after = inner) :
    ∃ more back token, c :: rest = more ++ back ∧ more ≠ [] ∧
      (fresh frames place).Completes [] more back token := by
  refine ⟨[c], rest, _, rfl, by simp, completes_of_step (by rw [hstep, hreports]) (by rw [hstep])
    (by rw [hstep, houtside]) rfl rfl (by rw [hstep]; rfl) ?_ (Token.spells_mark rfl rfl hblank)
    rest⟩
  intro hopens
  rw [hstep, hafter ?_]
  by_contra hopener
  have hcases : c = '(' ∨ c = '[' ∨ c = '{' := by
    simpa only [isOpener, Bool.or_eq_false_iff, not_and_or, Bool.not_eq_false, beq_iff_eq,
      or_assoc] using hopener
  rcases hcases with rfl | rfl | rfl <;> simp [Token.opens, Token.isMark] at hopens

/-- A closing bracket that meets its opening one. -/
theorem Scanner.closer_of_flawless {frames : List Frame} {place : Place} {c : Char}
    (houtside : inTemplate frames = false)
    (hflawless : Flawless ((fresh frames place).closer c).2) :
    ∃ inner, inTemplate inner = false ∧
      (fresh frames place).closer c =
        (⟨.code, inner, place.after c, place, []⟩,
          [.token ⟨.punctuation, c.toString, place.offset, place.offset + c.utf8Size, place.line,
            inner.length⟩]) := by
  unfold closer at hflawless ⊢
  rcases frames with _ | ⟨⟨opener, line⟩ | line, outer⟩
  · simp [fresh, Report.isFlaw] at hflawless
  · have hinner : inTemplate outer = false := by simpa using houtside
    simp only [fresh] at hflawless ⊢
    split_ifs at hflawless ⊢
    · exact ⟨outer, hinner, by simp [opening, markReports, hinner]⟩
    · simp [Report.isFlaw] at hflawless
  · simp at houtside

/-- **A text that begins with a token.**  When no fault follows, the whole token
stands there. -/
theorem Scanner.exists_completes_of_beginsToken {frames : List Frame} {place : Place}
    {text : List Char} (houtside : inTemplate frames = false) (hbegins : beginsToken text = true)
    (hflawless : Flawless ((fresh frames place).reports text)) :
    ∃ more back token, text = more ++ back ∧ more ≠ [] ∧
      (fresh frames place).Completes [] more back token := by
  rcases text with _ | ⟨c, rest⟩
  · cases hbegins
  obtain ⟨hblank, hcomment⟩ := beginsToken_cons_iff.mp hbegins
  have hopening : ∀ mode lexeme, (fresh frames place).opening mode c lexeme =
      ⟨mode, frames, place.after c, place, lexeme⟩ :=
    fun mode lexeme => opening_eq (by exact houtside) mode c lexeme
  have hmarks : tokensIn ((fresh frames place).markReports c) =
      [⟨.punctuation, c.toString, place.offset, place.offset + c.utf8Size, place.line,
        frames.length⟩] := by
    simp [markReports, fresh, houtside, tokensIn, Report.token?]
  have hstep : (fresh frames place).step c = (fresh frames place).codeStep c := rfl
  unfold codeStep at hstep
  simp only [hopening, hblank, Bool.false_eq_true, if_false] at hstep
  -- one case for each kind of character that can begin a token
  split_ifs at hstep with hslash hquote hbacktick hopener hcloser hapostrophe hdigit hword
  · refine exists_completes_of_opening hflawless hstep rfl ?_ ?_
    · simp [Reads, houtside, hblank]
    · exact fun _ hhead => hcomment ⟨hslash, hhead⟩
  · refine exists_completes_of_opening hflawless hstep rfl ?_ (by simp)
    simp only [Reads, houtside]
    exact ⟨[], by rw [hquote], by simp⟩
  · refine exists_completes_of_opening hflawless hstep rfl ?_ (by simp)
    simp [Reads, hbacktick]
  · exact exists_completes_of_mark rest hblank hstep hmarks (by simpa using houtside)
      (by simp [hopener])
  · have hfirst : Flawless ((fresh frames place).closer c).2 := by
      rw [← hstep]
      exact ((flawless_append _ _).mp hflawless).1
    obtain ⟨inner, hinner, hnext⟩ := closer_of_flawless houtside hfirst
    rw [hnext] at hstep
    exact exists_completes_of_mark rest hblank hstep rfl hinner fun _ => rfl
  · exact exists_completes_of_opening hflawless hstep rfl (by simp [Reads, houtside, hblank])
      (by simp)
  · exact exists_completes_of_opening hflawless hstep rfl (by simp [Reads, houtside, hblank])
      (by simp)
  · exact exists_completes_of_opening hflawless hstep rfl (by simp [Reads, houtside, hblank])
      (by simp)
  · exact exists_completes_of_mark rest hblank hstep hmarks houtside fun _ => rfl

end PersistLayer.Syntax
