import Mathlib.Data.Nat.Init
import PersistLayer.Proofs.Scanner.Run

/-!
# Brackets and depth

The tokens of a text without a fault are nested: each is as deep as there are pairs of
brackets around it, and the two brackets of a pair are as deep as the code around the pair
(`Nested`).

While the text is being read some brackets are open, and the tokens to come close them one
after the other (`Unwinds`).  The scanner keeps the same brackets on its stack, except for
those in the interpolations of a template literal, which are no tokens of the text
(`openers`).  Each step leads from the tokens that unwind what is open behind it to those
that unwind what is open in front of it (`Scanner.leads_step`).
-/

namespace PersistLayer.Syntax

/-! ## Nested tokens -/

/-- The bracket that a token is, if it is one. -/
def Token.bracket? (token : Token) : Option Char :=
  if token.kind = .punctuation then
    token.text.toList.head?.filter fun c => isOpener c || isCloser c
  else none

/-- Tokens with matching brackets.  A token is as deep as there are pairs around it, and so are
the brackets of a pair. -/
inductive Nested : Nat → List Token → Prop
  | nil {depth : Nat} : Nested depth []
  | plain {depth : Nat} {token : Token} {rest : List Token} (hplain : token.bracket? = none)
      (hdepth : token.depth = depth) : Nested depth rest → Nested depth (token :: rest)
  | pair {depth : Nat} {opener closer : Token} {c : Char} {inner rest : List Token}
      (hopener : opener.bracket? = some c ∧ isOpener c = true)
      (hcloser : closer.bracket? = some (closerOf c))
      (hdepth : opener.depth = depth ∧ closer.depth = depth) :
      Nested (depth + 1) inner → Nested depth rest →
        Nested depth (opener :: (inner ++ closer :: rest))

/-- The tokens close the open brackets, the latest first, and are nested otherwise. -/
inductive Unwinds : List Char → List Token → Prop
  | nil : Unwinds [] []
  | plain {opened : List Char} {token : Token} {rest : List Token}
      (hplain : token.bracket? = none) (hdepth : token.depth = opened.length) :
      Unwinds opened rest → Unwinds opened (token :: rest)
  | opener {opened : List Char} {c : Char} {token : Token} {rest : List Token}
      (hopener : token.bracket? = some c ∧ isOpener c = true)
      (hdepth : token.depth = opened.length) :
      Unwinds (c :: opened) rest → Unwinds opened (token :: rest)
  | closer {opened : List Char} {c : Char} {token : Token} {rest : List Token}
      (hcloser : token.bracket? = some (closerOf c)) (hdepth : token.depth = opened.length) :
      Unwinds opened rest → Unwinds (c :: opened) (token :: rest)

/-- Nothing is left, or what is left begins with the bracket that closes the latest one. -/
def ClosesLatest : List Char → List Token → Prop
  | [], rest => rest = []
  | c :: opened, rest => ∃ closer more, rest = closer :: more ∧
      closer.bracket? = some (closerOf c) ∧ closer.depth = opened.length ∧ Unwinds opened more

/-- Tokens that close some brackets are nested up to the first of those that close them. -/
theorem Unwinds.exists_nested {opened : List Char} {tokens : List Token}
    (hunwinds : Unwinds opened tokens) :
    ∃ inner rest, tokens = inner ++ rest ∧ Nested opened.length inner ∧
      ClosesLatest opened rest := by
  -- behind a pair the rest of it is read, so the induction is on the number of tokens
  induction hlength : tokens.length using Nat.strong_induction_on generalizing opened tokens with
  | _ length ih =>
      subst hlength
      cases hunwinds with
      | nil => exact ⟨[], [], rfl, .nil, rfl⟩
      | plain hplain hdepth hrest =>
          obtain ⟨inner, rest, rfl, hinner, hcloses⟩ := ih _ (by simp) hrest rfl
          exact ⟨_ :: inner, rest, rfl, .plain hplain hdepth hinner, hcloses⟩
      | opener hopener hdepth hrest =>
          obtain ⟨inner, _, rfl, hinner, closer, more, rfl, hcloser, hbehind, hmore⟩ :=
            ih _ (by simp) hrest rfl
          obtain ⟨inner', rest, rfl, hinner', hcloses⟩ := ih more.length (by simp; omega) hmore rfl
          exact ⟨_, rest, by simp, .pair hopener hcloser ⟨hdepth, hbehind⟩ hinner hinner', hcloses⟩
      | closer hcloser hdepth hrest =>
          exact ⟨[], _, rfl, .nil, _, _, rfl, hcloser, hdepth, hrest⟩

/-- Tokens that leave nothing open are nested. -/
theorem Unwinds.nested {tokens : List Token} (hunwinds : Unwinds [] tokens) : Nested 0 tokens := by
  obtain ⟨inner, rest, rfl, hinner, rfl⟩ := hunwinds.exists_nested
  simpa using hinner

/-! ## What the scanner has open -/

/-- The brackets among the frames that are open as tokens: outside all template literals. -/
def openers : List Frame → List Char
  | [] => []
  | .bracket opener _ :: outer =>
    if inTemplate outer then openers outer else opener :: openers outer
  | .template _ :: outer => openers outer

theorem length_openers {frames : List Frame} (houtside : inTemplate frames = false) :
    (openers frames).length = frames.length := by
  induction frames with
  | nil => rfl
  | cons frame outer ih =>
      cases frame with
      | bracket opener line =>
          have houter : inTemplate outer = false := by simpa using houtside
          simp [openers, houter, ih houter]
      | template line => simp at houtside

/-- A slash or an apostrophe that is being read is no bracket. -/
def Scanner.LoneMark (scanner : Scanner) : Prop :=
  inTemplate scanner.frames = false →
    (scanner.mode = .slash → scanner.lexeme = ['/']) ∧
      (scanner.mode = .quote → scanner.lexeme = ['\''])

/-- What is reported leads from tokens that close what is open behind a step to tokens that
close what is open in front of it. -/
def Scanner.Leads (scanner : Scanner) (outcome : Scanner × List Report) : Prop :=
  outcome.1.LoneMark ∧
    ∀ rest, Unwinds (openers outcome.1.frames) rest →
      Unwinds (openers scanner.frames) (tokensIn outcome.2 ++ rest)

theorem Scanner.loneMark_of_mode {scanner : Scanner} (hslash : scanner.mode ≠ .slash)
    (hquote : scanner.mode ≠ .quote) : scanner.LoneMark :=
  fun _ => ⟨fun h => absurd h hslash, fun h => absurd h hquote⟩

/-- A step without a token that leaves the same brackets open. -/
theorem Scanner.leads_of_silent {scanner next : Scanner} {reports : List Report}
    (hmark : next.LoneMark) (hopeners : openers next.frames = openers scanner.frames)
    (hsilent : tokensIn reports = []) : scanner.Leads (next, reports) := by
  refine ⟨hmark, fun rest hrest => ?_⟩
  rw [hsilent, ← hopeners]
  exact hrest

section Steps

variable {scanner : Scanner} {c : Char}

/-- A token that is no bracket leaves the same brackets open. -/
theorem Scanner.unwinds_tokenReports {kind : TokenKind} (stop : Nat) {rest : List Token}
    (hplain : inTemplate scanner.frames = false → kind = .punctuation →
      ∃ c, scanner.lexeme = [c] ∧ isOpener c = false ∧ isCloser c = false)
    (hrest : Unwinds (openers scanner.frames) rest) :
    Unwinds (openers scanner.frames) (tokensIn (scanner.tokenReports kind stop) ++ rest) := by
  unfold tokenReports
  split_ifs with hinside
  · exact hrest
  · have houtside : inTemplate scanner.frames = false := by simpa using hinside
    refine .plain ?_ (length_openers houtside).symm hrest
    unfold Token.bracket?
    split_ifs with hkind
    · obtain ⟨c, hlexeme, hopener, hcloser⟩ := hplain houtside hkind
      simp [hlexeme, hopener, hcloser]
    · rfl

theorem bracket?_mark (c : Char) (start stop line depth : Nat) :
    (⟨.punctuation, c.toString, start, stop, line, depth⟩ : Token).bracket? =
      if isOpener c || isCloser c then some c else none := by
  simp [Token.bracket?, Option.filter]

/-- A mark that is no bracket leaves the same brackets open. -/
theorem Scanner.unwinds_markReports (hopener : isOpener c = false) (hcloser : isCloser c = false)
    {rest : List Token} (hrest : Unwinds (openers scanner.frames) rest) :
    Unwinds (openers scanner.frames) (tokensIn (scanner.markReports c) ++ rest) := by
  unfold markReports
  split_ifs with hinside
  · exact hrest
  · have houtside : inTemplate scanner.frames = false := by simpa using hinside
    refine .plain ?_ (length_openers houtside).symm hrest
    rw [bracket?_mark, hopener, hcloser]
    rfl

/-- An opening bracket is open behind its token. -/
theorem Scanner.unwinds_opener (hopener : isOpener c = true) (line : Nat) {rest : List Token}
    (hrest : Unwinds (openers (.bracket c line :: scanner.frames)) rest) :
    Unwinds (openers scanner.frames) (tokensIn (scanner.markReports c) ++ rest) := by
  unfold markReports
  simp only [openers] at hrest
  split_ifs at hrest ⊢ with hinside
  · exact hrest
  · have houtside : inTemplate scanner.frames = false := by simpa using hinside
    refine .opener ⟨?_, hopener⟩ (length_openers houtside).symm hrest
    rw [bracket?_mark, hopener]
    rfl

theorem Scanner.leads_closer (hflawless : Flawless (scanner.closer c).2) (hc : isCloser c = true) :
    scanner.Leads (scanner.closer c) := by
  unfold closer at hflawless ⊢
  rcases hframes : scanner.frames with _ | ⟨⟨opener, line⟩ | line, outer⟩
  · -- nothing is open
    simp [hframes, Report.isFlaw] at hflawless
  · -- a bracket is open, and without a fault it is one of the same kind
    simp only [hframes, flawless_append] at hflawless ⊢
    obtain ⟨hmatch, -⟩ := hflawless
    have hcloser : closerOf opener = c := by
      by_contra hother
      simp [hother, Report.isFlaw] at hmatch
    refine ⟨loneMark_of_mode (by simp) (by simp), fun rest hrest => ?_⟩
    rw [opening_frames] at hrest
    simp only [hcloser, if_true, List.nil_append, markReports, hframes, openers]
    split_ifs with hinside
    · exact hrest
    · have houtside : inTemplate outer = false := by simpa using hinside
      refine .closer ?_ (length_openers houtside).symm hrest
      rw [bracket?_mark, hc, Bool.or_true, hcloser]
      rfl
  · -- an interpolation is open, whose braces are part of the template literal
    simp only [hframes] at hflawless ⊢
    split_ifs at hflawless ⊢
    · exact leads_of_silent (loneMark_of_mode (by simp) (by simp)) (by simp) rfl
    · simp [Report.isFlaw] at hflawless

theorem Scanner.loneMark_opening {mode : Mode} (hslash : mode = .slash → c = '/')
    (hquote : mode = .quote → c = '\'') : (scanner.opening mode c [c]).LoneMark := by
  intro houtside
  rw [opening_frames] at houtside
  rw [opening_eq houtside]
  exact ⟨fun h => by rw [hslash h], fun h => by rw [hquote h]⟩

theorem Scanner.leads_codeStep (hflawless : Flawless (scanner.codeStep c).2) :
    scanner.Leads (scanner.codeStep c) := by
  unfold codeStep at hflawless ⊢
  split_ifs at hflawless ⊢ with hblank hslash hquote hbacktick hopener hcloser hapostrophe
  · exact leads_of_silent (loneMark_of_mode (by simp) (by simp)) (by simp) rfl
  · exact leads_of_silent (loneMark_opening (fun _ => hslash) nofun) (by simp) rfl
  · exact leads_of_silent (loneMark_of_mode (by simp) (by simp)) (by simp) rfl
  · exact leads_of_silent (loneMark_of_mode (by simp) (by simp)) rfl rfl
  · exact ⟨loneMark_of_mode (by simp) (by simp), fun rest => unwinds_opener hopener _⟩
  · exact leads_closer hflawless hcloser
  · exact leads_of_silent (loneMark_opening nofun fun _ => hapostrophe) (by simp) rfl
  · exact leads_of_silent (loneMark_of_mode (by simp) (by simp)) (by simp) rfl
  · exact leads_of_silent (loneMark_of_mode (by simp) (by simp)) (by simp) rfl
  · refine ⟨loneMark_of_mode (by simp) (by simp), fun rest hrest => ?_⟩
    rw [opening_frames] at hrest
    exact unwinds_markReports (by simpa using hopener) (by simpa using hcloser) hrest

theorem Scanner.leads_endToken {kind : TokenKind}
    (hplain : inTemplate scanner.frames = false → kind = .punctuation →
      ∃ c, scanner.lexeme = [c] ∧ isOpener c = false ∧ isCloser c = false)
    (hflawless : Flawless (scanner.endToken kind c).2) :
    scanner.Leads (scanner.endToken kind c) := by
  obtain ⟨hmark, hleads⟩ := leads_codeStep ((flawless_append _ _).mp hflawless).2
  refine ⟨hmark, fun rest hrest => ?_⟩
  rw [endToken, tokensIn_append, List.append_assoc]
  exact unwinds_tokenReports _ hplain (hleads rest hrest)

theorem Scanner.leads_stringStep {line : Nat} {escaped : Bool}
    (hflawless : Flawless (scanner.stringStep line escaped c).2) :
    scanner.Leads (scanner.stringStep line escaped c) := by
  unfold stringStep at hflawless ⊢
  split_ifs at hflawless ⊢
  · exact leads_of_silent (loneMark_of_mode (by simp) (by simp)) rfl rfl
  · refine ⟨loneMark_of_mode (by simp) (by simp), fun rest hrest => ?_⟩
    rw [pass_frames] at hrest
    exact unwinds_tokenReports _ nofun hrest
  · simp [Report.isFlaw] at hflawless
  · exact leads_of_silent (loneMark_of_mode (by simp) (by simp)) (by simp) rfl
  · exact leads_of_silent (loneMark_of_mode (by simp) (by simp)) rfl rfl

theorem Scanner.leads_templateStep {dollar : Bool} {line : Nat} {outer : List Frame}
    (hframes : scanner.frames = .template line :: outer) :
    scanner.Leads (scanner.templateStep dollar c) := by
  unfold templateStep
  split_ifs
  · refine ⟨loneMark_of_mode (by simp) (by simp), fun rest hrest => ?_⟩
    rw [pass_frames] at hrest
    have htoken := @unwinds_tokenReports { scanner with frames := scanner.frames.tail } .template
      (scanner.place.offset + c.utf8Size) rest nofun hrest
    rw [hframes] at htoken ⊢
    exact htoken
  · exact leads_of_silent (loneMark_of_mode (by simp) (by simp)) rfl rfl
  · exact leads_of_silent (loneMark_of_mode (by simp) (by simp)) rfl rfl
  · exact leads_of_silent (loneMark_of_mode (by simp) (by simp)) rfl rfl

/-- **Each step** reports the brackets that it opens and closes. -/
theorem Scanner.leads_step (hlive : scanner.Live) (hmark : scanner.LoneMark)
    (hflawless : Flawless (scanner.step c).2) : scanner.Leads (scanner.step c) := by
  cases hmode : scanner.mode with
  | code =>
      simp only [step, hmode] at hflawless ⊢
      exact leads_codeStep hflawless
  | slash =>
      simp only [step, hmode] at hflawless ⊢
      split_ifs at hflawless ⊢
      · exact leads_of_silent (loneMark_of_mode (by simp) (by simp)) rfl rfl
      · -- a slash that is no comment is a mark, but not a bracket
        exact leads_endToken (fun houtside _ => ⟨'/', (hmark houtside).1 hmode, rfl, rfl⟩) hflawless
  | quote =>
      simp only [step, hmode] at hflawless ⊢
      split_ifs at hflawless ⊢
      · exact leads_of_silent (loneMark_of_mode (by simp) (by simp)) rfl rfl
      · exact leads_endToken (fun houtside _ => ⟨'\'', (hmark houtside).2 hmode, rfl, rfl⟩)
          hflawless
  | comment =>
      simp only [step, hmode] at hflawless ⊢
      split_ifs at hflawless ⊢
      · exact leads_codeStep hflawless
      · exact leads_of_silent (loneMark_of_mode (by simp) (by simp)) rfl rfl
  | identifier | number =>
      simp only [step, hmode] at hflawless ⊢
      split_ifs at hflawless ⊢
      · exact leads_of_silent (loneMark_of_mode (by simp) (by simp)) rfl rfl
      · exact leads_endToken (fun _ hkind => absurd hkind (by decide)) hflawless
  | string line escaped =>
      simp only [step, hmode] at hflawless ⊢
      exact leads_stringStep hflawless
  | template dollar =>
      obtain ⟨line, outer, hframes⟩ : ∃ line outer, scanner.frames = .template line :: outer := by
        simpa [Live, hmode] using hlive
      simp only [step, hmode]
      exact leads_templateStep hframes
  | halted => simp [Live, hmode] at hlive

/-- At the end of a text nothing is open. -/
theorem Scanner.unwinds_finish (hlive : scanner.Live) (hmark : scanner.LoneMark)
    (hflawless : Flawless scanner.finish) :
    Unwinds (openers scanner.frames) (tokensIn scanner.finish) := by
  obtain ⟨hframes, hcode⟩ := of_isClosed hlive ((flawless_finish_iff hlive).mp hflawless)
  have hend : Unwinds (openers scanner.frames) [] := by
    rw [hframes]
    exact .nil
  have hrest : finish scanner = scanner.pending := by
    rw [finish_of_isCode hcode, hframes]
    exact List.append_nil _
  rw [hrest, ← List.append_nil (tokensIn _), pending]
  split
  · rename_i kind hkind
    refine unwinds_tokenReports _ (fun houtside hpunctuation => ?_) hend
    subst hpunctuation
    cases hmode : scanner.mode with
    | slash => exact ⟨'/', (hmark houtside).1 hmode, rfl, rfl⟩
    | quote => exact ⟨'\'', (hmark houtside).2 hmode, rfl, rfl⟩
    | _ => simp [hmode, Mode.pendingKind?] at hkind
  · exact hend

/-- **The tokens of a whole run** close what is open in front of it. -/
theorem Scanner.unwinds_reports (hlive : scanner.Live) (hmark : scanner.LoneMark)
    {text : List Char} (hflawless : Flawless (scanner.reports text)) :
    Unwinds (openers scanner.frames) (tokensIn (scanner.reports text)) := by
  induction text generalizing scanner with
  | nil => exact unwinds_finish hlive hmark hflawless
  | cons c rest ih =>
      rw [reports, flawless_append] at hflawless
      obtain ⟨hnext, hleads⟩ := leads_step hlive hmark hflawless.1
      rw [reports, tokensIn_append]
      exact hleads _ (ih (live_step hlive hflawless.1) hnext hflawless.2)

end Steps

/-- The tokens of a text without a fault are nested. -/
theorem nested_of_tokenize {text : String} {scanned : Scanned}
    (hscanned : tokenize text = .ok scanned) : Nested 0 scanned.tokens := by
  obtain ⟨hflawless, rfl⟩ := tokenize_eq_ok_iff.mp hscanned
  rw [scan_eq_reports] at hflawless ⊢
  exact (Scanner.unwinds_reports (Scanner.fresh_live [] origin)
    (Scanner.loneMark_of_mode nofun nofun) hflawless).nested

end PersistLayer.Syntax
