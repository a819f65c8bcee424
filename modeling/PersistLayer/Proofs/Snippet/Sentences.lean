import PersistLayer.Proofs.Scanner.LiteralLines
import PersistLayer.Proofs.Snippet.Braced
import PersistLayer.Proofs.Snippet.Rereading

/-!
# Statements below each other

A sentence is one statement on lines of its own: it begins with a token and ends with one,
nothing is left open behind it, and its tokens are one construct.  A body that is written as
sentences below each other is read as these sentences, line for line
(`statementsIn_of_sentences`).

The induction goes down the body.  A sentence leaves to the next one a scanner that has read
nothing, on a line of its own, so the tokens of a sentence are those it has alone but for
their places (`Neutral.sameRole`), and the text that they reach over is the sentence.
-/

namespace PersistLayer.Syntax

/-! ## One construct in front of others -/

/-- What follows a construct keeps it from ending only if it carries it on. -/
theorem Token.endsConstruct_of_next {token : Token} {form : Form} {next : Option Token}
    (hnext : ∀ following ∈ next, following.isWordIn clauseKeywords = false) :
    token.endsConstruct form next = token.endsConstruct form none := by
  cases next with
  | none => rfl
  | some following => simp [endsConstruct, hnext following rfl]

/-- Tokens that are one construct are the first one when others follow. -/
theorem constructsOnto_append_of_one {tokens back run : List Token} {form : Form}
    (hone : constructsOnto run form tokens = ([run.reverse ++ tokens], []))
    (hback : ∀ following ∈ back.head?, following.isWordIn clauseKeywords = false) :
    constructsOnto run form (tokens ++ back) =
      ((run.reverse ++ tokens) :: (constructs back).1, (constructs back).2) := by
  induction tokens generalizing run form with
  | nil => simp [constructsOnto] at hone
  | cons token rest ih =>
      simp only [constructsOnto, List.cons_append] at hone ⊢
      by_cases hrest : rest = []
      · -- the last of the tokens ends the construct, and what follows is no clause of it
        subst hrest
        simp only [List.head?_nil] at hone
        by_cases hends : token.endsConstruct (form.after token) none = true
        · rw [List.nil_append, Token.endsConstruct_of_next hback, if_pos hends]
          simp [constructs]
        · simp [hends, constructsOnto] at hone
      · have hhead : (rest ++ back).head? = rest.head? := List.head?_append_of_ne_nil _ hrest
        rw [hhead]
        split_ifs at hone ⊢ with hends
        · -- the construct would end before all of its tokens are read
          obtain ⟨hcomplete, -⟩ := Prod.mk.inj hone
          have hfirst := (List.cons.inj hcomplete).1
          simp [hrest] at hfirst
        · have hrun : run.reverse ++ token :: rest = (token :: run).reverse ++ rest := by simp
          rw [hrun] at hone ⊢
          exact ih hone

/-! ## Texts that stand anywhere -/

/-- A text without the mark of template literals does not lead into one. -/
theorem Scanner.inTemplate_step {scanner : Scanner} {c : Char} (hc : c ≠ backtick)
    (houtside : inTemplate scanner.frames = false) (hlive : scanner.Live) :
    inTemplate (scanner.step c).1.frames = false := by
  have hcloser : inTemplate (scanner.closer c).1.frames = false := by
    unfold closer
    rcases hframes : scanner.frames with _ | ⟨⟨opener, line⟩ | line, outer⟩
    · simp [hframes]
    · simpa [hframes] using houtside
    · simp [hframes] at houtside
  have hcode : inTemplate (scanner.codeStep c).1.frames = false := by
    unfold codeStep
    split_ifs <;> simp_all
  cases hmode : scanner.mode with
  | template dollar =>
      -- the scanner would be in a literal already
      obtain ⟨line, outer, hframes⟩ : ∃ line outer, scanner.frames = .template line :: outer := by
        simpa [Live, hmode] using hlive
      simp [hframes] at houtside
  | string line escaped =>
      simp only [step, hmode, stringStep]
      split_ifs <;> simpa using houtside
  | halted => simpa [step, hmode] using houtside
  | _ =>
      simp only [step, hmode, endToken]
      try split_ifs
      all_goals first | exact hcode | simpa using houtside

/-- Where no template literal begins, no line begins inside one. -/
theorem literalLinesIn_eq_nil {place : Place} {text : List Char}
    (hflawless : Flawless ((Scanner.fresh [] place).reports text)) (htext : backtick ∉ text) :
    literalLinesIn ((Scanner.fresh [] place).reports text) = [] := by
  -- the scanner outside template literals stays outside, and a literal line begins inside one
  have hstays : ∀ {scanner : Scanner} {front : List Char}, scanner.Live →
      inTemplate scanner.frames = false → backtick ∉ front → Flawless (scanner.emits front) →
        (scanner.run front).Live ∧ inTemplate (scanner.run front).frames = false := by
    intro scanner front hlive houtside hfront hemits
    induction front generalizing scanner with
    | nil => exact ⟨hlive, houtside⟩
    | cons c rest ih =>
        rw [List.mem_cons, not_or] at hfront
        rw [Scanner.emits_cons, flawless_append] at hemits
        exact ih (Scanner.live_step hlive hemits.1)
          (Scanner.inTemplate_step (Ne.symm hfront.1) houtside hlive) hfront.2 hemits.2
  apply List.eq_nil_iff_forall_not_mem.mpr
  intro line hline
  obtain ⟨front, back, rfl, -, dollar, hmode⟩ :=
    (mem_literalLinesIn_iff (Scanner.fresh_live _ _) hflawless line).mp hline
  rw [Scanner.reports_append, flawless_append] at hflawless
  obtain ⟨hlive, houtside⟩ := hstays (Scanner.fresh_live [] place) rfl
    (fun hmem => htext (List.mem_append_left _ hmem)) hflawless.1
  obtain ⟨first, outer, hframes⟩ : ∃ first outer,
      ((Scanner.fresh [] place).run front).frames = .template first :: outer := by
    simpa [Scanner.Live, hmode] using hlive
  simp [hframes] at houtside

section Neutral

variable {text : String} (hneutral : Neutral text) (place : Place)

include hneutral

/-- Behind a neutral text code is read, with nothing open. -/
theorem Neutral.behind :
    ((Scanner.fresh [] place).run text.toList).frames = [] ∧
      ((Scanner.fresh [] place).run text.toList).mode.isCode = true ∧
      ((Scanner.fresh [] place).run text.toList).mode.phase = .code := by
  obtain ⟨-, hlive, houtline⟩ := hneutral.run_eq place
  obtain ⟨hframes, hcode⟩ := Scanner.of_isClosed hlive (by rw [houtline]; rfl)
  exact ⟨hframes, hcode, congrArg Outline.phase houtline⟩

theorem Neutral.flawless_reports : Flawless ((Scanner.fresh [] place).reports text.toList) :=
  (Scanner.flawless_reports_iff (Scanner.fresh_live [] place) _).mpr
    ⟨.initial, hneutral [], rfl⟩

/-- A neutral text that begins with a token and ends with one reaches from one to the other. -/
theorem Neutral.isWhole (hbegins : beginsToken text.toList = true)
    (hlast : ∀ c ∈ text.toList.getLast?, Text.isBlank c = false) : IsWhole place text.toList := by
  obtain ⟨hframes, hcode, hphase⟩ := hneutral.behind place
  refine ⟨hbegins, hlast, ?_, hframes, hcode, ?_⟩
  · rw [← Scanner.reports_eq_yield hcode hframes]
    exact hneutral.flawless_reports place
  · intro hcomment
    rw [hcomment] at hphase
    cases hphase

/-- What stands below a neutral text is read by a scanner that has read nothing. -/
theorem Neutral.reports_below (back : List Char) :
    (Scanner.fresh [] place).reports (text.toList ++ '\n' :: back) =
      (Scanner.fresh [] place).reports text.toList ++
        (Scanner.fresh [] (place.afterText (text.toList ++ ['\n']))).reports back := by
  obtain ⟨hframes, hcode, hphase⟩ := hneutral.behind place
  have hstops : ((Scanner.fresh [] place).run text.toList).StopsBefore ('\n' :: back) := by
    refine ⟨hcode, by rw [hframes]; rfl, ?_⟩
    rintro _ ⟨rfl⟩
    exact Scanner.goesOnWith_of_phase hphase (by decide) (by decide)
  have hplace := Scanner.run_place (Scanner.fresh_live [] place) (hneutral.run_eq place).1
  have hblank : ∀ c ∈ ['\n'], Text.isBlank c = true := by
    intro c hc
    rw [List.mem_singleton.mp hc]
    decide
  obtain ⟨hskips, hgap⟩ := Scanner.skips_of_blanks [] (place.afterText text.toList) hblank
  calc (Scanner.fresh [] place).reports (text.toList ++ '\n' :: back)
      = (Scanner.fresh [] place).yield text.toList ++
          (Scanner.fresh [] (place.afterText text.toList)).reports ('\n' :: back) := by
        rw [Scanner.reports_append_of_stopsBefore hstops, hframes, hplace, Scanner.fresh_place]
    _ = (Scanner.fresh [] place).reports text.toList ++
          (Scanner.fresh [] (place.afterText text.toList)).reports (['\n'] ++ back) := by
        rw [Scanner.reports_eq_yield hcode hframes, List.singleton_append]
    _ = _ := by rw [hskips.reports_eq hgap rfl, Place.afterText_append]

/-- The tokens of a neutral text play the same roles wherever it stands. -/
theorem Neutral.sameRole : List.Forall₂ Token.SameRole (tokensIn (scan text.toList))
    (tokensIn ((Scanner.fresh [] place).reports text.toList)) := by
  have htokens := tokensIn_alike (hneutral.reports_alike place)
  exact (htokens.imp fun _ _ halike => halike.sameRole.symm).flip

end Neutral

/-! ## Sentences -/

/-- A text begins with a character that can be seen and begins no comment. -/
def BeginsVisibly (text : String) : Prop :=
  ∃ c rest, text.toList = c :: rest ∧ Text.isBlank c = false ∧ c ≠ '/'

/-- A text ends with a character that can be seen. -/
def EndsVisibly (text : String) : Prop :=
  ∃ c, text.toList.getLast? = some c ∧ Text.isBlank c = false

theorem BeginsVisibly.append {front : String} (hfront : BeginsVisibly front) (back : String) :
    BeginsVisibly (front ++ back) := by
  obtain ⟨c, rest, htext, hc⟩ := hfront
  exact ⟨c, rest ++ back.toList, by simp [htext], hc⟩

theorem BeginsVisibly.textOfLines {line : String} (hline : BeginsVisibly line)
    (rest : List String) : BeginsVisibly (textOfLines (line :: rest)) := by
  by_cases hrest : rest = []
  · subst hrest
    rw [textOfLines_singleton]
    exact hline
  · rw [textOfLines_cons hrest, String.append_assoc]
    exact hline.append _

theorem endsVisibly_append (front : String) {back : String} (hback : EndsVisibly back) :
    EndsVisibly (front ++ back) := by
  obtain ⟨c, hlast, hc⟩ := hback
  exact ⟨c, getLast?_append_eq hlast, hc⟩

/-- Lines of code as a snippet. -/
def Snippet.ofLines (lines : List String) : Snippet := ⟨lines.map fun line => ⟨line, false⟩⟩

/-- Lines that are one statement: nothing is open behind them, no literal goes over a line
break, and the first line begins as every line ends, with no blank. -/
structure IsSentence (lines : List String) : Prop where
  neutral : Neutral (textOfLines lines)
  one : IsOne (tokensIn (scan (textOfLines lines).toList))
  literal : backtick ∉ (textOfLines lines).toList
  begins : BeginsVisibly (textOfLines lines)
  feeds : ∀ line ∈ lines, '\n' ∉ line.toList
  ends : ∀ line ∈ lines, EndsVisibly line

/-- The text does not carry on the statement above it. -/
def BeginsAnew (text : String) : Prop :=
  ∀ first ∈ (tokensIn (scan text.toList)).head?, first.isWordIn clauseKeywords = false

/-- Whether a text carries on the statement above it is seen from its first word. -/
theorem beginsAnew_of_prefix {front : String} {first : Token} {rest : List Token}
    (hfront : tokensIn (Scanner.initial.emits front.toList) = first :: rest)
    (hfirst : first.isWordIn clauseKeywords = false) (back : String) :
    BeginsAnew (front ++ back) := by
  intro token htoken
  rw [scan_eq_reports, String.toList_append, Scanner.reports_append, tokensIn_append,
    hfront] at htoken
  obtain rfl : first = token := by simpa using htoken
  exact hfirst

/-! ## Sentences with one semicolon -/

/-- Tokens that are neither semicolons nor closing braces end no construct. -/
theorem exists_formBehind {tokens : List Token}
    (htokens : ∀ token ∈ tokens, token.isMark ";" = false ∧ token.isMark "\x7d" = false)
    (form : Form) : ∃ behind, formBehind form tokens = some behind := by
  induction tokens generalizing form with
  | nil => exact ⟨form, rfl⟩
  | cons token rest ih =>
      obtain ⟨hsemicolon, hbrace⟩ := htokens token List.mem_cons_self
      have hgoes : token.endsConstruct (form.after token) none = false := by
        simp [Token.endsConstruct, hsemicolon, hbrace]
      rw [formBehind, hgoes]
      exact ih (fun other h => htokens other (List.mem_cons_of_mem _ h)) _

/-- A text is one construct if its only semicolon is at its end and no brace closes in it. -/
theorem isOne_of_semicolon {text : String} {body : List Char} (hneutral : Neutral text)
    (hbody : text.toList = body ++ [';']) (hsemicolon : ';' ∉ body) (hbrace : '\x7d' ∉ body) :
    IsOne (tokensIn (scan text.toList)) := by
  obtain ⟨hflawless, htokens⟩ := reports_of_semicolon hneutral hbody origin
  rw [← Scanner.initial_eq_fresh, ← hbody, ← scan_eq_reports] at htokens
  -- a token that is a mark is written as it in the text
  have hmarks : ∀ token ∈ tokensIn (Scanner.initial.reports body), ∀ c, c ∉ body →
      token.isMark c.toString = false := by
    intro token htoken c hc
    by_contra hmark
    obtain ⟨front, source, back, rfl, hspells, -⟩ := exists_source rfl hflawless htoken
    simp only [Bool.not_eq_false, Token.isMark, Bool.and_eq_true, beq_iff_eq] at hmark
    simp only [Token.Spells, hmark.1, hmark.2] at hspells
    apply hc
    rw [hspells.1]
    simp
  obtain ⟨form, hform⟩ := exists_formBehind (fun token htoken =>
    ⟨hmarks token htoken ';' hsemicolon, hmarks token htoken '\x7d' hbrace⟩) .undecided
  rw [IsOne, constructs, htokens]
  exact constructsOnto_of_formBehind hform (Token.endsConstruct_semicolon rfl rfl _ _) []

/-- A character that ends neither a construct nor a line and begins no literal that goes over
lines. -/
def isInner (c : Char) : Bool := !(c == ';' || c == '\x7d' || c == '\n' || c == backtick)

theorem not_mem_of_isInner {text : List Char} (htext : text.all isInner = true) {c : Char}
    (hc : isInner c = false) : c ∉ text := by
  intro hmem
  rw [List.all_eq_true.mp htext c hmem] at hc
  cases hc

theorem all_isInner_intercalate {separator : String}
    (hseparator : separator.toList.all isInner = true) {texts : List String}
    (htexts : ∀ text ∈ texts, text.toList.all isInner = true) :
    (separator.intercalate texts).toList.all isInner = true := by
  rw [List.all_eq_true]
  intro c hc
  by_contra hout
  rw [Bool.not_eq_true] at hout
  exact not_mem_intercalate (not_mem_of_isInner hseparator hout)
    (fun text htext => not_mem_of_isInner (htexts text htext) hout) hc

/-- **Lines that end with their only semicolon are a statement.** -/
theorem isSentence_of_semicolon {front : List String} {last : String}
    (hneutral : Neutral (textOfLines (front ++ [last ++ ";"])))
    (hinner : ∀ line ∈ front ++ [last], line.toList.all isInner = true)
    (hbegins : BeginsVisibly (textOfLines (front ++ [last ++ ";"])))
    (hends : ∀ line ∈ front, EndsVisibly line) :
    IsSentence (front ++ [last ++ ";"]) := by
  have hbody : (textOfLines (front ++ [last ++ ";"])).toList =
      (textOfLines (front ++ [last])).toList ++ [';'] := by
    simp [textOfLines_concat]
  -- before the last character stand neither semicolons nor brackets and backticks
  have hnone : ∀ c, isInner c = false → ∀ line ∈ front ++ [last], c ∉ line.toList :=
    fun c hc line hline => not_mem_of_isInner (hinner line hline) hc
  have htext : ∀ c, isInner c = false → c ≠ '\n' → c ∉ (textOfLines (front ++ [last])).toList :=
    fun c hc hfeed => not_mem_intercalate (by simpa using hfeed) (hnone c hc)
  refine ⟨hneutral, ?_, ?_, hbegins, ?_, ?_⟩
  · exact isOne_of_semicolon hneutral hbody (htext ';' (by decide) (by decide))
      (htext '\x7d' (by decide) (by decide))
  · rw [hbody, List.mem_append, not_or]
    exact ⟨htext backtick (by decide) (by decide), by decide⟩
  · rw [List.forall_mem_append, List.forall_mem_singleton]
    have hfeeds := hnone '\n' (by decide)
    rw [List.forall_mem_append, List.forall_mem_singleton] at hfeeds
    refine ⟨hfeeds.1, ?_⟩
    rw [String.toList_append, List.mem_append, not_or]
    exact ⟨hfeeds.2, by decide⟩
  · rw [List.forall_mem_append, List.forall_mem_singleton]
    exact ⟨hends, endsVisibly_append last ⟨';', by rfl, by decide⟩⟩

/-- One statement on one line.  Nothing is left open, the semicolon at the end is the only
one, and it begins with a token. -/
structure IsLine (line : String) : Prop where
  neutral : Neutral line
  ends : ∃ body : String, line = body ++ ";" ∧ body.toList.all isInner = true
  begins : BeginsVisibly line

theorem IsLine.isSentence {line : String} (hline : IsLine line) : IsSentence [line] := by
  obtain ⟨body, rfl, hinner⟩ := hline.ends
  apply @isSentence_of_semicolon []
  · rw [List.nil_append, textOfLines_singleton]
    exact hline.neutral
  · rw [List.nil_append, List.forall_mem_singleton]
    exact hinner
  · rw [List.nil_append, textOfLines_singleton]
    exact hline.begins
  · exact List.forall_mem_nil _

/-! ## Reading a sentence -/

section Sentence

variable {lines : List String} (hsentence : IsSentence lines)

include hsentence

theorem IsSentence.ne_nil : lines ≠ [] := by
  rintro rfl
  obtain ⟨c, rest, htext, -⟩ := hsentence.begins
  cases htext

theorem IsSentence.isWhole (place : Place) : IsWhole place (textOfLines lines).toList := by
  apply hsentence.neutral.isWhole place
  · obtain ⟨c, rest, htext, hblank, hslash⟩ := hsentence.begins
    rw [htext, beginsToken_cons_iff]
    exact ⟨hblank, fun h => hslash h.1⟩
  · intro c hc
    obtain ⟨front, last, rfl⟩ := (List.eq_nil_or_concat lines).resolve_left hsentence.ne_nil
    rw [List.concat_eq_append] at hc hsentence
    obtain ⟨d, hd, hblank⟩ := hsentence.ends last (by simp)
    have hlast := @getLast?_textOfLines (front ++ [last]) last d (by simp) hd
    obtain rfl : d = c := Option.some.inj (hlast.symm.trans hc)
    exact hblank

/-- The lines of a sentence have no indent in common. -/
theorem IsSentence.dedented : (Snippet.ofLines lines).Dedented := by
  have hvisible : ∀ line ∈ lines, Text.allBlank line.toList = false := by
    intro line hline
    obtain ⟨c, hc, hblank⟩ := hsentence.ends line hline
    rw [Text.allBlank, List.all_eq_false]
    exact ⟨c, List.mem_of_getLast? hc, by simp [hblank]⟩
  have hlines : ∀ line ∈ (Snippet.ofLines lines).lines, line.text ∈ lines := by
    intro line hline
    obtain ⟨text, htext, rfl⟩ := List.mem_map.mp hline
    exact htext
  refine ⟨by simpa [Snippet.ofLines] using hsentence.ne_nil, ?_, ?_, ?_, ?_⟩
  · intro line hline
    exact hsentence.feeds _ (hlines line hline)
  · intro line hline _
    exact hvisible _ (hlines line hline)
  · intro line hline _
    rw [Text.trimEnd_eq_self_iff]
    obtain ⟨c, hc, hblank⟩ := hsentence.ends _ (hlines line hline)
    rintro _ hlast
    rw [Option.mem_def, hc] at hlast
    rw [← Option.some.inj hlast]
    exact hblank
  · -- the first line is the one without an indent
    intro _ _ _
    obtain ⟨c, rest, htext, hblank, -⟩ := hsentence.begins
    obtain ⟨first, others, rfl⟩ := List.exists_cons_of_ne_nil hsentence.ne_nil
    obtain ⟨d, hd, -⟩ := hsentence.ends first List.mem_cons_self
    obtain ⟨e, more, hfirst⟩ : ∃ e more, first.toList = e :: more :=
      List.exists_cons_of_ne_nil fun hnil => by simp [hnil] at hd
    have hhead := @head?_textOfLines first others e (by rw [hfirst]; rfl)
    rw [htext] at hhead
    obtain rfl : c = e := Option.some.inj hhead
    refine ⟨⟨first, false⟩, by simp [Snippet.ofLines], ⟨rfl, ?_⟩, ?_⟩
    · rintro rfl
      cases hfirst
    · rw [hfirst, indentOf, List.takeWhile_cons_of_neg (by simp [hblank])]
      rfl

/-- A sentence is cut out as its lines. -/
theorem IsSentence.snippetOf_eq (first : Nat) :
    snippetOf (textOfLines lines).toList first [] = .ok (Snippet.ofLines lines) := by
  have hwritten : (Snippet.ofLines lines).written 0 = (textOfLines lines).toList := by
    have hline : ∀ line : String, (SnippetLine.mk line false).written 0 = line.toList := by
      intro line
      unfold SnippetLine.written
      split_ifs <;> simp [indentation]
    rw [toList_textOfLines, Snippet.written, Snippet.ofLines, List.map_map]
    exact congrArg _ (List.map_congr_left fun line _ => hline line)
  rw [← hwritten]
  apply hsentence.dedented.snippetOf_written
  intro index line hline
  simp only [Snippet.ofLines, List.getElem?_map, Option.map_eq_some_iff] at hline
  obtain ⟨text, -, rfl⟩ := hline
  rfl

/-- **The tokens of a sentence reach over its lines** and nothing else, where it begins a line
of a text. -/
theorem IsSentence.snippetOfTokens_eq {front : List Char} (hfront : ∀ c ∈ front.getLast?, c = '\n')
    (back : List Char) :
    snippetOfTokens (front ++ (textOfLines lines).toList ++ back) []
        (tokensIn ((Scanner.fresh [] (origin.afterText front)).reports
          (textOfLines lines).toList)) =
      .ok (Snippet.ofLines lines) := by
  have hwhole := hsentence.isWhole (origin.afterText front)
  obtain ⟨first, hfirst, hstart, -⟩ := hwhole.exists_first
  obtain ⟨last, hlast, hstop⟩ := hwhole.exists_last
  rw [offset_origin] at hstart
  rw [← Place.afterText_append, offset_origin] at hstop
  have hlead : front.reverse.takeWhile (· ≠ '\n') = [] := by
    cases hreverse : front.reverse with
    | nil => rfl
    | cons c rest =>
        have hc : c = '\n' := hfront c (by rw [← List.head?_reverse, hreverse]; rfl)
        simp [hc]
  rw [Scanner.reports_eq_yield hwhole.isCode hwhole.frames]
  simp only [snippetOfTokens, Option.mem_def.mp hfirst, Option.mem_def.mp hlast, cutSnippet,
    hstart, hstop]
  rw [excerpt_piece, hlead, List.reverse_nil, if_pos (show Text.allBlank [] = true from rfl),
    List.nil_append]
  exact hsentence.snippetOf_eq _

end Sentence

/-! ## Sentences below each other -/

/-- Some tokens of a text are those of a sentence, which is cut out where they stand. -/
structure StandsFor (text : List Char) (chunk : List Token) (lines : List String) : Prop where
  roles : List.Forall₂ Token.SameRole (tokensIn (scan (textOfLines lines).toList)) chunk
  snippet : snippetOfTokens text [] chunk = .ok (Snippet.ofLines lines)

/-- The first word of a sentence is the first word where it stands. -/
theorem StandsFor.beginsAnew {text : List Char} {chunk : List Token} {lines : List String}
    (hreads : StandsFor text chunk lines) (hanew : BeginsAnew (textOfLines lines)) :
    ∀ first ∈ chunk.head?, first.isWordIn clauseKeywords = false := by
  intro first hfirst
  have hroles := hreads.roles
  obtain ⟨rest, rfl⟩ := List.head?_eq_some_iff.mp hfirst
  obtain ⟨alone, others, hrole, -, htokens⟩ := List.forall₂_cons_right_iff.mp hroles
  rw [hrole.isWordIn_eq]
  exact hanew alone (by rw [htokens]; rfl)

/-- The first word of sentences is the first word of the first one. -/
theorem isWordIn_head_of_standsFor {text : List Char} {tokens : List Token}
    {complete : List (List Token)} {next : List String} {others : List (List String)}
    (hcomplete : constructs tokens = (complete, []))
    (hreads : List.Forall₂ (StandsFor text) complete (next :: others))
    (hanew : BeginsAnew (textOfLines next)) :
    ∀ first ∈ tokens.head?, first.isWordIn clauseKeywords = false := by
  obtain ⟨hflatten, hends⟩ := constructsOnto_flatten [] .undecided tokens
  rw [show constructsOnto [] .undecided tokens = (complete, []) from hcomplete] at hflatten hends
  obtain ⟨chunk, more, hnext, -, rfl⟩ := List.forall₂_cons_right_iff.mp hreads
  have hchunk := (hends chunk List.mem_cons_self).ne_nil
  rw [List.reverse_nil, List.nil_append, List.append_nil, List.flatten_cons] at hflatten
  rw [← hflatten, List.head?_append_of_ne_nil _ hchunk]
  exact hnext.beginsAnew hanew

/-- Below some lines, sentences are read one after the other. -/
theorem exists_constructs_of_sentences {sentences : List (List String)}
    (hsentences : ∀ lines ∈ sentences, IsSentence lines)
    (hanew : ∀ lines ∈ sentences.tail, BeginsAnew (textOfLines lines)) (front : List Char)
    (hfront : ∀ c ∈ front.getLast?, c = '\n') :
    ∃ complete, constructs (tokensIn ((Scanner.fresh [] (origin.afterText front)).reports
        (textOfLines (sentences.map textOfLines)).toList)) = (complete, []) ∧
      List.Forall₂ (StandsFor (front ++ (textOfLines (sentences.map textOfLines)).toList))
        complete sentences := by
  induction sentences generalizing front with
  | nil => exact ⟨[], rfl, .nil⟩
  | cons lines rest ih =>
      obtain ⟨hlines, hrest⟩ := List.forall_mem_cons.mp hsentences
      have hroles := hlines.neutral.sameRole (origin.afterText front)
      have hone : IsOne (tokensIn ((Scanner.fresh [] (origin.afterText front)).reports
          (textOfLines lines).toList)) := constructs_eq_singleton hroles hlines.one
      by_cases hnil : rest = []
      · -- the last sentence: its tokens are those that are left
        subst hnil
        rw [List.map_singleton, textOfLines_singleton]
        refine ⟨_, hone, .cons ⟨hroles, ?_⟩ .nil⟩
        simpa using hlines.snippetOfTokens_eq hfront []
      · have htext : (textOfLines ((lines :: rest).map textOfLines)).toList =
            (textOfLines lines).toList ++ '\n' :: (textOfLines (rest.map textOfLines)).toList := by
          rw [List.map_cons, textOfLines_cons (by simpa using hnil)]
          simp
        have hbelow : front ++ ((textOfLines lines).toList ++ ['\n']) ++
            (textOfLines (rest.map textOfLines)).toList =
              front ++ (textOfLines ((lines :: rest).map textOfLines)).toList := by
          rw [htext]
          simp
        obtain ⟨complete, hcomplete, hreads⟩ := ih hrest
          (fun other hother => hanew other (List.mem_of_mem_tail hother))
          (front ++ ((textOfLines lines).toList ++ ['\n'])) (by simp)
        rw [hbelow] at hreads
        rw [Place.afterText_append] at hcomplete
        -- no sentence begins with a clause that goes on with the one before
        have hclause : ∀ following ∈ (tokensIn ((Scanner.fresh []
            ((origin.afterText front).afterText ((textOfLines lines).toList ++ ['\n']))).reports
              (textOfLines (rest.map textOfLines)).toList)).head?,
            following.isWordIn clauseKeywords = false := by
          obtain ⟨next, others, rfl⟩ := List.exists_cons_of_ne_nil hnil
          exact isWordIn_head_of_standsFor hcomplete hreads (hanew next List.mem_cons_self)
        refine ⟨tokensIn ((Scanner.fresh [] (origin.afterText front)).reports
          (textOfLines lines).toList) :: complete, ?_, .cons ⟨hroles, ?_⟩ hreads⟩
        · rw [htext, hlines.neutral.reports_below, tokensIn_append, constructs,
            constructsOnto_append_of_one hone hclause, hcomplete]
          rfl
        · rw [htext, ← List.append_assoc]
          exact hlines.snippetOfTokens_eq hfront _

/-- **A body of sentences is read as these sentences**, line for line. -/
theorem statementsIn_of_sentences {sentences : List (List String)} (hne : sentences ≠ [])
    (hsentences : ∀ lines ∈ sentences, IsSentence lines)
    (hanew : ∀ lines ∈ sentences.tail, BeginsAnew (textOfLines lines)) :
    statementsIn (textOfLines sentences.flatten) = .ok (sentences.map Snippet.ofLines) := by
  have hgroups : ∀ lines ∈ sentences, lines ≠ [] := fun lines h => (hsentences lines h).ne_nil
  rw [textOfLines_flatten hgroups]
  obtain ⟨complete, hcomplete, hreads⟩ :=
    exists_constructs_of_sentences hsentences hanew [] (by simp)
  have htexts : ∀ text ∈ sentences.map textOfLines, Neutral text ∧ backtick ∉ text.toList := by
    intro text htext
    obtain ⟨lines, hlines, rfl⟩ := List.mem_map.mp htext
    exact ⟨(hsentences lines hlines).neutral, (hsentences lines hlines).literal⟩
  have hneutral : Neutral (textOfLines (sentences.map textOfLines)) :=
    neutral_intercalate (neutral_of_run rfl) fun text htext => (htexts text htext).1
  have hliteral : backtick ∉ (textOfLines (sentences.map textOfLines)).toList :=
    not_mem_intercalate (by decide) fun text htext => (htexts text htext).2
  have hflawless := hneutral.flawless
  have hscan := scan_eq_reports (textOfLines (sentences.map textOfLines)).toList
  have hlines : literalLinesIn (scan (textOfLines (sentences.map textOfLines)).toList) = [] := by
    rw [hscan] at hflawless ⊢
    exact literalLinesIn_eq_nil hflawless hliteral
  rw [Place.afterText_nil, ← Scanner.initial_eq_fresh, ← hscan] at hcomplete
  refine statementsIn_eq_ok_iff.mpr ⟨_, complete, tokenize_eq_ok_iff.mpr ⟨hflawless, rfl⟩, ?_,
    hcomplete, ?_⟩
  · intro hnone
    simp only at hnone
    rw [hnone] at hcomplete
    obtain rfl : complete = [] := (Prod.mk.inj hcomplete).1.symm
    exact hne (List.forall₂_nil_left_iff.mp hreads)
  · rw [hlines, List.forall₂_map_right_iff]
    exact hreads.imp fun chunk lines h => h.snippet

end PersistLayer.Syntax
