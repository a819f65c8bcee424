import PersistLayer.Proofs.Snippet.Reading

/-!
# Constructs with something in brackets

A text that has something in brackets in it is one construct, whatever stands in the
brackets: tokens inside brackets never end a construct (`isOne_enclosed`).  One such text is
a member that is declared with a value in braces.  Its brace comes before any block keyword,
so the closing brace does not end it either.
-/

namespace PersistLayer.Syntax

/-! ## Tokens inside brackets -/

theorem depth_of_mem_tokenReports {scanner : Scanner} {kind : TokenKind} {stop : Nat}
    {token : Token} (htoken : token ∈ tokensIn (scanner.tokenReports kind stop)) :
    token.depth = scanner.frames.length := by
  unfold Scanner.tokenReports at htoken
  split_ifs at htoken
  · cases htoken
  · obtain rfl := List.mem_singleton.mp htoken
    rfl

theorem depth_of_mem_markReports {scanner : Scanner} {c : Char} {token : Token}
    (htoken : token ∈ tokensIn (scanner.markReports c)) :
    token.depth = scanner.frames.length := by
  unfold Scanner.markReports at htoken
  split_ifs at htoken
  · cases htoken
  · obtain rfl := List.mem_singleton.mp htoken
    rfl

/-- A token is as deep as what is open in front of it, or behind it if it is a closing
bracket. -/
def Scanner.ReportsDeep (scanner : Scanner) (outcome : Scanner × List Report) : Prop :=
  ∀ token ∈ tokensIn outcome.2,
    scanner.enclosures.length ≤ token.depth ∨ outcome.1.enclosures.length ≤ token.depth

theorem Scanner.reportsDeep_of_silent {scanner next : Scanner} {reports : List Report}
    (hsilent : tokensIn reports = []) : scanner.ReportsDeep (next, reports) := by
  intro token htoken
  rw [hsilent] at htoken
  cases htoken

section Steps

variable {scanner : Scanner} (hopen : scanner.enclosures.length = scanner.frames.length) (c : Char)

theorem Scanner.reportsDeep_closer : scanner.ReportsDeep (scanner.closer c) := by
  unfold closer
  rcases hframes : scanner.frames with _ | ⟨⟨opener, line⟩ | line, outer⟩
  · intro token _
    right
    simp [enclosures, hframes]
  · intro token htoken
    right
    have hmarks : token ∈ tokensIn ({ scanner with frames := outer }.markReports c) := by
      rw [tokensIn_append, List.mem_append] at htoken
      rcases htoken with hfaults | hmarks
      · split_ifs at hfaults <;> cases hfaults
      · exact hmarks
    simp [enclosures, depth_of_mem_markReports hmarks]
  · split_ifs <;> exact reportsDeep_of_silent rfl

include hopen

theorem Scanner.reportsDeep_mark (next : Scanner) :
    scanner.ReportsDeep (next, scanner.markReports c) := by
  intro token htoken
  left
  rw [hopen, depth_of_mem_markReports htoken]

theorem Scanner.reportsDeep_codeStep : scanner.ReportsDeep (scanner.codeStep c) := by
  unfold codeStep
  split_ifs
  · exact reportsDeep_of_silent rfl
  · exact reportsDeep_of_silent rfl
  · exact reportsDeep_of_silent rfl
  · exact reportsDeep_of_silent rfl
  · exact reportsDeep_mark hopen c _
  · exact reportsDeep_closer c
  · exact reportsDeep_of_silent rfl
  · exact reportsDeep_of_silent rfl
  · exact reportsDeep_of_silent rfl
  · exact reportsDeep_mark hopen c _

theorem Scanner.reportsDeep_endToken (kind : TokenKind) :
    scanner.ReportsDeep (scanner.endToken kind c) := by
  intro token htoken
  simp only [endToken, tokensIn_append, List.mem_append] at htoken
  rcases htoken with htoken | htoken
  · left
    rw [hopen, depth_of_mem_tokenReports htoken]
  · exact reportsDeep_codeStep hopen c token htoken

theorem Scanner.reportsDeep_stringStep (line : Nat) (escaped : Bool) :
    scanner.ReportsDeep (scanner.stringStep line escaped c) := by
  unfold stringStep
  split_ifs
  · exact reportsDeep_of_silent rfl
  · intro token htoken
    left
    rw [hopen, depth_of_mem_tokenReports htoken]
  · exact reportsDeep_of_silent rfl
  · exact reportsDeep_of_silent rfl
  · exact reportsDeep_of_silent rfl

end Steps

theorem Scanner.reportsDeep_step (scanner : Scanner) (c : Char) :
    scanner.ReportsDeep (scanner.step c) := by
  -- outside template literals every frame encloses the code
  have hopen : (∀ dollar, scanner.mode ≠ .template dollar) →
      scanner.enclosures.length = scanner.frames.length := by
    intro hmode
    unfold enclosures
    split
    · exact absurd ‹_› (hmode _)
    · exact List.length_map _
  cases hmode : scanner.mode with
  | code =>
      simp only [step, hmode]
      exact reportsDeep_codeStep (hopen (by simp [hmode])) c
  | slash | quote | identifier | number =>
      simp only [step, hmode]
      split_ifs
      · exact reportsDeep_of_silent rfl
      · exact reportsDeep_endToken (hopen (by simp [hmode])) c _
  | comment =>
      simp only [step, hmode]
      split_ifs
      · exact reportsDeep_codeStep (hopen (by simp [hmode])) c
      · exact reportsDeep_of_silent rfl
  | string line escaped =>
      simp only [step, hmode]
      exact reportsDeep_stringStep (hopen (by simp [hmode])) c line escaped
  | template dollar =>
      simp only [step, hmode, templateStep]
      split_ifs
      · -- the token of a template literal is as deep as the code behind it
        intro token htoken
        right
        simp [enclosures, depth_of_mem_tokenReports htoken]
      · exact reportsDeep_of_silent rfl
      · exact reportsDeep_of_silent rfl
      · exact reportsDeep_of_silent rfl
  | halted =>
      simp only [step, hmode]
      exact reportsDeep_of_silent rfl

/-- Inside some enclosures all tokens are at least as deep as these. -/
theorem Scanner.depth_le_of_run {scanner : Scanner} (hlive : scanner.Live)
    {inner last : Outline} {outer : List Enclosure}
    (houtline : scanner.outline = inner.enclose outer)
    {text : List Char} (hrun : inner.run text = some last) :
    ∀ token ∈ tokensIn (scanner.emits text), outer.length ≤ token.depth := by
  induction text generalizing scanner inner with
  | nil => simp
  | cons c rest ih =>
      rw [Outline.run_cons, Option.bind_eq_some_iff] at hrun
      obtain ⟨next, hstep, hrest⟩ := hrun
      have htracks := scanner.tracks_step hlive c
      rw [houtline, Outline.step_enclose hstep outer] at htracks
      obtain ⟨-, hnext, hbehind⟩ := htracks
      have hdeep : ∀ {other : Scanner} {part : Outline}, other.outline = part.enclose outer →
          outer.length ≤ other.enclosures.length := by
        intro other part hother
        have hopen := congrArg (List.length ∘ Outline.enclosures) hother
        simp only [Function.comp_apply, outline, Outline.enclose, List.length_append] at hopen
        omega
      -- a token is as deep as the code in front of it or behind it, and both are inside
      intro token htoken
      rw [emits_cons, tokensIn_append, List.mem_append] at htoken
      rcases htoken with htoken | htoken
      · rcases scanner.reportsDeep_step c token htoken with hfront | hback
        · exact (hdeep houtline).trans hfront
        · exact (hdeep hbehind).trans hback
      · exact ih hnext hbehind hrest token htoken

/-! ## One construct -/

/-- The form of a construct behind some tokens, unless one of them may end it. -/
def formBehind (form : Form) : List Token → Option Form
  | [] => some form
  | token :: rest =>
    if token.endsConstruct (form.after token) none then none
    else formBehind (form.after token) rest

theorem formBehind_append (form : Form) (front back : List Token) :
    formBehind form (front ++ back) = (formBehind form front).bind (formBehind · back) := by
  induction front generalizing form with
  | nil => rfl
  | cons token rest ih =>
      simp only [List.cons_append, formBehind]
      split_ifs
      · rfl
      · exact ih _

/-- Tokens inside brackets end no construct and leave its form as it is. -/
theorem formBehind_deep {tokens : List Token} (htokens : ∀ token ∈ tokens, 1 ≤ token.depth)
    (form : Form) : formBehind form tokens = some form := by
  induction tokens with
  | nil => rfl
  | cons token rest ih =>
      have hdepth : token.depth ≠ 0 := Nat.ne_of_gt (htokens token List.mem_cons_self)
      have hform : form.after token = form := by
        cases form with
        | undecided => simp [Form.after, hdepth]
        | block => rfl
        | braced => rfl
      have hgoes : token.endsConstruct form none = false := by simp [Token.endsConstruct, hdepth]
      rw [formBehind, hform, hgoes]
      exact ih fun other h => htokens other (List.mem_cons_of_mem _ h)

/-- A token that ends a construct in front of another one ends it at the end, too. -/
theorem Token.endsConstruct_none {token : Token} {form : Form} {next : Option Token}
    (hends : token.endsConstruct form next = true) : token.endsConstruct form none = true := by
  simp only [endsConstruct, Bool.and_eq_true, Bool.or_eq_true] at hends ⊢
  obtain ⟨hdepth, hsign | ⟨hbrace, -⟩⟩ := hends
  · exact ⟨hdepth, .inl hsign⟩
  · exact ⟨hdepth, .inr ⟨hbrace, rfl⟩⟩

/-- A semicolon outside brackets ends a construct of any form. -/
theorem Token.endsConstruct_semicolon {token : Token} (hdepth : token.depth = 0)
    (hsign : token.isMark ";" = true) (form : Form) (next : Option Token) :
    token.endsConstruct form next = true := by
  simp [endsConstruct, hdepth, hsign]

/-- Tokens of which only the last ends a construct form one. -/
theorem constructsOnto_of_formBehind {front : List Token} {last : Token} {form form' : Form}
    (hform : formBehind form front = some form')
    (hlast : last.endsConstruct (form'.after last) none = true) (run : List Token) :
    constructsOnto run form (front ++ [last]) = ([run.reverse ++ front ++ [last]], []) := by
  induction front generalizing run form with
  | nil =>
      obtain rfl : form = form' := Option.some.inj hform
      simp [constructsOnto, hlast]
  | cons token rest ih =>
      simp only [formBehind] at hform
      split_ifs at hform with hends
      have hgoes : ∀ next, token.endsConstruct (form.after token) next = false := by
        intro next
        by_contra hnext
        exact hends (Token.endsConstruct_none (by simpa using hnext))
      rw [List.cons_append, constructsOnto, hgoes, if_neg (by simp), ih hform]
      simp

/-! ## One construct with something in brackets -/

/-- The tokens are one construct. -/
def IsOne (tokens : List Token) : Prop := constructs tokens = ([tokens], [])

/-- The texts in front of something in brackets: code that opens one bracket and holds no end
of a construct. -/
structure OpensOne (opener : Char) (form : Form) (head : String) : Prop where
  mode : (Scanner.initial.run head.toList).mode = .code
  frames : (Scanner.initial.run head.toList).frames.map Frame.enclosure = [.bracket opener]
  form : formBehind .undecided (tokensIn (Scanner.initial.emits head.toList)) = some form

/-- The texts behind something in brackets: a character that goes on with no word, and tokens
of which only the last ends the construct. -/
structure ClosesOne (opener : Char) (form : Form) (tail : String) : Prop where
  ends : ∀ c ∈ tail.toList.head?, isIdentifierChar c = false ∧ isNumberChar c = false
  form : ∀ line place, ∃ front last form',
    tokensIn ((Scanner.fresh [.bracket opener line] place).reports tail.toList) = front ++ [last] ∧
      formBehind form front = some form' ∧ last.endsConstruct (form'.after last) none = true

/-- In code, only a word can go on with a character. -/
theorem Scanner.goesOnWith_of_phase {scanner : Scanner} (hphase : scanner.mode.phase = .code)
    {c : Char} (hidentifier : isIdentifierChar c = false) (hnumber : isNumberChar c = false) :
    scanner.mode.goesOnWith c = false := by
  cases hmode : scanner.mode with
  | quote | identifier => exact hidentifier
  | number => exact hnumber
  | _ => simp_all [Mode.phase, Mode.goesOnWith]

theorem Scanner.isCode_of_phase {scanner : Scanner} (hlive : scanner.Live)
    (hphase : scanner.mode.phase = .code) : scanner.mode.isCode = true := by
  cases hmode : scanner.mode <;> simp_all [Mode.phase, Mode.isCode, Live]

section Inside

variable {scanner : Scanner} {opener : Char} (hmode : scanner.mode = .code)
  (hframes : scanner.frames.map Frame.enclosure = [.bracket opener]) {inner : String}
  (hinner : Neutral inner)

include hmode hframes

omit hinner in
theorem Scanner.outline_inside : scanner.outline = Outline.initial.enclose [.bracket opener] := by
  simp [outline, enclosures, hmode, hframes, Mode.phase, Outline.initial, Outline.enclose]

include hinner

/-- Behind a neutral text in brackets, code is read with the same bracket open. -/
theorem Scanner.run_inside :
    (∃ line, (scanner.run inner.toList).frames = [.bracket opener line]) ∧
      (scanner.run inner.toList).mode.isCode = true ∧
      (scanner.run inner.toList).mode.phase = .code := by
  have houtline := outline_inside hmode hframes
  obtain ⟨-, hbehind, hsame⟩ := run_of_outline (show scanner.Live by simp [Live, hmode])
    (show scanner.outline.run inner.toList = some scanner.outline by
      rw [houtline]
      exact hinner _)
  rw [houtline] at hsame
  have hphase : (scanner.run inner.toList).mode.phase = .code := congrArg Outline.phase hsame
  refine ⟨?_, isCode_of_phase hbehind hphase, hphase⟩
  apply exists_bracket_of_enclosures
  have henclosures := congrArg Outline.enclosures hsame
  cases hinside : (scanner.run inner.toList).mode <;>
    simp_all [outline, enclosures, Outline.enclose, Outline.initial, Mode.phase]

theorem Scanner.depth_inside :
    ∀ token ∈ tokensIn (scanner.yield inner.toList), 1 ≤ token.depth := by
  have houtline := outline_inside hmode hframes
  obtain ⟨⟨line, hline⟩, -⟩ := run_inside hmode hframes hinner
  intro token htoken
  rw [yield, tokensIn_append, List.mem_append] at htoken
  rcases htoken with hread | hpending
  · exact depth_le_of_run (show scanner.Live by simp [Live, hmode]) houtline (hinner []) token hread
  · -- a word that ends with what stands in the brackets is as deep as all of it
    unfold pending at hpending
    split at hpending
    · rw [depth_of_mem_tokenReports hpending, hline]
      rfl
    · cases hpending

end Inside

/-- **A text with something in brackets is one construct**, whatever is in the brackets. -/
theorem isOne_enclosed {opener : Char} {form : Form} {head inner tail : String}
    (hhead : OpensOne opener form head) (hinner : Neutral inner)
    (htail : ClosesOne opener form tail) :
    IsOne (tokensIn (scan (head ++ inner ++ tail).toList)) := by
  -- the scanner behind the opening bracket
  obtain ⟨opened, hopened⟩ : ∃ opened, Scanner.initial.run head.toList = opened := ⟨_, rfl⟩
  have hmode := hhead.mode
  have hframes := hhead.frames
  rw [hopened] at hmode hframes
  obtain ⟨⟨line, hline⟩, hcode, hphase⟩ := Scanner.run_inside hmode hframes hinner
  have hdeep := Scanner.depth_inside hmode hframes hinner
  have hstops : (opened.run inner.toList).StopsBefore tail.toList := by
    refine ⟨hcode, by rw [hline]; rfl, ?_⟩
    intro c hc
    exact Scanner.goesOnWith_of_phase hphase (htail.ends c hc).1 (htail.ends c hc).2
  obtain ⟨front, last, form', hlast, hform, hends⟩ :=
    htail.form line (opened.run inner.toList).place
  have htokens : tokensIn (scan (head ++ inner ++ tail).toList) =
      tokensIn (Scanner.initial.emits head.toList) ++
        (tokensIn (opened.yield inner.toList) ++ front) ++ [last] := by
    have hreports : scan (head ++ inner ++ tail).toList = Scanner.initial.emits head.toList ++
        (opened.yield inner.toList ++
          (Scanner.fresh [.bracket opener line] (opened.run inner.toList).place).reports
            tail.toList) := by
      rw [scan_eq_reports, String.toList_append, String.toList_append, List.append_assoc,
        Scanner.reports_append, hopened, Scanner.reports_append_of_stopsBefore hstops, hline]
    rw [hreports, tokensIn_append, tokensIn_append, hlast]
    simp only [List.append_assoc]
  have hall : formBehind .undecided (tokensIn (Scanner.initial.emits head.toList) ++
      (tokensIn (opened.yield inner.toList) ++ front)) = some form' := by
    rw [formBehind_append, hhead.form, Option.bind_some]
    calc formBehind form (tokensIn (opened.yield inner.toList) ++ front)
        = (formBehind form (tokensIn (opened.yield inner.toList))).bind
            (formBehind · front) := formBehind_append ..
      -- what is in the brackets is too deep to matter
      _ = formBehind form front := by rw [formBehind_deep hdeep, Option.bind_some]
      _ = some form' := hform
  rw [IsOne, constructs, htokens, constructsOnto_of_formBehind hall hends]
  rfl

/-- Behind a value in braces there is only the semicolon. -/
theorem closesOne_value : ClosesOne '{' .braced "\x7d;" where
  ends := by
    rintro _ ⟨rfl⟩
    decide
  form _ _ := ⟨[_], _, .braced, rfl, rfl, rfl⟩

/-- **A member with a value in braces can be read**, whatever the value is. -/
theorem exists_memberIn {head inner : String} (hhead : OpensOne '{' .braced head)
    (hinner : Neutral inner) (htext : IsStatements (head ++ inner ++ "\x7d;")) :
    ∃ snippet, memberIn (head ++ inner ++ "\x7d;") = .ok snippet := by
  obtain ⟨snippets, hread, hcount⟩ := htext.exists_statementsIn
  have hone := isOne_enclosed hhead hinner closesOne_value
  rw [IsOne] at hone
  rw [hone, List.length_singleton, List.length_eq_one_iff] at hcount
  obtain ⟨snippet, rfl⟩ := hcount
  exact ⟨snippet, bind_eq_ok_iff.mpr ⟨_, hread, rfl⟩⟩

end PersistLayer.Syntax
