import PersistLayer.Proofs.Snippet.Dedented
import PersistLayer.Proofs.Snippet.Statements

/-!
# Reading a snippet back

A statement, a member or an annotation that is written at some depth is read back as the
same lines, with the same ones verbatim (`readers_render`).

Three things have to come back.  What is written has the tokens of the text it was cut
from, and they form one construct again (`constructs_eq_singleton`).  They reach from the
indent of the first line to the end of the last (`Reread.isWhole`), so all that is written
is cut out (`IsWhole.snippetOfTokens_eq`).  And the lines that begin
inside a template literal are as many lines below the first as they were in the text, so
that the cut gives the snippet back (`Snippet.Dedented.snippetOf_written`).
-/

namespace PersistLayer.Syntax

/-! ## The first token of a piece -/

/-- The first token of a piece begins where the piece does. -/
theorem Cut.beginsToken {frames : List Frame} {place : Place} {chunk : List Token}
    {gap piece back : List Char} (hcut : Cut frames place chunk gap piece back)
    (hchunk : chunk ≠ [])
    (hflawless : Flawless ((Scanner.fresh frames place).reports (gap ++ piece ++ back))) :
    beginsToken (piece ++ back) = true := by
  have hreports : (Scanner.fresh frames (place.afterText gap)).reports (piece ++ back) =
      (Scanner.fresh frames place).reports (gap ++ piece ++ back) := by
    rw [List.append_assoc, hcut.skips.reports_eq hcut.code hcut.outside]
  obtain ⟨first, rest, rfl⟩ := List.exists_cons_of_ne_nil hchunk
  have hhead : (tokensIn ((Scanner.fresh frames (place.afterText gap)).reports
      (piece ++ back))).head? = some first := by
    rw [hreports, hcut.reports_eq, tokensIn_append, hcut.tokens]
    rfl
  rcases Scanner.exists_skips (Scanner.fresh frames (place.afterText gap)) (.inl rfl)
      (piece ++ back) with ⟨hskips, -⟩ | ⟨before, text, htext, hskips, hcode, hbegins, -⟩
  · rw [hskips.reports_nil, tokensIn_openReports] at hhead
    cases hhead
  · rw [← hreports, htext, hskips.reports_eq hcode hcut.outside] at hflawless
    obtain ⟨more, left, token, rfl, -, hcompletes⟩ :=
      Scanner.exists_completes_of_beginsToken hcut.outside hbegins hflawless
    rw [htext, hskips.reports_eq hcode hcut.outside,
      Scanner.reports_append_of_stopsBefore hcompletes.stops, tokensIn_append,
      hcompletes.yield_eq] at hhead
    obtain rfl : token = first := by simpa using hhead
    -- what is skipped in front of the token would make the token begin further behind
    have hstart : (place.afterText gap).offset = ((place.afterText gap).afterText before).offset :=
      (hcut.first token rfl).1.symm.trans hcompletes.start_eq
    rw [Place.offset_afterText _ before] at hstart
    obtain rfl : before = [] := by
      cases before with
      | nil => rfl
      | cons c rest =>
          have hpos := Char.utf8Size_pos c
          rw [Text.byteLength_cons] at hstart
          omega
    rw [htext]
    exact hbegins

/-- In another layout a text begins with a token as well. -/
theorem Relaid.beginsToken {scanner : Scanner} {text written back back' : List Char}
    (h : Relaid scanner text written) (hne : text ≠ [])
    (hbegins : beginsToken (text ++ back) = true) (hback : back'.head? ≠ some '/') :
    beginsToken (written ++ back') = true := by
  cases h with
  | nil => exact absurd rfl hne
  | @lineBreak _ trail lead lead' text written htrail =>
      -- a line break is no token, nor is a blank in front of it
      cases trail with
      | nil => exact absurd (beginsToken_cons_iff.mp hbegins).1 (by decide)
      | cons c rest =>
          rw [List.cons_append, List.cons_append] at hbegins
          have hfirst := (htrail c List.mem_cons_self).1
          rw [(beginsToken_cons_iff.mp hbegins).1] at hfirst
          cases hfirst
  | @cons _ c text written hrest =>
      rw [List.cons_append] at hbegins ⊢
      obtain ⟨hc, hcomment⟩ := beginsToken_cons_iff.mp hbegins
      refine beginsToken_cons_iff.mpr ⟨hc, ?_⟩
      rintro ⟨rfl, hhead⟩
      -- a second slash behind the first would have been there before
      cases hrest with
      | nil => exact hback hhead
      | lineBreak => simp at hhead
      | cons d _ => exact hcomment ⟨rfl, by simpa using hhead⟩

/-! ## The last token of a piece -/

/-- The last token among the reports ends at a byte. -/
def StopsAt (reports : List Report) (stop : Nat) : Prop :=
  ∃ token ∈ (tokensIn reports).getLast?, token.stop = stop

theorem StopsAt.append {front back : List Report} {stop : Nat} (h : StopsAt back stop) :
    StopsAt (front ++ back) stop := by
  obtain ⟨token, htoken, hstop⟩ := h
  refine ⟨token, ?_, hstop⟩
  rw [tokensIn_append]
  exact List.mem_getLast?_append_of_mem_getLast? htoken

theorem Scanner.stopsAt_tokenReports {scanner : Scanner}
    (houtside : inTemplate scanner.frames = false) (kind : TokenKind) (stop : Nat) :
    StopsAt (scanner.tokenReports kind stop) stop := by
  simp [StopsAt, tokenReports, houtside, tokensIn, Report.token?]

theorem Scanner.stopsAt_markReports {scanner : Scanner}
    (houtside : inTemplate scanner.frames = false) (c : Char) :
    StopsAt (scanner.markReports c) (scanner.place.offset + c.utf8Size) := by
  simp [StopsAt, markReports, houtside, tokensIn, Report.token?]

/-- A scanner reads code outside template literals and is in no comment. -/
def Scanner.InCode (scanner : Scanner) : Prop :=
  scanner.mode.isCode = true ∧ scanner.mode ≠ .comment ∧ inTemplate scanner.frames = false

/-- A step to code ends a token or is in the middle of one: the last token that is known
when nothing follows ends behind the character. -/
def StopsBehind (outcome : Scanner × List Report) : Prop :=
  outcome.1.InCode → StopsAt (outcome.2 ++ outcome.1.pending) outcome.1.place.offset

/-- A scanner in the middle of a word stops where it is. -/
theorem Scanner.stopsBehind_word {scanner : Scanner} (hword : scanner.mode.isWord = true)
    (reports : List Report) : StopsBehind (scanner, reports) := by
  rintro ⟨-, -, houtside⟩
  obtain ⟨kind, hkind⟩ := Option.isSome_iff_exists.mp hword
  refine StopsAt.append ?_
  simp only [pending, hkind]
  exact stopsAt_tokenReports houtside kind _

theorem Scanner.stopsBehind_closer {scanner : Scanner} {c : Char}
    (hflawless : Flawless (scanner.closer c).2) : StopsBehind (scanner.closer c) := by
  unfold closer at hflawless ⊢
  rcases hframes : scanner.frames with _ | ⟨⟨opener, line⟩ | line, outer⟩
  · simp [hframes, Report.isFlaw] at hflawless
  · rintro ⟨-, -, houtside⟩
    have houter : inTemplate ({ scanner with frames := outer } : Scanner).frames = false := by
      simpa using houtside
    have hmark := stopsAt_markReports houter c
    simpa [pending, Mode.pendingKind?, Place.after] using hmark.append
  · simp only [hframes] at hflawless ⊢
    split_ifs at hflawless ⊢
    · rintro ⟨hcode, -⟩
      cases hcode
    · simp [Report.isFlaw] at hflawless

theorem Scanner.stopsBehind_codeStep {scanner : Scanner} {c : Char}
    (hblank : Text.isBlank c = false) (hflawless : Flawless (scanner.codeStep c).2) :
    StopsBehind (scanner.codeStep c) := by
  unfold codeStep at hflawless ⊢
  simp only [hblank, Bool.false_eq_true, if_false] at hflawless ⊢
  -- a mark is over with its character; a word goes on, and a literal or a comment begins
  have hmark : ∀ next : Scanner, next.mode = .code → next.place = scanner.place.after c →
      (inTemplate next.frames = false → inTemplate scanner.frames = false) →
      StopsBehind (next, scanner.markReports c) := by
    rintro next hmode hplace hframes ⟨-, -, houtside⟩
    have hstops := stopsAt_markReports (hframes houtside) c
    simpa [pending, hmode, Mode.pendingKind?, hplace, Place.after] using hstops
  split_ifs at hflawless ⊢
  · exact stopsBehind_word (by simp [Mode.isWord, Mode.pendingKind?]) _
  · rintro ⟨hcode, -⟩
    simp [Mode.isCode] at hcode
  · rintro ⟨hcode, -⟩
    simp [Mode.isCode] at hcode
  · exact hmark _ (by simp) (by simp) (by simp)
  · exact stopsBehind_closer hflawless
  · exact stopsBehind_word (by simp [Mode.isWord, Mode.pendingKind?]) _
  · exact stopsBehind_word (by simp [Mode.isWord, Mode.pendingKind?]) _
  · exact stopsBehind_word (by simp [Mode.isWord, Mode.pendingKind?]) _
  · exact hmark _ (by simp) (by simp) (by simp)

theorem Scanner.stopsBehind_endToken {scanner : Scanner} {kind : TokenKind} {c : Char}
    (hblank : Text.isBlank c = false) (hflawless : Flawless (scanner.endToken kind c).2) :
    StopsBehind (scanner.endToken kind c) := by
  intro hcode
  have hstep := stopsBehind_codeStep hblank ((flawless_append _ _).mp hflawless).2 hcode
  rw [endToken, List.append_assoc]
  exact hstep.append

/-- **A character that is no blank is the last of a token**, unless it leads into a
literal or a comment. -/
theorem Scanner.stopsBehind_step {scanner : Scanner} {c : Char} (hlive : scanner.Live)
    (hblank : Text.isBlank c = false) (hflawless : Flawless (scanner.step c).2) :
    StopsBehind (scanner.step c) := by
  cases hmode : scanner.mode with
  | code =>
      simp only [step, hmode] at hflawless ⊢
      exact stopsBehind_codeStep hblank hflawless
  | slash =>
      simp only [step, hmode] at hflawless ⊢
      split_ifs at hflawless ⊢
      · rintro ⟨-, hcomment, -⟩
        exact absurd rfl hcomment
      · exact stopsBehind_endToken hblank hflawless
  | comment =>
      have hfeed : c ≠ '\n' := by
        rintro rfl
        exact absurd hblank (by decide)
      simp only [step, hmode, hfeed, if_false]
      rintro ⟨-, hcomment, -⟩
      exact absurd rfl hcomment
  | quote | identifier | number =>
      simp only [step, hmode] at hflawless ⊢
      split_ifs at hflawless ⊢
      · exact stopsBehind_word rfl _
      · exact stopsBehind_endToken hblank hflawless
  | string line escaped =>
      simp only [step, hmode, stringStep] at hflawless ⊢
      split_ifs at hflawless ⊢
      · exact fun hcode => absurd hcode.1 (by simp [Mode.isCode])
      · -- the closing quote, behind which the literal is reported
        rintro ⟨-, -, houtside⟩
        have hstops := @stopsAt_tokenReports scanner (by simpa using houtside) .string
          (scanner.place.offset + c.utf8Size)
        simpa [pending, Mode.pendingKind?, Place.after] using hstops
      · simp [Report.isFlaw] at hflawless
      · exact fun hcode => absurd hcode.1 (by simp [Mode.isCode])
      · exact fun hcode => absurd hcode.1 (by simp [Mode.isCode])
  | template dollar =>
      obtain ⟨line, outer, hframes⟩ : ∃ line outer, scanner.frames = .template line :: outer := by
        simpa [Live, hmode] using hlive
      simp only [step, hmode, templateStep]
      split_ifs
      · -- the closing backtick, behind which the literal is reported
        rintro ⟨-, -, houtside⟩
        have hstops := @stopsAt_tokenReports { scanner with frames := scanner.frames.tail }
          (by simpa using houtside) .template (scanner.place.offset + c.utf8Size)
        simpa [pending, Mode.pendingKind?, Place.after, hmode] using hstops
      · exact fun hcode => absurd hcode.1 (by simp [Mode.isCode])
      · -- an interpolation begins: code, but inside the literal
        exact fun hcode => absurd hcode.2.2 (by simp [hframes])
      · exact fun hcode => absurd hcode.1 (by simp [Mode.isCode])
  | halted => simp [Live, hmode] at hlive

/-- The last token of a text that ends in code, and with no blank, ends with the text. -/
theorem Scanner.stopsAt_yield {scanner : Scanner} {text : List Char} {last : Char}
    (hlive : scanner.Live) (hlast : text.getLast? = some last) (hblank : Text.isBlank last = false)
    (hflawless : Flawless (scanner.emits text)) (hcode : (scanner.run text).InCode) :
    StopsAt (scanner.yield text) (scanner.place.afterText text).offset := by
  rw [← run_place hlive hflawless]
  obtain ⟨front, rfl⟩ := List.getLast?_eq_some_iff.mp hlast
  rw [emits_append, flawless_append] at hflawless
  have hbehind := (outline_run hlive hflawless.1).1
  have hlastStep : Flawless ((scanner.run front).step last).2 := by
    simpa [emits_cons] using hflawless.2
  rw [run_append] at hcode
  rw [yield, emits_append, run_append, List.append_assoc]
  simpa [emits_cons, run_cons] using
    (stopsBehind_step hbehind hblank hlastStep (by simpa [run_cons] using hcode)).append

/-! ## A text from its first token to its last -/

/-- A text begins with a token and ends with one, and has nothing open behind it. -/
structure IsWhole (place : Place) (body : List Char) : Prop where
  begins : beginsToken body = true
  blank_last : ∀ c ∈ body.getLast?, Text.isBlank c = false
  flawless : Flawless ((Scanner.fresh [] place).yield body)
  frames : ((Scanner.fresh [] place).run body).frames = []
  isCode : ((Scanner.fresh [] place).run body).mode.isCode = true
  mode_ne : ((Scanner.fresh [] place).run body).mode ≠ .comment

section Whole

variable {place : Place} {lead body : List Char}

theorem IsWhole.exists_first (hwhole : IsWhole place body) :
    ∃ first ∈ (tokensIn ((Scanner.fresh [] place).yield body)).head?,
      first.start = place.offset ∧ first.line = place.line := by
  have hreports := Scanner.reports_eq_yield hwhole.isCode hwhole.frames
  have hflawless := hwhole.flawless
  rw [← hreports] at hflawless ⊢
  obtain ⟨more, left, token, hsplit, -, hcompletes⟩ :=
    Scanner.exists_completes_of_beginsToken rfl hwhole.begins hflawless
  refine ⟨token, ?_, hcompletes.start_eq, hcompletes.line_eq⟩
  rw [hsplit, Scanner.reports_append_of_stopsBefore hcompletes.stops, tokensIn_append,
    hcompletes.yield_eq]
  rfl

theorem IsWhole.exists_last (hwhole : IsWhole place body) :
    ∃ last ∈ (tokensIn ((Scanner.fresh [] place).yield body)).getLast?,
      last.stop = (place.afterText body).offset := by
  have hne : body ≠ [] := by
    rintro rfl
    exact absurd hwhole.begins (by decide)
  obtain ⟨c, hc⟩ : ∃ c, body.getLast? = some c := ⟨_, List.getLast?_eq_some_getLast hne⟩
  have hcode : ((Scanner.fresh [] place).run body).InCode :=
    ⟨hwhole.isCode, hwhole.mode_ne, by rw [hwhole.frames]; rfl⟩
  exact Scanner.stopsAt_yield (Scanner.fresh_live _ _) hc (hwhole.blank_last c hc)
    ((flawless_append _ _).mp hwhole.flawless).1 hcode

/-- **The snippet of all tokens behind a margin** is cut from the margin on. -/
theorem IsWhole.snippetOfTokens_eq (hwhole : IsWhole (origin.afterText lead) body)
    (hlead : IsMargin lead) (back : List Char) (literalLines : List Nat) :
    snippetOfTokens (lead ++ body ++ back) literalLines
        (tokensIn ((Scanner.fresh [] (origin.afterText lead)).yield body)) =
      snippetOf (lead ++ body) 0 literalLines := by
  obtain ⟨first, hfirst, hstart, hline⟩ := hwhole.exists_first
  obtain ⟨last, hlast, hstop⟩ := hwhole.exists_last
  rw [offset_origin] at hstart
  rw [← Place.afterText_append, offset_origin] at hstop
  rw [hlead.line_eq] at hline
  simp only [snippetOfTokens, Option.mem_def.mp hfirst, Option.mem_def.mp hlast, cutSnippet,
    hstart, hstop, hline]
  rw [excerpt_of_isMargin hlead]

end Whole

/-! ## The same constructs -/

/-- Two tokens that no reader of constructs can tell apart: only the text of a literal may
differ. -/
structure Token.SameRole (token other : Token) : Prop where
  kind : other.kind = token.kind
  text : other.text ≠ token.text → token.kind = .string ∨ token.kind = .template
  depth : other.depth = token.depth

/-- Tokens with the same text play the same role. -/
theorem Token.Alike.sameRole {token other : Token} (halike : token.Alike .same other) :
    token.SameRole other := by
  refine ⟨halike.kind.symm, ?_, halike.depth.symm⟩
  intro hdiffer
  exact absurd (String.toList_injective halike.text).symm hdiffer

theorem Token.SameRole.symm {token other : Token} (hrole : token.SameRole other) :
    other.SameRole token := by
  refine ⟨hrole.kind.symm, ?_, hrole.depth.symm⟩
  intro hdiffer
  rw [hrole.kind]
  exact hrole.text (Ne.symm hdiffer)

section Roles

variable {token other : Token} (hrole : token.SameRole other)

include hrole

theorem Token.SameRole.isMark_eq (mark : String) : other.isMark mark = token.isMark mark := by
  rw [isMark, isMark, hrole.kind]
  by_cases htext : other.text = token.text
  · rw [htext]
  · rcases hrole.text htext with hkind | hkind <;> rw [hkind] <;> rfl

theorem Token.SameRole.isWordIn_eq (words : List String) :
    other.isWordIn words = token.isWordIn words := by
  rw [isWordIn, isWordIn, hrole.kind]
  by_cases htext : other.text = token.text
  · rw [htext]
  · rcases hrole.text htext with hkind | hkind <;> rw [hkind] <;> rfl

theorem Token.SameRole.after_eq (form : Form) : form.after other = form.after token := by
  unfold Form.after
  rw [hrole.depth, hrole.isMark_eq, hrole.isWordIn_eq]

theorem Token.SameRole.endsConstruct_eq (form : Form) {next next' : Option Token}
    (hnext : Option.Rel Token.SameRole next next') :
    other.endsConstruct form next' = token.endsConstruct form next := by
  have hclause : (next'.any fun following => following.isWordIn clauseKeywords) =
      next.any fun following => following.isWordIn clauseKeywords := by
    cases hnext with
    | none => rfl
    | some h => exact h.isWordIn_eq clauseKeywords
  rw [endsConstruct, endsConstruct, hrole.depth, hrole.isMark_eq, hrole.isMark_eq, hclause]

end Roles

/-- **Tokens with the same roles form the same constructs.** -/
theorem constructsOnto_sameRole {tokens others : List Token}
    (htokens : List.Forall₂ Token.SameRole tokens others) {run run' : List Token}
    (hrun : List.Forall₂ Token.SameRole run run') (form : Form) :
    List.Forall₂ (List.Forall₂ Token.SameRole) (constructsOnto run form tokens).1
        (constructsOnto run' form others).1 ∧
      List.Forall₂ Token.SameRole (constructsOnto run form tokens).2
        (constructsOnto run' form others).2 := by
  induction htokens generalizing run run' form with
  | nil => exact ⟨.nil, List.forall₂_reverse_iff.mpr hrun⟩
  | @cons token other rest rest' hrole hrest ih =>
      have hnext : Option.Rel Token.SameRole rest.head? rest'.head? := by
        cases hrest with
        | nil => exact .none
        | cons h _ => exact .some h
      simp only [constructsOnto, hrole.after_eq, hrole.endsConstruct_eq _ hnext]
      split_ifs
      · obtain ⟨hconstructs, hopen⟩ := ih .nil .undecided
        exact ⟨.cons (List.forall₂_reverse_iff.mpr (.cons hrole hrun)) hconstructs, hopen⟩
      · exact ih (.cons hrole hrun) _

/-- Tokens with the same roles as those of one construct form one construct. -/
theorem constructs_eq_singleton {tokens others : List Token}
    (htokens : List.Forall₂ Token.SameRole tokens others)
    (hone : constructs tokens = ([tokens], [])) : constructs others = ([others], []) := by
  obtain ⟨hcomplete, hopen⟩ := constructsOnto_sameRole htokens .nil .undecided
  have hflatten := (constructsOnto_flatten [] .undecided others).1
  rw [show constructsOnto [] .undecided tokens = ([tokens], []) from hone] at hcomplete hopen
  unfold constructs
  generalize constructsOnto [] .undecided others = result at hcomplete hopen hflatten ⊢
  obtain ⟨complete, left⟩ := result
  cases hopen
  cases hcomplete with
  | cons hfirst hrest =>
      cases hrest
      simp only [List.flatten_cons, List.flatten_nil, List.append_nil, List.reverse_nil,
        List.nil_append] at hflatten
      rw [hflatten]

/-! ## The tokens of what is written -/

theorem literalLinesIn_alike {likeness : Likeness} {shift : Nat} {reports others : List Report}
    (halike : ReportsAlike likeness shift reports others) :
    literalLinesIn reports = (literalLinesIn others).map fun line => shift + line := by
  induction halike with
  | nil => rfl
  | cons hfirst _ ih =>
      cases hfirst with
      | token h => exact ih
      | literalLine line => exact congrArg (_ :: ·) ih

section Reread

variable {snippet : Snippet} {depth : Nat} {place : Place} {piece lead body : List Char}
  (hreread : Reread snippet depth place piece lead body)

include hreread

theorem Reread.flawless : Flawless ((Scanner.fresh [] (origin.afterText lead)).yield body) :=
  (flawless_of_alike hreread.alike).2

theorem Reread.written_eq (hlines : snippet.lines ≠ []) : lead ++ body = snippet.written depth := by
  have hboth := hreread.render_eq.symm.trans (Snippet.render_eq hlines depth)
  exact List.append_cancel_right hboth

/-- What is written reaches from a token behind its margin to one in front of its line
feed. -/
theorem Reread.isWhole {back : List Char} (hne : piece ≠ [])
    (hbegins : beginsToken (piece ++ back) = true)
    (hlast : ∀ c ∈ piece.getLast?, Text.isBlank c = false) :
    IsWhole (origin.afterText lead) body where
  begins := by
    have hbody := @Relaid.beginsToken _ _ _ back [] hreread.relaid hne hbegins (by simp)
    rwa [List.append_nil] at hbody
  blank_last := by
    rw [hreread.relaid.getLast?_eq hlast]
    exact hlast
  flawless := hreread.flawless
  frames := hreread.frames
  isCode := hreread.isCode
  mode_ne := hreread.mode_ne

/-- The marked lines are as far below the first as they were in the text. -/
theorem Reread.markedBy (hmarked : snippet.MarkedBy place.line
    (literalLinesIn ((Scanner.fresh [] place).yield piece))) :
    snippet.MarkedBy 0 (literalLinesIn (scan (snippet.render depth).toList)) := by
  intro index line hline
  have hlines := literalLinesIn_alike hreread.alike
  rw [← hreread.scan_eq] at hlines
  rw [hmarked index line hline, hlines, Nat.zero_add, Bool.eq_iff_iff, List.contains_iff_mem,
    List.contains_iff_mem, List.mem_map]
  constructor
  · rintro ⟨other, hother, heq⟩
    obtain rfl : other = index := by omega
    exact hother
  · exact fun hindex => ⟨index, hindex, rfl⟩

end Reread

/-! ## Readers -/

/-- **The snippet of all tokens of a text is cut out of what is written again.** -/
theorem snippetOfTokens_render {text : String} {scanned : Scanned} {snippet : Snippet}
    (hscanned : tokenize text = .ok scanned) (htokens : scanned.tokens ≠ [])
    (hsnippet : snippetOfTokens text.toList scanned.literalLines scanned.tokens = .ok snippet)
    (depth : Nat) :
    ∃ written, tokenize (snippet.render depth) = .ok written ∧
      List.Forall₂ Token.SameRole scanned.tokens written.tokens ∧
      snippetOfTokens (snippet.render depth).toList written.literalLines written.tokens =
        .ok snippet := by
  obtain ⟨gap, piece, back, hstands, hliteral⟩ := stands_of_tokens hscanned htokens hsnippet
  obtain ⟨lead, body, hreread⟩ := hstands.reread depth
  obtain ⟨hflawless, rfl⟩ := tokenize_eq_ok_iff.mp hscanned
  have hne := hstands.cut.nonempty
  have hbegins : beginsToken (piece ++ back) = true := by
    refine hstands.cut.beginsToken htokens ?_
    have htext : text.toList = gap ++ piece ++ back := by simpa using hstands.text_eq
    rw [scan_eq_reports, Scanner.initial_eq_fresh, htext] at hflawless
    exact hflawless
  have hwhole := hreread.isWhole hne hbegins hstands.cut.blank_last
  refine ⟨⟨_, literalLinesIn (scan (snippet.render depth).toList)⟩,
    tokenize_eq_ok_iff.mpr ⟨by rw [hreread.scan_eq]; exact hreread.flawless, rfl⟩, ?_, ?_⟩
  · -- the tokens differ in where they stand, and literals in their layout
    have halike : List.Forall₂ (Token.Alike .layout) (tokensIn (scan text.toList))
        (tokensIn (scan (snippet.render depth).toList)) := by
      have hpiece := tokensIn_alike hreread.alike
      rw [← hreread.scan_eq, hstands.cut.tokens] at hpiece
      exact hpiece
    refine List.forall₂_iff_zip.mpr ⟨halike.length_eq, fun {token other} hpair => ?_⟩
    have hlike := (List.forall₂_iff_zip.mp halike).2 hpair
    have hkept := hlike.keptAs hflawless (List.of_mem_zip hpair).1
    exact ⟨hkept.kind, hkept.literal, hlike.depth.symm⟩
  · -- the lines that are written have the indent of the depth in common, which is cut off
    have hcut := hstands.snippet_eq
    have hdedented := dedented_of_snippetOf hcut
    have hmarked := markedBy_of_snippetOf hcut
    rw [hliteral] at hmarked
    rw [hreread.scan_eq, hreread.render_eq, hwhole.snippetOfTokens_eq hreread.margin,
      hreread.written_eq hdedented.nonempty, ← hreread.scan_eq]
    exact hdedented.snippetOf_written depth (hreread.markedBy hmarked)

/-- A statement is the snippet of all tokens of its text, when they form one construct. -/
theorem statementIn_eq_ok_iff_of_tokens {text : String} {snippet : Snippet} :
    statementIn text = .ok snippet ↔
      ∃ scanned, tokenize text = .ok scanned ∧ scanned.tokens ≠ [] ∧
        constructs scanned.tokens = ([scanned.tokens], []) ∧
        snippetOfTokens text.toList scanned.literalLines scanned.tokens = .ok snippet := by
  rw [statementIn_eq_ok_iff, statementsIn_eq_ok_iff]
  constructor
  · rintro ⟨scanned, complete, hscanned, htokens, hconstructs, hcut⟩
    obtain ⟨chunk, rfl, hsnippet⟩ : ∃ chunk, complete = [chunk] ∧
        snippetOfTokens text.toList scanned.literalLines chunk = .ok snippet := by
      cases hcut with
      | cons hfirst hrest =>
          cases hrest
          exact ⟨_, rfl, hfirst⟩
    have hflatten := (constructsOnto_flatten [] .undecided scanned.tokens).1
    rw [show constructsOnto [] .undecided scanned.tokens = ([chunk], []) from hconstructs] at hflatten
    obtain rfl : chunk = scanned.tokens := by simpa using hflatten
    exact ⟨scanned, hscanned, htokens, hconstructs, hsnippet⟩
  · rintro ⟨scanned, hscanned, htokens, hconstructs, hsnippet⟩
    exact ⟨scanned, _, hscanned, htokens, hconstructs, .cons hsnippet .nil⟩

theorem statementIn_render {text : String} {snippet : Snippet}
    (hread : statementIn text = .ok snippet) (depth : Nat) :
    statementIn (snippet.render depth) = .ok snippet := by
  rw [statementIn_eq_ok_iff_of_tokens] at hread ⊢
  obtain ⟨scanned, hscanned, htokens, hconstructs, hsnippet⟩ := hread
  obtain ⟨written, hwritten, hroles, hagain⟩ :=
    snippetOfTokens_render hscanned htokens hsnippet depth
  have hne : written.tokens ≠ [] := by
    rintro hnil
    rw [hnil, List.forall₂_nil_right_iff] at hroles
    exact htokens hroles
  exact ⟨written, hwritten, hne, constructs_eq_singleton hroles hconstructs, hagain⟩

theorem annotationIn_render {text : String} {snippet : Snippet}
    (hread : annotationIn text = .ok snippet) (depth : Nat) :
    annotationIn (snippet.render depth) = .ok snippet := by
  rw [annotationIn_eq_ok_iff] at hread ⊢
  obtain ⟨scanned, hscanned, ⟨first, hfirst, hsign⟩, hsnippet⟩ := hread
  have htokens : scanned.tokens ≠ [] := List.ne_nil_of_mem (List.mem_of_mem_head? hfirst)
  obtain ⟨written, hwritten, hroles, hagain⟩ :=
    snippetOfTokens_render hscanned htokens hsnippet depth
  refine ⟨written, hwritten, ?_, hagain⟩
  generalize scanned.tokens = tokens at hfirst hroles
  generalize written.tokens = others at hroles
  cases hroles with
  | nil => cases hfirst
  | cons hrole _ =>
      obtain rfl : _ = first := by simpa using hfirst
      exact ⟨_, rfl, by rw [hrole.isMark_eq, hsign]⟩

/-- **Writing and reading give the same snippet back**, with the same lines and the same
verbatim flags, at every depth and for each of the readers of one snippet. -/
theorem readers_render (text : String) (snippet : Snippet) (depth : Nat) :
    (statementIn text = .ok snippet → statementIn (snippet.render depth) = .ok snippet) ∧
      (memberIn text = .ok snippet → memberIn (snippet.render depth) = .ok snippet) ∧
      (annotationIn text = .ok snippet → annotationIn (snippet.render depth) = .ok snippet) :=
  ⟨fun hread => statementIn_render hread depth, fun hread => statementIn_render hread depth,
    fun hread => annotationIn_render hread depth⟩

/-- A block whose template literal goes on over a line, a member that is cut off from a
comment, and an annotation that stands apart. -/
theorem readers_render_of_block :
    (statementIn "    if a \x7b\n\n      x = \x60b\n c\x60;  \n    \x7d" =
        .ok ⟨[⟨"if a \x7b", false⟩, ⟨"", false⟩, ⟨"  x = \x60b", false⟩, ⟨" c\x60;  ", true⟩,
          ⟨"\x7d", false⟩]⟩ ∧
      statementIn (Snippet.render ⟨[⟨"if a \x7b", false⟩, ⟨"", false⟩, ⟨"  x = \x60b", false⟩,
          ⟨" c\x60;  ", true⟩, ⟨"\x7d", false⟩]⟩ 2) =
        .ok ⟨[⟨"if a \x7b", false⟩, ⟨"", false⟩, ⟨"  x = \x60b", false⟩, ⟨" c\x60;  ", true⟩,
          ⟨"\x7d", false⟩]⟩) ∧
    (memberIn "// m\nfinal int a =\n    1; // n" =
        .ok ⟨[⟨"final int a =", false⟩, ⟨"    1;", false⟩]⟩ ∧
      memberIn (Snippet.render ⟨[⟨"final int a =", false⟩, ⟨"    1;", false⟩]⟩ 1) =
        .ok ⟨[⟨"final int a =", false⟩, ⟨"    1;", false⟩]⟩) ∧
    annotationIn "\n  @a \x7b b: 1\n  \x7d\n" =
        .ok ⟨[⟨"@a \x7b b: 1", false⟩, ⟨"\x7d", false⟩]⟩ ∧
      annotationIn (Snippet.render ⟨[⟨"@a \x7b b: 1", false⟩, ⟨"\x7d", false⟩]⟩ 3) =
        .ok ⟨[⟨"@a \x7b b: 1", false⟩, ⟨"\x7d", false⟩]⟩ := by
  refine ⟨?_, ?_, ?_⟩
  · have hread : statementIn "    if a \x7b\n\n      x = \x60b\n c\x60;  \n    \x7d" =
        .ok ⟨[⟨"if a \x7b", false⟩, ⟨"", false⟩, ⟨"  x = \x60b", false⟩, ⟨" c\x60;  ", true⟩,
          ⟨"\x7d", false⟩]⟩ := by decide +kernel
    exact ⟨hread, (readers_render _ _ 2).1 hread⟩
  · have hread : memberIn "// m\nfinal int a =\n    1; // n" =
        .ok ⟨[⟨"final int a =", false⟩, ⟨"    1;", false⟩]⟩ := by decide +kernel
    exact ⟨hread, (readers_render _ _ 1).2.1 hread⟩
  · have hread : annotationIn "\n  @a \x7b b: 1\n  \x7d\n" =
        .ok ⟨[⟨"@a \x7b b: 1", false⟩, ⟨"\x7d", false⟩]⟩ := by decide +kernel
    exact ⟨hread, (readers_render _ _ 3).2.2 hread⟩

end PersistLayer.Syntax
