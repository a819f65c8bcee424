import PersistLayer.Proofs.Scanner.Pieces
import PersistLayer.Proofs.Snippet.Cutting
import PersistLayer.Proofs.Snippet.Matching
import PersistLayer.Syntax.Statement

/-!
# Splitting keeps the tokens

A body of statements is split into snippets, each freed of its indent, and the
snippets are written again at some depth.  The tokens of what is written are those
of the text: none is lost between two statements, none is changed, and a literal
that spans lines differs only in the blanks next to its line breaks.

Every construct ends outside brackets, so it stands on a piece of the text with
nothing open around it (`stands_of_statementsIn`).  The snippet is that piece in
another layout, and a scanner sees through that (`Stands.tokens_alike`).
-/

namespace PersistLayer.Syntax

/-! ## A snippet and its piece of the text -/

/-- A snippet is cut from the piece of a text on which some tokens stand, with
nothing open around them. -/
structure Stands (text : List Char) (literalLines : List Nat) (chunk : List Token)
    (snippet : Snippet) (front gap piece back : List Char) : Prop where
  text_eq : text = front ++ gap ++ piece ++ back
  cut : Cut [] (origin.afterText front) chunk gap piece back
  closed : (Scanner.behind [] (origin.afterText front) gap piece).frames = []
  literal : ∀ line ∈ literalLinesIn
    ((Scanner.fresh [] ((origin.afterText front).afterText gap)).yield piece), line ∈ literalLines
  snippet_eq : snippetOf (excerpt text (Text.byteLength (front ++ gap))
    (Text.byteLength (front ++ gap ++ piece))) ((origin.afterText front).afterText gap).line
      literalLines = .ok snippet
  separated : ∀ c ∈ front.getLast?, c = ';' ∨ c = '\x7d'

theorem Scanner.skips_of_blanks (frames : List Frame) (place : Place) {blanks : List Char}
    (hblanks : ∀ c ∈ blanks, Text.isBlank c = true) :
    (fresh frames place).Skips blanks ∧ ((fresh frames place).run blanks).mode = .code := by
  by_cases hne : blanks = []
  · subst hne
    exact ⟨⟨.inl rfl, rfl, rfl⟩, rfl⟩
  · have hreaches := @reaches_code (fresh frames place) blanks rfl (by simp) hblanks hne
    exact ⟨⟨.inl hreaches.mode, hreaches.frames, hreaches.emits⟩, hreaches.mode⟩

section Stands

variable {text : List Char} {literalLines : List Nat} {chunk : List Token} {snippet : Snippet}
  {front gap piece back : List Char}

/-- A snippet as it is written is its piece of the text in another layout. -/
theorem Stands.relaid (h : Stands text literalLines chunk snippet front gap piece back)
    (depth : Nat) :
    ∃ lead body, IsMargin lead ∧ (snippet.render depth).toList = lead ++ body ++ ['\n'] ∧
      Relaid (Scanner.fresh [] ((origin.afterText front).afterText gap)) piece body := by
  obtain ⟨hemits, -⟩ := (flawless_append _ _).mp h.cut.flawless
  have hrespects : (Scanner.fresh [] ((origin.afterText front).afterText gap)).Respects
      literalLines.contains piece := by
    refine ⟨Scanner.fresh_live _ _, hemits, ?_, h.cut.blank_last⟩
    intro line hline
    refine List.contains_iff_mem.mpr (h.literal line ?_)
    rw [Scanner.yield, literalLinesIn_append]
    exact List.mem_append_left _ hline
  have hsnippet := h.snippet_eq
  rw [h.text_eq] at hsnippet
  exact relaid_of_cut hsnippet h.cut.nonempty h.cut.blank_first rfl hrespects depth

/-- A snippet as it is written is read like its piece of the text. -/
theorem Stands.matches (h : Stands text literalLines chunk snippet front gap piece back)
    (place : Place) (hplace : place.line = 0) {body : List Char}
    (hrelaid : Relaid (Scanner.fresh [] ((origin.afterText front).afterText gap)) piece body) :
    Matches .layout ((origin.afterText front).afterText gap).line
        (Scanner.behind [] (origin.afterText front) gap piece) ((Scanner.fresh [] place).run body) ∧
      ReportsAlike .layout ((origin.afterText front).afterText gap).line
        ((Scanner.fresh [] ((origin.afterText front).afterText gap)).emits piece)
        ((Scanner.fresh [] place).emits body) := by
  have hstart : Matches .layout ((origin.afterText front).afterText gap).line
      (Scanner.fresh [] ((origin.afterText front).afterText gap)) (Scanner.fresh [] place) :=
    ⟨rfl, rfl, by simp [hplace], .nil⟩
  exact hstart.run (Scanner.fresh_live _ _) hrelaid ((flawless_append _ _).mp h.cut.flawless).1

/-- Behind a snippet nothing is open, and no comment goes on. -/
theorem Stands.behind_closed (h : Stands text literalLines chunk snippet front gap piece back)
    {shift : Nat} {other : Scanner}
    (hmatch : Matches .layout shift (Scanner.behind [] (origin.afterText front) gap piece) other) :
    other.frames = [] ∧ other.mode.isCode = true ∧ other.mode ≠ .comment := by
  have hcode := h.cut.stops.isCode
  rw [hmatch.mode_eq hcode]
  exact ⟨hmatch.frames_eq_nil h.closed, hcode, h.cut.mode_ne⟩

/-- A snippet as it is written at a depth is a margin, the piece at `place` in another
layout, and a line feed, and what is reported on it is reported on the piece, as many
lines further down as the piece is. -/
structure Reread (snippet : Snippet) (depth : Nat) (place : Place) (piece lead body : List Char) :
    Prop where
  margin : IsMargin lead
  render_eq : (snippet.render depth).toList = lead ++ body ++ ['\n']
  relaid : Relaid (Scanner.fresh [] place) piece body
  frames : ((Scanner.fresh [] (origin.afterText lead)).run body).frames = []
  isCode : ((Scanner.fresh [] (origin.afterText lead)).run body).mode.isCode = true
  mode_ne : ((Scanner.fresh [] (origin.afterText lead)).run body).mode ≠ .comment
  scan_eq : scan (snippet.render depth).toList =
    (Scanner.fresh [] (origin.afterText lead)).yield body
  alike : ReportsAlike .layout place.line ((Scanner.fresh [] place).yield piece)
    ((Scanner.fresh [] (origin.afterText lead)).yield body)

/-- The margin that a snippet is written behind is on the first line. -/
theorem IsMargin.line_eq {lead : List Char} (hlead : IsMargin lead) :
    (origin.afterText lead).line = 0 := by
  rw [Place.line_afterText, List.count_eq_zero_of_not_mem hlead.not_mem]
  rfl

/-- **A snippet as it is written is read like its piece of the text.** -/
theorem Stands.reread (h : Stands text literalLines chunk snippet front gap piece back)
    (depth : Nat) :
    ∃ lead body, Reread snippet depth ((origin.afterText front).afterText gap) piece lead body := by
  obtain ⟨lead, body, hlead, hrender, hrelaid⟩ := h.relaid depth
  obtain ⟨hmatch, hemits⟩ := h.matches _ hlead.line_eq hrelaid
  obtain ⟨hskips, hcode⟩ := Scanner.skips_of_blanks [] origin fun c hc => (hlead c hc).1
  obtain ⟨hframes, hmode, hcomment⟩ := h.behind_closed hmatch
  refine ⟨lead, body, hlead, hrender, hrelaid, hframes, hmode, hcomment, ?_,
    List.rel_append hemits hmatch.pending⟩
  set other := (Scanner.fresh [] (origin.afterText lead)).run body with hother
  have hstops : other.StopsBefore ['\n'] := by
    refine ⟨hmode, by rw [hframes]; rfl, ?_⟩
    rintro _ ⟨rfl⟩
    exact Mode.goesOnWith_of_isBlank hcomment (by decide)
  have hfeed := (Scanner.skips_of_blanks other.frames other.place
    (show ∀ c ∈ ['\n'], Text.isBlank c = true by simp; decide)).1.reports_nil
  calc scan (snippet.render depth).toList
      = (Scanner.fresh [] origin).reports (lead ++ (body ++ ['\n'])) := by
        rw [scan_eq_reports, hrender, List.append_assoc, Scanner.initial_eq_fresh]
    _ = (Scanner.fresh [] (origin.afterText lead)).reports (body ++ ['\n']) :=
        hskips.reports_eq hcode rfl _
    _ = (Scanner.fresh [] (origin.afterText lead)).yield body ++ [] := by
        rw [Scanner.reports_append_of_stopsBefore hstops, ← hother, hfeed, hframes]
        rfl
    _ = (Scanner.fresh [] (origin.afterText lead)).yield body := List.append_nil _

/-- A snippet as it is written has the tokens that it was cut from. -/
theorem Stands.tokens_alike (h : Stands text literalLines chunk snippet front gap piece back)
    (depth : Nat) :
    ∃ parsed, tokenize (snippet.render depth) = .ok parsed ∧
      List.Forall₂ (Token.Alike .layout) chunk parsed.tokens := by
  obtain ⟨lead, body, hreread⟩ := h.reread depth
  refine ⟨_, tokenize_eq_ok_iff.mpr ⟨?_, rfl⟩, ?_⟩
  · rw [hreread.scan_eq]
    exact (flawless_of_alike hreread.alike).2
  · rw [← h.cut.tokens, hreread.scan_eq]
    exact tokensIn_alike hreread.alike

end Stands

/-! ## Constructs -/

/-- The tokens end with one that ends a construct. -/
def EndsConstruct (tokens : List Token) : Prop :=
  ∃ last ∈ tokens.getLast?, ∃ form next, last.endsConstruct form next = true

theorem EndsConstruct.ne_nil {tokens : List Token} (h : EndsConstruct tokens) : tokens ≠ [] := by
  rintro rfl
  obtain ⟨last, hlast, -⟩ := h
  cases hlast

/-- Grouping tokens into constructs keeps them in order. -/
theorem constructsOnto_flatten (run : List Token) (form : Form) (tokens : List Token) :
    (constructsOnto run form tokens).1.flatten ++ (constructsOnto run form tokens).2 =
        run.reverse ++ tokens ∧
      ∀ construct ∈ (constructsOnto run form tokens).1, EndsConstruct construct := by
  induction tokens generalizing run form with
  | nil => simp [constructsOnto]
  | cons token rest ih =>
      simp only [constructsOnto]
      split_ifs with hends
      · obtain ⟨hflatten, hconstructs⟩ := ih [] .undecided
        refine ⟨?_, ?_⟩
        · rw [List.flatten_cons, List.append_assoc, hflatten]
          simp
        · intro construct hmem
          rcases List.mem_cons.mp hmem with rfl | hmem
          · exact ⟨token, by simp, _, _, hends⟩
          · exact hconstructs construct hmem
      · obtain ⟨hflatten, hconstructs⟩ := ih (token :: run) (form.after token)
        exact ⟨by rw [hflatten]; simp, hconstructs⟩

/-- Nothing is open behind a construct. -/
theorem Token.of_endsConstruct {token : Token} {form : Form} {next : Option Token}
    (hends : token.endsConstruct form next = true) : token.depth = 0 ∧ token.opens = false := by
  simp only [endsConstruct, Bool.and_eq_true, beq_iff_eq, Bool.or_eq_true] at hends
  obtain ⟨hdepth, hmark⟩ := hends
  refine ⟨hdepth, ?_⟩
  rcases hmark with hmark | ⟨⟨hmark, -⟩, -⟩ <;>
    · simp only [isMark, Bool.and_eq_true, beq_iff_eq] at hmark
      simp [opens, isMark, hmark.2]

/-- Nothing is open behind the piece that a construct stands on. -/
theorem EndsConstruct.closed {chunk : List Token} (hends : EndsConstruct chunk)
    {frames : List Frame} {place : Place} {gap piece back : List Char}
    (hcut : Cut frames place chunk gap piece back) :
    (Scanner.behind frames place gap piece).frames = [] := by
  obtain ⟨last, hlast, form, next, hend⟩ := hends
  obtain ⟨hdepth, hopens⟩ := Token.of_endsConstruct hend
  rw [← List.length_eq_zero_iff, ← (hcut.last last hlast).2 hopens, hdepth]

/-- A construct is written up to a semicolon or a closing brace. -/
theorem EndsConstruct.getLast?_piece {chunk : List Token} (hends : EndsConstruct chunk)
    {frames : List Frame} {place : Place} {gap piece back : List Char}
    (hcut : Cut frames place chunk gap piece back) :
    ∀ c ∈ piece.getLast?, c = ';' ∨ c = '\x7d' := by
  obtain ⟨last, hlast, form, next, hend⟩ := hends
  obtain ⟨source, hsource, hspells⟩ := hcut.spelled last hlast
  obtain ⟨mark, hmark, hsame⟩ : ∃ mark, (mark = ";" ∨ mark = "\x7d") ∧ last.isMark mark = true := by
    simp only [Token.endsConstruct, Bool.and_eq_true, Bool.or_eq_true] at hend
    rcases hend.2 with hmark | ⟨⟨hmark, -⟩, -⟩
    · exact ⟨_, .inl rfl, hmark⟩
    · exact ⟨_, .inr rfl, hmark⟩
  simp only [Token.isMark, Bool.and_eq_true, beq_iff_eq] at hsame
  simp only [Token.Spells, hsame.1, hsame.2] at hspells
  obtain ⟨front, rfl⟩ := hsource
  intro c hc
  rcases hmark with rfl | rfl
  · left
    simpa [hspells.1] using hc.symm
  · right
    simpa [hspells.1] using hc.symm

/-- The first and the last token of a piece, with the bytes and the line of the piece. -/
theorem Cut.exists_ends {chunk : List Token} {front gap piece back : List Char}
    (hcut : Cut [] (origin.afterText front) chunk gap piece back) (hchunk : chunk ≠ []) :
    ∃ first last, chunk.head? = some first ∧ chunk.getLast? = some last ∧
      first.start = Text.byteLength (front ++ gap) ∧
      first.line = ((origin.afterText front).afterText gap).line ∧
      last.stop = Text.byteLength (front ++ gap ++ piece) := by
  obtain ⟨first, hfirst⟩ : ∃ first, chunk.head? = some first := by
    obtain ⟨first, rest, rfl⟩ := List.exists_cons_of_ne_nil hchunk
    exact ⟨first, rfl⟩
  obtain ⟨last, hlast⟩ : ∃ last, chunk.getLast? = some last :=
    ⟨_, List.getLast?_eq_some_getLast hchunk⟩
  obtain ⟨hstart, hline⟩ := hcut.first first hfirst
  obtain ⟨hstop, -⟩ := hcut.last last hlast
  rw [← Place.afterText_append, offset_origin] at hstart
  rw [hcut.place_eq, ← Place.afterText_append, offset_origin, ← List.append_assoc] at hstop
  exact ⟨first, last, hfirst, hlast, hstart, hline, hstop⟩

/-- The snippet of some tokens is cut from the piece they stand on. -/
theorem Cut.snippetOfTokens_eq {text : List Char} {literalLines : List Nat}
    {chunk : List Token} {front gap piece back : List Char}
    (hcut : Cut [] (origin.afterText front) chunk gap piece back) (hchunk : chunk ≠ []) :
    snippetOfTokens text literalLines chunk =
      snippetOf (excerpt text (Text.byteLength (front ++ gap))
        (Text.byteLength (front ++ gap ++ piece)))
        ((origin.afterText front).afterText gap).line literalLines := by
  obtain ⟨first, last, hfirst, hlast, hstart, hline, hstop⟩ := hcut.exists_ends hchunk
  simp only [snippetOfTokens, hfirst, hlast, cutSnippet, hstart, hstop, hline]

/-- **Each construct stands on a piece of the text** with nothing open around it. -/
theorem stands_of_constructs {text : List Char} {literalLines : List Nat}
    {complete : List (List Token)} {snippets : List Snippet}
    (hsnippets : List.Forall₂
      (fun chunk snippet => snippetOfTokens text literalLines chunk = .ok snippet)
      complete snippets)
    (hends : ∀ chunk ∈ complete, EndsConstruct chunk) (front : List Char) {here : List Char}
    (htext : text = front ++ here) (hseparated : ∀ c ∈ front.getLast?, c = ';' ∨ c = '\x7d')
    (hflawless : Flawless ((Scanner.fresh [] (origin.afterText front)).reports here))
    (htokens : tokensIn ((Scanner.fresh [] (origin.afterText front)).reports here) =
      complete.flatten)
    (hliteral : ∀ line ∈
      literalLinesIn ((Scanner.fresh [] (origin.afterText front)).reports here),
      line ∈ literalLines) :
    List.Forall₂ (fun chunk snippet => ∃ front gap piece back,
      Stands text literalLines chunk snippet front gap piece back) complete snippets := by
  induction hsnippets generalizing front here with
  | nil => exact .nil
  | @cons chunk snippet complete snippets hsnippet _ ih =>
      -- behind the piece of the first construct the rest is read by a fresh scanner
      have hchunk := hends chunk List.mem_cons_self
      obtain ⟨gap, piece, back, rfl, hcut⟩ :=
        exists_cut rfl hflawless (htokens.trans List.flatten_cons) hchunk.ne_nil
      rw [hcut.reports_eq, flawless_append] at hflawless
      rw [hcut.reports_eq, tokensIn_append, hcut.tokens, List.flatten_cons] at htokens
      rw [hcut.reports_eq, literalLinesIn_append] at hliteral
      have hclosed := hchunk.closed hcut
      have hplace : (Scanner.behind [] (origin.afterText front) gap piece).place =
          origin.afterText (front ++ gap ++ piece) := by
        rw [hcut.place_eq, ← Place.afterText_append, List.append_assoc]
      refine .cons ⟨front, gap, piece, back, by rw [htext]; simp, hcut, hclosed,
        fun line hline => hliteral line (List.mem_append_left _ hline), ?_, hseparated⟩ ?_
      · rw [← hcut.snippetOfTokens_eq hchunk.ne_nil]
        exact hsnippet
      · rw [hclosed, hplace] at hflawless htokens hliteral
        have hnext : ∀ c ∈ (front ++ gap ++ piece).getLast?, c = ';' ∨ c = '\x7d' := by
          rw [List.getLast?_append_of_ne_nil _ hcut.nonempty]
          exact hchunk.getLast?_piece hcut
        exact ih (fun other hmem => hends other (List.mem_cons_of_mem _ hmem)) _
          (by rw [htext]; simp) hnext hflawless.2 (List.append_cancel_left htokens)
          fun line hline => hliteral line (List.mem_append_right _ hline)

/-- Statements can be read when their text has no fault and some token, every token
belongs to a construct, and every construct can be cut out. -/
theorem statementsIn_eq_ok_iff {text : String} {snippets : List Snippet} :
    statementsIn text = .ok snippets ↔
      ∃ scanned complete, tokenize text = .ok scanned ∧ scanned.tokens ≠ [] ∧
        constructs scanned.tokens = (complete, []) ∧
        List.Forall₂
          (fun chunk snippet =>
            snippetOfTokens text.toList scanned.literalLines chunk = .ok snippet)
          complete snippets := by
  constructor
  · intro hread
    obtain ⟨scanned, hscanned, hread⟩ := bind_eq_ok_iff.mp hread
    obtain ⟨complete, left, hconstructs⟩ : ∃ complete left,
        constructs scanned.tokens = (complete, left) := ⟨_, _, rfl⟩
    simp only [hconstructs] at hread
    split_ifs at hread with hempty
    · obtain ⟨_, herror, -⟩ := bind_eq_ok_iff.mp hread
      cases herror
    obtain ⟨cut, hcut, hread⟩ := bind_eq_ok_iff.mp hread
    -- tokens that are left over are an error
    obtain rfl : left = [] := by
      cases hlast : left.getLast? with
      | none => exact List.getLast?_eq_none_iff.mp hlast
      | some last => simp [hlast] at hread
    obtain rfl : cut = snippets := by simpa using hread
    exact ⟨scanned, complete, hscanned, by simpa using hempty, hconstructs, mapM_eq_ok_iff.mp hcut⟩
  · rintro ⟨scanned, complete, hscanned, htokens, hconstructs, hcut⟩
    refine bind_eq_ok_iff.mpr ⟨scanned, hscanned, ?_⟩
    have hsome : scanned.tokens.isEmpty = false := by simpa using htokens
    simp only [hsome, hconstructs, mapM_eq_ok_iff.mpr hcut]
    rfl

/-- Statements that can be read are cut from a text without a fault, and their
constructs hold all its tokens. -/
theorem stands_of_statementsIn {text : String} {snippets : List Snippet}
    (hread : statementsIn text = .ok snippets) :
    ∃ scanned complete, tokenize text = .ok scanned ∧ scanned.tokens = complete.flatten ∧
      List.Forall₂ (fun chunk snippet => ∃ front gap piece back,
        Stands text.toList scanned.literalLines chunk snippet front gap piece back)
        complete snippets := by
  obtain ⟨scanned, complete, hscanned, -, hconstructs, hcut⟩ := statementsIn_eq_ok_iff.mp hread
  obtain ⟨hflatten, hends⟩ := constructsOnto_flatten [] .undecided scanned.tokens
  rw [show constructsOnto [] .undecided scanned.tokens = (complete, []) from hconstructs]
    at hflatten hends
  obtain ⟨hflawless, rfl⟩ := tokenize_eq_ok_iff.mp hscanned
  rw [List.append_nil, List.reverse_nil, List.nil_append] at hflatten
  refine ⟨_, complete, hscanned, hflatten.symm, ?_⟩
  rw [scan_eq_reports] at hflawless
  exact stands_of_constructs hcut hends [] rfl (by simp) hflawless
    (by rw [hflatten, scan_eq_reports]; rfl) (by rw [scan_eq_reports]; exact fun _ h => h)

/-- All tokens of a text stand on one piece of it, and no line that begins inside a
template literal is outside the piece. -/
theorem stands_of_tokens {text : String} {scanned : Scanned} {snippet : Snippet}
    (hscanned : tokenize text = .ok scanned) (htokens : scanned.tokens ≠ [])
    (hsnippet : snippetOfTokens text.toList scanned.literalLines scanned.tokens = .ok snippet) :
    ∃ gap piece back,
      Stands text.toList scanned.literalLines scanned.tokens snippet [] gap piece back ∧
        scanned.literalLines =
          literalLinesIn ((Scanner.fresh [] (origin.afterText gap)).yield piece) := by
  obtain ⟨hflawless, rfl⟩ := tokenize_eq_ok_iff.mp hscanned
  simp only [scan_eq_reports, Scanner.initial_eq_fresh]
    at hscanned hflawless htokens hsnippet ⊢
  obtain ⟨gap, piece, back, htext, hcut⟩ :=
    exists_cut rfl hflawless (List.append_nil _).symm htokens
  rw [htext, hcut.reports_eq, flawless_append] at hflawless
  have hrest := hcut.tokens
  rw [htext, hcut.reports_eq, tokensIn_append, eq_comm, List.append_right_eq_self] at hrest
  -- a further token behind the piece would be one of its own
  obtain ⟨hclosed, hskips⟩ : (Scanner.behind [] origin gap piece).frames = [] ∧
      (Scanner.fresh (Scanner.behind [] origin gap piece).frames
        (Scanner.behind [] origin gap piece).place).Skips back := by
    rcases exists_next hcut.stops.outside hflawless.2 with
      ⟨hframes, hskips, -⟩ | ⟨next, between, source, left, hback, -, hnext⟩
    · exact ⟨hframes, hskips⟩
    · rw [hback, hnext.reports_eq, tokensIn_append, hnext.tokens] at hrest
      cases hrest
  have hliteral : literalLinesIn ((Scanner.fresh [] origin).reports text.toList) =
      literalLinesIn ((Scanner.fresh [] (origin.afterText gap)).yield piece) := by
    rw [htext, hcut.reports_eq, hskips.reports_nil, hclosed]
    exact congrArg literalLinesIn (List.append_nil _)
  refine ⟨gap, piece, back, ⟨by simpa using htext, hcut, hclosed, ?_, ?_, by simp⟩, hliteral⟩
  · intro line hline
    rw [hliteral]
    exact hline
  · have hwhole : Cut [] (origin.afterText [])
        (tokensIn ((Scanner.fresh [] origin).reports text.toList)) gap piece back := hcut
    rw [← hwhole.snippetOfTokens_eq htokens]
    exact hsnippet

/-- An annotation is cut from all the tokens of its text. -/
theorem annotationIn_eq_ok_iff {text : String} {snippet : Snippet} :
    annotationIn text = .ok snippet ↔
      ∃ scanned, tokenize text = .ok scanned ∧
        (∃ first ∈ scanned.tokens.head?, first.isMark "@" = true) ∧
        snippetOfTokens text.toList scanned.literalLines scanned.tokens = .ok snippet := by
  rw [annotationIn, bind_eq_ok_iff]
  refine exists_congr fun scanned => and_congr_right fun _ => ?_
  cases htokens : scanned.tokens with
  | nil =>
      simp only [List.head?_nil, Option.not_mem_none, false_and, exists_false, iff_false]
      exact nofun
  | cons first rest =>
      simp only [List.head?_cons, Option.mem_some_iff, exists_eq_left']
      cases hsign : first.isMark "@" with
      | true => simp
      | false => exact iff_of_false nofun fun h => absurd h.1 (by simp)

/-- An annotation stands on a piece of the text that holds all its tokens. -/
theorem stands_of_annotationIn {text : String} {snippet : Snippet}
    (hread : annotationIn text = .ok snippet) :
    ∃ scanned gap piece back, tokenize text = .ok scanned ∧
      Stands text.toList scanned.literalLines scanned.tokens snippet [] gap piece back := by
  obtain ⟨scanned, hscanned, ⟨first, hfirst, -⟩, hsnippet⟩ := annotationIn_eq_ok_iff.mp hread
  have htokens : scanned.tokens ≠ [] := List.ne_nil_of_mem (List.mem_of_mem_head? hfirst)
  obtain ⟨gap, piece, back, hstands, -⟩ := stands_of_tokens hscanned htokens hsnippet
  exact ⟨scanned, gap, piece, back, hscanned, hstands⟩

/-- The snippet was read from some text. -/
inductive Snippet.IsRead (snippet : Snippet) : Prop where
  | statement {text : String} (h : statementIn text = .ok snippet)
  | member {text : String} (h : memberIn text = .ok snippet)
  | marking {text : String} (h : annotationIn text = .ok snippet)
  | oneOf {text : String} {snippets : List Snippet} (h : statementsIn text = .ok snippets)
      (hmem : snippet ∈ snippets)

/-- One statement can be read when it is all that can be read. -/
theorem statementIn_eq_ok_iff {text : String} {snippet : Snippet} :
    statementIn text = .ok snippet ↔ statementsIn text = .ok [snippet] := by
  rw [statementIn, bind_eq_ok_iff]
  constructor
  · rintro ⟨snippets, hsnippets, hsingle⟩
    rw [hsnippets]
    split at hsingle
    · rw [pure_eq_ok_iff] at hsingle
      rw [hsingle]
    · cases hsingle
  · exact fun h => ⟨[snippet], h, rfl⟩

/-- A snippet that was read stands on a piece of its text. -/
theorem Snippet.IsRead.stands {snippet : Snippet} (hread : snippet.IsRead) :
    ∃ text literalLines chunk front gap piece back,
      Stands text literalLines chunk snippet front gap piece back := by
  -- statements and members are read alike; an annotation is the whole of its text
  have hone : ∀ {text : String} {snippets : List Snippet}, statementsIn text = .ok snippets →
      snippet ∈ snippets → ∃ text literalLines chunk front gap piece back,
        Stands text literalLines chunk snippet front gap piece back := by
    intro text snippets hsnippets hmem
    obtain ⟨scanned, complete, -, -, hstands⟩ := stands_of_statementsIn hsnippets
    clear hsnippets
    induction hstands with
    | nil => cases hmem
    | cons hfirst _ ih =>
        rcases List.mem_cons.mp hmem with rfl | hmem
        · exact ⟨_, _, _, hfirst⟩
        · exact ih hmem
  cases hread with
  | statement h => exact hone (statementIn_eq_ok_iff.mp h) List.mem_cons_self
  | member h => exact hone (statementIn_eq_ok_iff.mp h) List.mem_cons_self
  | marking h =>
      obtain ⟨scanned, gap, piece, back, -, hstands⟩ := stands_of_annotationIn h
      exact ⟨_, _, _, [], gap, piece, back, hstands⟩
  | oneOf h hmem => exact hone h hmem

/-! ## The tokens of all statements -/

/-- A token of a text is written again as `other`: the same, or a literal over several
lines with other blanks next to its line breaks. -/
structure Token.KeptAs (text : String) (token other : Token) : Prop where
  kind : other.kind = token.kind
  same : '\n' ∉ token.span text → other.text = token.text
  literal : other.text ≠ token.text → token.kind = .string ∨ token.kind = .template
  layout : Reindented token.text.toList other.text.toList

theorem Token.Alike.keptAs {text : String} {token other : Token} (halike : token.Alike .layout other)
    (hflawless : Flawless (scan text.toList)) (htoken : token ∈ tokensIn (scan text.toList)) :
    token.KeptAs text other := by
  rw [scan_eq_reports, Scanner.initial_eq_fresh] at hflawless htoken
  obtain ⟨front, source, back, htext, hspells, -, hstart, hstop⟩ :=
    exists_source rfl hflawless htoken
  have hspan : token.span text = source := by
    rw [offset_origin] at hstart hstop
    exact Token.span_eq htext hstart hstop
  have hsame : '\n' ∉ token.text.toList → other.text = token.text := fun hline =>
    String.toList_injective (halike.text.eq_of_not_mem hline)
  refine ⟨halike.kind.symm, fun hline => hsame ?_, fun hdiffer => ?_, halike.text⟩
  · rw [hspan] at hline
    exact fun hmem => hline (hspells.subset hmem)
  · by_contra hword
    push Not at hword
    exact hdiffer (hsame (hspells.not_mem_of_word hword.1 hword.2))

/-- **Splitting, dedenting and indenting again keep every token.** -/
theorem statementsIn_keeps_tokens {text : String} {snippets : List Snippet}
    (hread : statementsIn text = .ok snippets) (depth : Nat) :
    ∃ scanned parts, tokenize text = .ok scanned ∧
      snippets.mapM (fun snippet => tokenize (snippet.render depth)) = .ok parts ∧
      List.Forall₂ (Token.KeptAs text) scanned.tokens (parts.flatMap Scanned.tokens) := by
  obtain ⟨scanned, complete, hscanned, htokens, hstands⟩ := stands_of_statementsIn hread
  obtain ⟨hflawless, hparts⟩ := tokenize_eq_ok_iff.mp hscanned
  obtain ⟨parts, hparse, halike⟩ : ∃ parts,
      List.Forall₂ (fun snippet parsed => tokenize (snippet.render depth) = .ok parsed)
        snippets parts ∧
      List.Forall₂ (Token.Alike .layout) complete.flatten (parts.flatMap Scanned.tokens) := by
    clear hread htokens
    induction hstands with
    | nil => exact ⟨[], .nil, .nil⟩
    | cons hfirst _ ih =>
        obtain ⟨front, gap, piece, back, hstand⟩ := hfirst
        obtain ⟨parsed, hparsed, hfirst⟩ := hstand.tokens_alike depth
        obtain ⟨parts, hparts, hrest⟩ := ih
        exact ⟨parsed :: parts, .cons hparsed hparts, List.rel_append hfirst hrest⟩
  refine ⟨scanned, parts, hscanned, mapM_eq_ok_iff.mpr hparse, ?_⟩
  rw [htokens]
  have hmem : ∀ token ∈ complete.flatten, token ∈ tokensIn (scan text.toList) := by
    intro token htoken
    rw [← htokens, hparts] at htoken
    exact htoken
  obtain ⟨hlength, hzip⟩ := List.forall₂_iff_zip.mp halike
  refine List.forall₂_iff_zip.mpr ⟨hlength, fun {token other} hpair => ?_⟩
  exact (hzip hpair).keptAs hflawless (hmem token (List.of_mem_zip hpair).1)

/-- A block and a template literal over two lines, written at depth one. -/
theorem statementsIn_keeps_tokens_of_block :
    statementsIn "  lock \x7b\n    x = 1;\n  \x7d\n\ny = \x60a\n  b\x60;\n" =
        .ok [⟨[⟨"lock \x7b", false⟩, ⟨"  x = 1;", false⟩, ⟨"\x7d", false⟩]⟩,
          ⟨[⟨"y = \x60a", false⟩, ⟨"  b\x60;", true⟩]⟩] ∧
      ∃ scanned parts,
        tokenize "  lock \x7b\n    x = 1;\n  \x7d\n\ny = \x60a\n  b\x60;\n" = .ok scanned ∧
        List.mapM (fun snippet : Snippet => tokenize (snippet.render 1))
          [⟨[⟨"lock \x7b", false⟩, ⟨"  x = 1;", false⟩, ⟨"\x7d", false⟩]⟩,
            ⟨[⟨"y = \x60a", false⟩, ⟨"  b\x60;", true⟩]⟩] = .ok parts ∧
        List.Forall₂ (Token.KeptAs "  lock \x7b\n    x = 1;\n  \x7d\n\ny = \x60a\n  b\x60;\n")
          scanned.tokens (parts.flatMap Scanned.tokens) := by
  have hread : statementsIn "  lock \x7b\n    x = 1;\n  \x7d\n\ny = \x60a\n  b\x60;\n" =
      .ok [⟨[⟨"lock \x7b", false⟩, ⟨"  x = 1;", false⟩, ⟨"\x7d", false⟩]⟩,
        ⟨[⟨"y = \x60a", false⟩, ⟨"  b\x60;", true⟩]⟩] := by
    decide +kernel
  exact ⟨hread, statementsIn_keeps_tokens hread 1⟩

end PersistLayer.Syntax
