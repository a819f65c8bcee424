import PersistLayer.Proofs.Scanner.LiteralLines
import PersistLayer.Proofs.Snippet.Braced
import PersistLayer.Proofs.Snippet.Rereading

/-!
# Statements of a body, read alone

The part of a body that a statement was cut from is a text with the same tokens, and they
form one construct again (`constructs_of_mem`).  It is therefore always read as one
statement, but not always as the same one: a body numbers its own lines, and a statement
behind a template literal may stand on a line that begins inside the literal.  In the body
its first line counts as verbatim then, and alone it does not.

What lies elsewhere in the body marks no other line of a statement, for the lines that
begin inside literals in front of it are up to its first line, and those behind it are
below its last (`Placed`).  So the two snippets are the same exactly when the first line
does not begin inside a literal (`statementIn_slice`).
-/

namespace PersistLayer.Syntax

/-! ## One construct -/

/-- The tokens of the first construct are one construct alone. -/
theorem constructsOnto_head {run tokens chunk left : List Token} {form : Form}
    {complete : List (List Token)}
    (h : constructsOnto run form tokens = (chunk :: complete, left)) :
    ∃ mine rest, tokens = mine ++ rest ∧ constructsOnto run form mine = ([chunk], []) ∧
      constructs rest = (complete, left) := by
  induction tokens generalizing run form with
  | nil => simp [constructsOnto] at h
  | cons token rest ih =>
      simp only [constructsOnto] at h
      split_ifs at h with hends
      · -- what follows can keep a token from ending a construct, but not make it end one
        have hlast := Token.endsConstruct_none hends
        obtain ⟨hcomplete, rfl⟩ := Prod.mk.inj h
        obtain ⟨rfl, rfl⟩ := List.cons.inj hcomplete
        exact ⟨[token], rest, rfl, by simp [constructsOnto, hlast], rfl⟩
      · obtain ⟨mine, back, rfl, hmine, hback⟩ := ih h
        have hnext : mine.head? = (mine ++ back).head? := by
          cases mine with
          | nil => simp [constructsOnto] at hmine
          | cons next more => rfl
        refine ⟨token :: mine, back, rfl, ?_, hback⟩
        rw [constructsOnto, hnext, if_neg hends]
        exact hmine

/-- **Every construct is one construct alone.** -/
theorem constructs_of_mem {tokens left : List Token} {complete : List (List Token)}
    (h : constructs tokens = (complete, left)) :
    ∀ chunk ∈ complete, constructs chunk = ([chunk], []) := by
  induction complete generalizing tokens with
  | nil => simp
  | cons first complete ih =>
      obtain ⟨mine, rest, rfl, hmine, hrest⟩ := constructsOnto_head h
      have hflatten := (constructsOnto_flatten [] .undecided mine).1
      rw [hmine] at hflatten
      obtain rfl : first = mine := by simpa using hflatten
      intro chunk hchunk
      rcases List.mem_cons.mp hchunk with rfl | hmore
      · exact hmine
      · exact ih hrest chunk hmore

/-- Constructs one behind the other end where the last of them does. -/
theorem endsConstruct_flatten {complete : List (List Token)}
    (hends : ∀ chunk ∈ complete, EndsConstruct chunk) (hne : complete.flatten ≠ []) :
    EndsConstruct complete.flatten := by
  rcases List.eq_nil_or_concat complete with rfl | ⟨front, chunk, rfl⟩
  · exact absurd rfl hne
  · have hchunk := hends chunk (by simp)
    obtain ⟨last, hlast, hend⟩ := hchunk
    refine ⟨last, ?_, hend⟩
    rw [List.concat_eq_append, List.flatten_concat]
    exact List.mem_getLast?_append_of_mem_getLast? hlast

/-! ## Its place in the text -/

/-- The lines of a construct that begin inside a literal are among those of its piece, and
its first line is none of them. -/
theorem EndsConstruct.literalLine_bounds {chunk : List Token} (hends : EndsConstruct chunk)
    {frames : List Frame} {place : Place} {gap piece back : List Char}
    (hcut : Cut frames place chunk gap piece back) :
    ∀ line ∈ literalLinesIn ((Scanner.fresh frames (place.afterText gap)).yield piece),
      (place.afterText gap).line < line ∧ line ≤ (place.afterText (gap ++ piece)).line := by
  have hreports : (Scanner.fresh frames (place.afterText gap)).reports piece =
      (Scanner.fresh frames (place.afterText gap)).yield piece :=
    Scanner.reports_eq_yield hcut.stops.isCode (hends.closed hcut)
  intro line hline
  have hflawless := hcut.flawless
  rw [← hreports] at hline hflawless
  have hbounds := Syntax.literalLine_bounds (Scanner.fresh_live _ _) hflawless line hline
  rw [Place.afterText_append, Place.line_afterText _ piece]
  exact hbounds

/-- What is read behind some constructs is read as if there were nothing else, and the
lines in front that begin inside literals are above it. -/
structure ReadsOn (text : List Char) (front here : List Char) (rest : List Token) : Prop where
  text_eq : text = front ++ here
  separated : ∀ c ∈ front.getLast?, c = ';' ∨ c = '\x7d'
  flawless : Flawless ((Scanner.fresh [] (origin.afterText front)).reports here)
  tokens : tokensIn ((Scanner.fresh [] (origin.afterText front)).reports here) = rest
  literal : ∃ earlier, literalLinesIn (scan text) =
      earlier ++ literalLinesIn ((Scanner.fresh [] (origin.afterText front)).reports here) ∧
    ∀ line ∈ earlier, front ≠ [] ∧ line ≤ (origin.afterText front).line

theorem exists_readsOn {text : List Char} {before rest : List Token}
    (hflawless : Flawless (scan text)) (htokens : tokensIn (scan text) = before ++ rest)
    (hends : before ≠ [] → EndsConstruct before) :
    ∃ front here, ReadsOn text front here rest := by
  rw [scan_eq_reports, Scanner.initial_eq_fresh] at hflawless htokens
  by_cases hbefore : before = []
  · -- no token is in front, so nothing is cut off
    subst hbefore
    refine ⟨[], text, rfl, by simp, hflawless, htokens, [], ?_, by simp⟩
    rw [scan_eq_reports]
    rfl
  · -- what is in front ends with a construct, behind which nothing is open
    have hends := hends hbefore
    obtain ⟨gap, piece, here, rfl, hcut⟩ := exists_cut rfl hflawless htokens hbefore
    have hplace : (Scanner.behind [] origin gap piece).place = origin.afterText (gap ++ piece) :=
      hcut.place_eq
    have hreports := hcut.reports_eq
    rw [hends.closed hcut, hplace] at hreports
    rw [hreports, flawless_append] at hflawless
    rw [hreports, tokensIn_append, hcut.tokens] at htokens
    refine ⟨gap ++ piece, here, rfl, ?_, hflawless.2, List.append_cancel_left htokens, _, ?_,
      fun line hline => ⟨by simp [hcut.nonempty], (hends.literalLine_bounds hcut line hline).2⟩⟩
    · rw [List.getLast?_append_of_ne_nil _ hcut.nonempty]
      exact hends.getLast?_piece hcut
    · rw [scan_eq_reports, Scanner.initial_eq_fresh, hreports, literalLinesIn_append]

/-- A construct stands on a piece of the text with nothing open around it, and a line that
begins inside a literal elsewhere is up to its first line or below its last. -/
structure Placed (text : List Char) (chunk : List Token) (front gap piece back : List Char) :
    Prop where
  text_eq : text = front ++ gap ++ piece ++ back
  cut : Cut [] (origin.afterText front) chunk gap piece back
  ends : EndsConstruct chunk
  separated : ∀ c ∈ front.getLast?, c = ';' ∨ c = '\x7d'
  begins : beginsToken (piece ++ back) = true
  literal : ∃ earlier later, literalLinesIn (scan text) = earlier ++ (literalLinesIn
      ((Scanner.fresh [] ((origin.afterText front).afterText gap)).yield piece) ++ later) ∧
    (∀ line ∈ earlier, front ≠ [] ∧ line ≤ (origin.afterText front).line) ∧
    ∀ line ∈ later, ((origin.afterText front).afterText (gap ++ piece)).line < line

theorem exists_placed {text : List Char} {before chunk after : List Token}
    (hflawless : Flawless (scan text)) (htokens : tokensIn (scan text) = before ++ (chunk ++ after))
    (hbefore : before ≠ [] → EndsConstruct before) (hends : EndsConstruct chunk) :
    ∃ front gap piece back, Placed text chunk front gap piece back := by
  obtain ⟨front, here, htext, hseparated, hhere, hrest, earlier, hlines, hearlier⟩ :=
    exists_readsOn hflawless htokens hbefore
  obtain ⟨gap, piece, back, rfl, hcut⟩ := exists_cut rfl hhere hrest hends.ne_nil
  refine ⟨front, gap, piece, back, by rw [htext]; simp, hcut, hends, hseparated,
    hcut.beginsToken hends.ne_nil hhere, earlier,
    literalLinesIn ((Scanner.fresh (Scanner.behind [] (origin.afterText front) gap piece).frames
      (Scanner.behind [] (origin.afterText front) gap piece).place).reports back),
    ?_, hearlier, ?_⟩
  · rw [hlines, hcut.reports_eq, literalLinesIn_append]
  · rw [hcut.reports_eq, flawless_append] at hhere
    intro line hline
    have hbounds := literalLine_bounds (Scanner.fresh_live _ _) hhere.2 line hline
    rw [Scanner.fresh_place, hcut.place_eq] at hbounds
    exact hbounds.1

/-! ## The piece alone -/

/-- A piece behind a statement on the same line is cut out without what is in front of it. -/
theorem excerpt_of_not_blank {head gap : List Char} {c : Char} (hc : Text.isBlank c = false)
    (hgap : '\n' ∉ gap) (piece back : List Char) :
    excerpt (head ++ [c] ++ gap ++ piece ++ back) (Text.byteLength (head ++ [c] ++ gap))
      (Text.byteLength (head ++ [c] ++ gap ++ piece)) = piece := by
  have hfeed : c ≠ '\n' := by
    rintro rfl
    exact absurd hc (by decide)
  have hline : ((head ++ [c] ++ gap).reverse.takeWhile (· ≠ '\n')) =
      gap.reverse ++ c :: head.reverse.takeWhile (· ≠ '\n') := by
    rw [List.reverse_append, List.reverse_append, List.takeWhile_append_of_pos]
    · simp [hfeed]
    · intro d hd
      simpa using fun hfeed : d = '\n' => hgap (hfeed ▸ List.mem_reverse.mp hd)
  have hblank : Text.allBlank ((head ++ [c] ++ gap).reverse.takeWhile (· ≠ '\n')).reverse =
      false := by
    rw [hline, Text.allBlank, List.all_eq_false]
    exact ⟨c, by simp, by simp [hc]⟩
  rw [excerpt_piece, hblank]
  rfl

section Alone

variable {text : List Char} {chunk : List Token} {front gap piece back : List Char}
  (hplaced : Placed text chunk front gap piece back)

include hplaced

/-- A line of the piece below its first begins inside a literal of the text if it does so
inside one of the piece. -/
theorem Placed.mem_literalLines {index : Nat} (hpos : 0 < index)
    (hindex : index ≤ piece.count '\n') :
    ((origin.afterText front).afterText gap).line + index ∈ literalLinesIn (scan text) ↔
      ((origin.afterText front).afterText gap).line + index ∈ literalLinesIn
        ((Scanner.fresh [] ((origin.afterText front).afterText gap)).yield piece) := by
  obtain ⟨earlier, later, hlines, hearlier, hlater⟩ := hplaced.literal
  rw [hlines, List.mem_append, List.mem_append]
  refine ⟨fun hline => ?_, fun hline => .inr (.inl hline)⟩
  -- the literals in front reach the first line at most, those behind begin below the last
  rcases hline with hline | hline | hline
  · have hle := (hearlier _ hline).2
    rw [Place.line_afterText] at hle
    omega
  · exact hline
  · have hlt := hlater _ hline
    rw [Place.afterText_append, Place.line_afterText _ piece] at hlt
    omega

/-- A first line that begins inside a literal begins in front of the piece, behind a
statement on the same line. -/
theorem Placed.of_first_mem
    (hfirst : ((origin.afterText front).afterText gap).line ∈ literalLinesIn (scan text)) :
    '\n' ∉ gap ∧ ∃ head c, front = head ++ [c] ∧ Text.isBlank c = false := by
  obtain ⟨earlier, later, hlines, hearlier, hlater⟩ := hplaced.literal
  rw [hlines, List.mem_append, List.mem_append] at hfirst
  rcases hfirst with hfirst | hfirst | hfirst
  · obtain ⟨hne, hle⟩ := hearlier _ hfirst
    rw [Place.line_afterText] at hle
    obtain ⟨c, hc⟩ : ∃ c, front.getLast? = some c := ⟨_, List.getLast?_eq_some_getLast hne⟩
    obtain ⟨head, hhead⟩ := List.getLast?_eq_some_iff.mp hc
    -- the line of the piece is the last one in front, so there is no line feed in the gap
    refine ⟨List.count_eq_zero.mp (by omega), head, c, hhead, ?_⟩
    rcases hplaced.separated c hc with rfl | rfl <;> decide
  · have hlt := (hplaced.ends.literalLine_bounds hplaced.cut _ hfirst).1
    exact absurd hlt (Nat.lt_irrefl _)
  · have hlt := hlater _ hfirst
    rw [Place.afterText_append, Place.line_afterText _ piece] at hlt
    omega

/-- Behind a margin, a piece is read like in its place. -/
theorem Placed.matches {lead : List Char} (hlead : IsMargin lead) :
    Matches .same ((origin.afterText front).afterText gap).line
        (Scanner.behind [] (origin.afterText front) gap piece)
        ((Scanner.fresh [] (origin.afterText lead)).run piece) ∧
      ReportsAlike .same ((origin.afterText front).afterText gap).line
        ((Scanner.fresh [] ((origin.afterText front).afterText gap)).yield piece)
        ((Scanner.fresh [] (origin.afterText lead)).yield piece) := by
  have hstart : Matches .same ((origin.afterText front).afterText gap).line
      (Scanner.fresh [] ((origin.afterText front).afterText gap))
      (Scanner.fresh [] (origin.afterText lead)) :=
    ⟨rfl, rfl, by simp [hlead.line_eq], rfl⟩
  obtain ⟨hmatch, hemits⟩ := hstart.run_same (Scanner.fresh_live _ _)
    ((flawless_append _ _).mp hplaced.cut.flawless).1
  exact ⟨hmatch, List.rel_append hemits hmatch.pending⟩

/-- Behind a margin, a piece reaches from its first token to its last. -/
theorem Placed.isWhole {lead : List Char} (hlead : IsMargin lead) :
    IsWhole (origin.afterText lead) piece := by
  obtain ⟨hmatch, halike⟩ := hplaced.matches hlead
  have hcut := hplaced.cut
  have hmode := hmatch.mode_eq hcut.stops.isCode
  refine ⟨?_, hcut.blank_last, (flawless_of_alike halike).2,
    hmatch.frames_eq_nil (hplaced.ends.closed hcut), ?_, ?_⟩
  · have hsame : Relaid (Scanner.fresh [] origin) piece piece := by
      simpa using Relaid.copy piece (.nil _)
    have hnothing : ([] : List Char).head? ≠ some '/' := by simp
    simpa using hsame.beginsToken hcut.nonempty hplaced.begins hnothing
  · rw [hmode]
    exact hcut.stops.isCode
  · rw [hmode]
    exact hcut.mode_ne

/-- What is reported on a piece behind a margin. -/
theorem Placed.scan_eq {lead : List Char} (hlead : IsMargin lead) :
    scan (lead ++ piece) = (Scanner.fresh [] (origin.afterText lead)).yield piece := by
  have hwhole := hplaced.isWhole hlead
  obtain ⟨hskips, hcode⟩ := Scanner.skips_of_blanks [] origin fun c hc => (hlead c hc).1
  rw [scan_eq_reports, Scanner.initial_eq_fresh, hskips.reports_eq hcode rfl,
    Scanner.reports_eq_yield hwhole.isCode hwhole.frames]

theorem Placed.sameRole {lead : List Char} (hlead : IsMargin lead) :
    List.Forall₂ Token.SameRole chunk (tokensIn (scan (lead ++ piece))) := by
  have htokens := tokensIn_alike (hplaced.matches hlead).2
  rw [hplaced.cut.tokens, ← hplaced.scan_eq hlead] at htokens
  exact htokens.imp fun _ _ halike => halike.sameRole

/-- **A construct alone** is read as one statement, cut with line numbers of its own. -/
theorem Placed.statementIn_eq_ok_iff {lead : List Char} (hlead : IsMargin lead)
    (hone : constructs chunk = ([chunk], [])) (alone : Snippet) :
    statementIn (String.ofList (lead ++ piece)) = .ok alone ↔
      snippetOf (lead ++ piece) 0 (literalLinesIn (scan (lead ++ piece))) = .ok alone := by
  have hroles := hplaced.sameRole hlead
  have hwhole := hplaced.isWhole hlead
  have hflawless : Flawless (scan (lead ++ piece)) := by
    rw [hplaced.scan_eq hlead]
    exact hwhole.flawless
  have hne : tokensIn (scan (lead ++ piece)) ≠ [] := by
    intro hnil
    rw [hnil, List.forall₂_nil_right_iff] at hroles
    exact hplaced.ends.ne_nil hroles
  have hsnippet : snippetOfTokens (lead ++ piece) (literalLinesIn (scan (lead ++ piece)))
      (tokensIn (scan (lead ++ piece))) =
        snippetOf (lead ++ piece) 0 (literalLinesIn (scan (lead ++ piece))) := by
    have heq := hwhole.snippetOfTokens_eq hlead [] (literalLinesIn (scan (lead ++ piece)))
    rwa [List.append_nil, ← hplaced.scan_eq hlead] at heq
  rw [statementIn_eq_ok_iff_of_tokens]
  simp only [tokenize_eq_ok_iff, String.toList_ofList]
  constructor
  · rintro ⟨scanned, ⟨-, rfl⟩, -, -, hcut⟩
    rwa [hsnippet] at hcut
  · intro hcut
    exact ⟨_, ⟨hflawless, rfl⟩, hne, constructs_eq_singleton hroles hone, by rwa [hsnippet]⟩

/-! ## The same lines -/

/-- The first line of a piece alone begins in code. -/
theorem Placed.zero_not_mem {lead : List Char} (hlead : IsMargin lead) :
    0 ∉ literalLinesIn (scan (lead ++ piece)) := by
  intro hzero
  have hwhole := hplaced.isWhole hlead
  have hflawless := hwhole.flawless
  rw [hplaced.scan_eq hlead] at hzero
  rw [← Scanner.reports_eq_yield hwhole.isCode hwhole.frames] at hzero hflawless
  have hbounds := literalLine_bounds (Scanner.fresh_live _ _) hflawless 0 hzero
  omega

/-- A line of the piece begins inside a literal alone if it does so in the text, unless the
literal is in front of the piece. -/
theorem Placed.mem_alone_iff {lead : List Char} (hlead : IsMargin lead) {index : Nat}
    (hindex : index ≤ piece.count '\n')
    (hfirst : index = 0 →
      ((origin.afterText front).afterText gap).line ∉ literalLinesIn (scan text)) :
    index ∈ literalLinesIn (scan (lead ++ piece)) ↔
      ((origin.afterText front).afterText gap).line + index ∈ literalLinesIn (scan text) := by
  rcases Nat.eq_zero_or_pos index with rfl | hpos
  · exact iff_of_false (hplaced.zero_not_mem hlead) (hfirst rfl)
  · rw [hplaced.mem_literalLines hpos hindex, literalLinesIn_alike (hplaced.matches hlead).2,
      ← hplaced.scan_eq hlead, List.mem_map]
    constructor
    · exact fun hmem => ⟨index, hmem, rfl⟩
    · rintro ⟨other, hother, heq⟩
      obtain rfl : other = index := by omega
      exact hother

end Alone

theorem length_splitOn_feed (text : List Char) :
    (text.splitOn '\n').length = text.count '\n' + 1 := by
  obtain ⟨first, rest, hsplit, htext, hfirst, hrest⟩ := exists_splitOn_eq text
  rw [hsplit, htext, List.count_append, List.count_eq_zero_of_not_mem hfirst]
  clear hsplit htext
  induction rest with
  | nil => rfl
  | cons line rest ih =>
      have hline := hrest line List.mem_cons_self
      have hcount := ih fun other h => hrest other (List.mem_cons_of_mem _ h)
      rw [below_cons, List.count_cons_self, List.count_append, List.count_eq_zero_of_not_mem hline]
      simp only [List.length_cons] at hcount ⊢
      omega

/-- A piece whose first line is code and has no indent can be cut. -/
theorem exists_snippetOf_of_flush {piece : List Char} {first : Nat} {literalLines : List Nat}
    {c : Char} (hhead : piece.head? = some c) (hc : Text.isBlank c = false)
    (hfirst : first ∉ literalLines) :
    ∃ snippet, snippetOf piece first literalLines = .ok snippet := by
  obtain ⟨tail, rfl⟩ := List.head?_eq_some_iff.mp hhead
  obtain ⟨line, rest, hsplit, htext, -, -⟩ := exists_splitOn_eq (c :: tail)
  obtain ⟨more, rfl, -⟩ := exists_first_line isMargin_nil hc htext
  have hblank : Text.allBlank (c :: more) = false := by
    simp [Text.allBlank, hc]
  have hmem : (c :: more, false) ∈ markedLines (c :: tail) first literalLines := by
    rw [markedLines, hsplit, List.zipIdx_cons, List.map_cons]
    simp [hfirst]
  -- the first line has no indent, so nothing is taken from any line
  have hindent : commonIndent (markedLines (c :: tail) first literalLines) = 0 := by
    have hle := commonIndent_le hmem hblank
    rw [indentOf, List.takeWhile_cons_of_neg (by simp [hc])] at hle
    exact Nat.le_zero.mp hle
  have hcut : ∀ entry : List Char × Bool, ∃ out, dedentLine 0 entry.1 entry.2 = .ok out := by
    intro entry
    have hafter : Text.afterBytes? 0 entry.1 = some entry.1 := by
      cases entry.1 <;> rfl
    rw [dedentLine, hafter]
    split_ifs
    · exact ⟨_, rfl⟩
    · exact ⟨_, rfl⟩
    · exact ⟨_, rfl⟩
  obtain ⟨outs, houts⟩ := exists_mapM_eq_ok fun entry (_ : entry ∈
    markedLines (c :: tail) first literalLines) => hcut entry
  refine ⟨⟨outs⟩, snippetOf_eq_ok_iff.mpr ?_⟩
  rw [hindent]
  exact mapM_eq_ok_iff.mp houts

section Same

variable {text : List Char} {chunk : List Token} {front gap piece back lead : List Char}
  (hplaced : Placed text chunk front gap piece back) (hlead : IsMargin lead)

include hplaced hlead

/-- A first line that begins in code is cut alone like in the text. -/
theorem Placed.snippetOf_alone
    (hfirst : ((origin.afterText front).afterText gap).line ∉ literalLinesIn (scan text)) :
    snippetOf (lead ++ piece) 0 (literalLinesIn (scan (lead ++ piece))) =
      snippetOf (lead ++ piece) ((origin.afterText front).afterText gap).line
        (literalLinesIn (scan text)) := by
  have hmarked : ∀ entry ∈ ((lead ++ piece).splitOn '\n').zipIdx,
      (literalLinesIn (scan (lead ++ piece))).contains (0 + entry.2) =
        (literalLinesIn (scan text)).contains
          (((origin.afterText front).afterText gap).line + entry.2) := by
    rintro ⟨line, index⟩ hentry
    have hindex := (List.mem_zipIdx' hentry).1
    rw [length_splitOn_feed, List.count_append, List.count_eq_zero_of_not_mem hlead.not_mem]
      at hindex
    rw [Bool.eq_iff_iff, List.contains_iff_mem, List.contains_iff_mem, Nat.zero_add]
    exact hplaced.mem_alone_iff hlead (by omega) fun _ => hfirst
  have hlines : markedLines (lead ++ piece) 0 (literalLinesIn (scan (lead ++ piece))) =
      markedLines (lead ++ piece) ((origin.afterText front).afterText gap).line
        (literalLinesIn (scan text)) :=
    List.map_congr_left fun entry hentry => congrArg _ (hmarked entry hentry)
  exact congrArg (fun lines => do
    return (⟨← lines.mapM fun (line, verbatim) => dedentLine (commonIndent lines) line verbatim⟩ :
      Snippet)) hlines

/-- The verbatim lines of a piece alone are those it has in the text, but for the first. -/
theorem Placed.verbatim_alone {alone snippet : Snippet}
    (halone : snippetOf (lead ++ piece) 0 (literalLinesIn (scan (lead ++ piece))) = .ok alone)
    (hsnippet : snippetOf (lead ++ piece) ((origin.afterText front).afterText gap).line
      (literalLinesIn (scan text)) = .ok snippet) :
    alone.lines.map SnippetLine.verbatim =
      (snippet.lines.map SnippetLine.verbatim).set 0 false := by
  have hlengths : alone.lines.length = piece.count '\n' + 1 ∧
      snippet.lines.length = piece.count '\n' + 1 := by
    have hcount := length_splitOn_feed (lead ++ piece)
    rw [List.count_append, List.count_eq_zero_of_not_mem hlead.not_mem, Nat.zero_add] at hcount
    have hone := (snippetOf_eq_ok_iff.mp halone).length_eq
    have hother := (snippetOf_eq_ok_iff.mp hsnippet).length_eq
    simp only [markedLines, List.length_map, List.length_zipIdx, hcount] at hone hother
    exact ⟨hone.symm, hother.symm⟩
  -- a line is verbatim by its number, which counts from the piece alone or from the text
  refine List.ext_getElem (by simp [hlengths]) fun index hindex hindex' => ?_
  simp only [List.length_map, List.length_set, hlengths] at hindex hindex'
  have hone := markedBy_of_snippetOf halone index _ (List.getElem?_eq_getElem (by omega))
  have hother := markedBy_of_snippetOf hsnippet index _ (List.getElem?_eq_getElem (by omega))
  rw [List.getElem_set, List.getElem_map, List.getElem_map, hone, hother, Nat.zero_add]
  split_ifs with hzero
  · subst hzero
    simpa using hplaced.zero_not_mem hlead
  · rw [Bool.eq_iff_iff, List.contains_iff_mem, List.contains_iff_mem]
    exact hplaced.mem_alone_iff hlead (by omega) fun hindex => absurd hindex.symm hzero

end Same

/-- A piece is cut with the margin in front of it, if it stands behind one, and without
anything else. -/
theorem Placed.exists_lead {text : List Char} {chunk : List Token}
    {front gap piece back : List Char} (hplaced : Placed text chunk front gap piece back) :
    ∃ lead, IsMargin lead ∧ excerpt text (Text.byteLength (front ++ gap))
        (Text.byteLength (front ++ gap ++ piece)) = lead ++ piece ∧
      (((origin.afterText front).afterText gap).line ∈ literalLinesIn (scan text) → lead = []) := by
  have htext := hplaced.text_eq
  by_cases hfirst : ((origin.afterText front).afterText gap).line ∈ literalLinesIn (scan text)
  · -- a statement stands in front on the same line, and the piece is cut without it
    obtain ⟨hgap, head, c, rfl, hc⟩ := hplaced.of_first_mem hfirst
    refine ⟨[], isMargin_nil, ?_, fun _ => rfl⟩
    rw [htext]
    exact excerpt_of_not_blank hc hgap piece back
  · obtain ⟨lead, hlead, hexcerpt⟩ := exists_excerpt_eq (front ++ gap) piece back
    exact ⟨lead, hlead, by rw [htext, hexcerpt], fun hmem => absurd hmem hfirst⟩

/-- The first line of a piece can be cut alone, whether it begins in code or not. -/
theorem Placed.exists_snippetOf_alone {text : List Char} {chunk : List Token}
    {front gap piece back lead : List Char} (hplaced : Placed text chunk front gap piece back)
    (hlead : IsMargin lead) {snippet : Snippet}
    (hnone : ((origin.afterText front).afterText gap).line ∈ literalLinesIn (scan text) → lead = [])
    (hsnippet : snippetOf (lead ++ piece) ((origin.afterText front).afterText gap).line
      (literalLinesIn (scan text)) = .ok snippet) :
    ∃ alone, snippetOf (lead ++ piece) 0 (literalLinesIn (scan (lead ++ piece))) = .ok alone ∧
      (alone = snippet ↔
        ((origin.afterText front).afterText gap).line ∉ literalLinesIn (scan text)) := by
  by_cases hfirst : ((origin.afterText front).afterText gap).line ∈ literalLinesIn (scan text)
  · obtain rfl := hnone hfirst
    obtain ⟨c, hc⟩ : ∃ c, piece.head? = some c := by
      obtain ⟨c, rest, rfl⟩ := List.exists_cons_of_ne_nil hplaced.cut.nonempty
      exact ⟨c, rfl⟩
    obtain ⟨alone, halone⟩ := exists_snippetOf_of_flush hc (hplaced.cut.blank_first c hc)
      (hplaced.zero_not_mem hlead)
    refine ⟨alone, halone, iff_of_false ?_ (not_not.mpr hfirst)⟩
    -- the first line is verbatim in the text only
    rintro rfl
    obtain ⟨line, rest, hline⟩ := List.exists_cons_of_ne_nil
      (dedented_of_snippetOf hsnippet).nonempty
    have hflags := hplaced.verbatim_alone hlead halone hsnippet
    have hmarked := markedBy_of_snippetOf hsnippet 0 line (by simp [hline])
    rw [hline] at hflags
    simp [hmarked, hfirst] at hflags
  · refine ⟨snippet, ?_, iff_of_true rfl hfirst⟩
    rw [hplaced.snippetOf_alone hlead hfirst, hsnippet]

/-! ## All statements of a body -/

/-- The part of a text that tokens are cut from, as a text of its own. -/
def sliceOf (text : String) (tokens : List Token) : String :=
  match tokens.head?, tokens.getLast? with
  | some first, some last => String.ofList (excerpt text.toList first.start last.stop)
  | _, _ => ""

/-- **A statement of a body, read alone.**  The part of a body that a statement was cut
from is one statement, too.  Its lines are verbatim where they are so in the body, except
that its first line never is, and it is the same statement if and only if its first token
is on no line of the body that begins inside a template literal. -/
theorem statementIn_slice {text : String} {snippets : List Snippet}
    (hread : statementsIn text = .ok snippets) :
    ∃ scanned complete, tokenize text = .ok scanned ∧
      constructs scanned.tokens = (complete, []) ∧
      List.Forall₂ (fun chunk snippet => ∃ first ∈ chunk.head?, ∃ alone,
        statementIn (sliceOf text chunk) = .ok alone ∧
        alone.lines.map SnippetLine.verbatim =
          (snippet.lines.map SnippetLine.verbatim).set 0 false ∧
        (alone = snippet ↔ first.line ∉ scanned.literalLines)) complete snippets := by
  obtain ⟨scanned, complete, hscanned, -, hconstructs, hcut⟩ := statementsIn_eq_ok_iff.mp hread
  refine ⟨scanned, complete, hscanned, hconstructs, ?_⟩
  obtain ⟨hflawless, rfl⟩ := tokenize_eq_ok_iff.mp hscanned
  have hflatten := constructsOnto_flatten [] .undecided (tokensIn (scan text.toList))
  rw [show constructsOnto [] .undecided (tokensIn (scan text.toList)) = (complete, []) from
    hconstructs, List.append_nil, List.reverse_nil, List.nil_append] at hflatten
  obtain ⟨hlength, hsnippets⟩ := List.forall₂_iff_zip.mp hcut
  refine List.forall₂_iff_zip.mpr ⟨hlength, fun {chunk snippet} hpair => ?_⟩
  have hsnippet := hsnippets hpair
  have hchunk : chunk ∈ complete := (List.of_mem_zip hpair).1
  obtain ⟨before, after, hsplit⟩ := List.append_of_mem hchunk
  -- in front of the statement there are whole statements, so nothing is open where it begins
  have hbefore : before.flatten ≠ [] → EndsConstruct before.flatten :=
    endsConstruct_flatten fun other hother =>
      hflatten.2 other (hsplit ▸ List.mem_append_left _ hother)
  have htokens : tokensIn (scan text.toList) = before.flatten ++ (chunk ++ after.flatten) := by
    rw [← hflatten.1, hsplit]
    simp
  obtain ⟨front, gap, piece, back, hplaced⟩ :=
    exists_placed hflawless htokens hbefore (hflatten.2 chunk hchunk)
  have hcutChunk := hplaced.cut
  obtain ⟨first, last, hfirst, hlast, hstart, hline, hstop⟩ :=
    hcutChunk.exists_ends hplaced.ends.ne_nil
  -- the slice is the piece behind a margin, and what is read there is the same
  obtain ⟨lead, hlead, hexcerpt, hnone⟩ := hplaced.exists_lead
  rw [hcutChunk.snippetOfTokens_eq hplaced.ends.ne_nil, hexcerpt] at hsnippet
  obtain ⟨alone, halone, hsame⟩ := hplaced.exists_snippetOf_alone hlead hnone hsnippet
  refine ⟨first, hfirst, alone, ?_, hplaced.verbatim_alone hlead halone hsnippet, ?_⟩
  · simp only [sliceOf, hfirst, hlast, hstart, hstop, hexcerpt]
    exact (hplaced.statementIn_eq_ok_iff hlead (constructs_of_mem hconstructs chunk hchunk) _).mpr
      halone
  · rw [hline]
    exact hsame

/-- Two statements on a line that begins inside a literal, and one below. -/
theorem statementIn_slice_of_body :
    statementsIn "\x60a\nb\x60; if c \x7b\n    d;\n  \x7d\n  e;" =
        .ok [⟨[⟨"\x60a", false⟩, ⟨"b\x60;", true⟩]⟩,
          ⟨[⟨"if c \x7b", true⟩, ⟨"  d;", false⟩, ⟨"\x7d", false⟩]⟩, ⟨[⟨"e;", false⟩]⟩] ∧
      ∃ scanned complete,
        tokenize "\x60a\nb\x60; if c \x7b\n    d;\n  \x7d\n  e;" = .ok scanned ∧
        constructs scanned.tokens = (complete, []) ∧
        List.Forall₂ (fun chunk snippet => ∃ first ∈ chunk.head?, ∃ alone,
          statementIn (sliceOf "\x60a\nb\x60; if c \x7b\n    d;\n  \x7d\n  e;" chunk) = .ok alone ∧
          alone.lines.map SnippetLine.verbatim =
            (snippet.lines.map SnippetLine.verbatim).set 0 false ∧
          (alone = snippet ↔ first.line ∉ scanned.literalLines)) complete
          [⟨[⟨"\x60a", false⟩, ⟨"b\x60;", true⟩]⟩,
            ⟨[⟨"if c \x7b", true⟩, ⟨"  d;", false⟩, ⟨"\x7d", false⟩]⟩, ⟨[⟨"e;", false⟩]⟩] := by
  have hread : statementsIn "\x60a\nb\x60; if c \x7b\n    d;\n  \x7d\n  e;" =
      .ok [⟨[⟨"\x60a", false⟩, ⟨"b\x60;", true⟩]⟩,
        ⟨[⟨"if c \x7b", true⟩, ⟨"  d;", false⟩, ⟨"\x7d", false⟩]⟩, ⟨[⟨"e;", false⟩]⟩] := by
    decide +kernel
  exact ⟨hread, statementIn_slice hread⟩

/-- Not every statement of a body is the same alone: behind a literal that goes on to its
line, `c;` is verbatim, and by itself it is not. -/
theorem statement_behind_literal_differs_alone :
    ¬ ∀ text snippets, statementsIn text = .ok snippets →
      ∃ scanned complete, tokenize text = .ok scanned ∧
        constructs scanned.tokens = (complete, []) ∧
        List.Forall₂ (fun chunk snippet => statementIn (sliceOf text chunk) = .ok snippet)
          complete snippets := by
  intro hall
  obtain ⟨scanned, complete, hscanned, hconstructs, hsame⟩ :=
    hall "\x60a\nb\x60; c;" [⟨[⟨"\x60a", false⟩, ⟨"b\x60;", true⟩]⟩, ⟨[⟨"c;", true⟩]⟩]
      (by decide +kernel)
  have halone : (tokenize "\x60a\nb\x60; c;").toOption.map (fun scanned =>
      (constructs scanned.tokens).1.map fun chunk =>
        statementIn (sliceOf "\x60a\nb\x60; c;" chunk)) =
      some [.ok ⟨[⟨"\x60a", false⟩, ⟨"b\x60;", true⟩]⟩, .ok ⟨[⟨"c;", false⟩]⟩] := by
    decide +kernel
  rw [hscanned] at halone
  simp only [Except.toOption, Option.map_some, hconstructs, Option.some.injEq] at halone
  obtain ⟨_, _, _, hrest, rfl⟩ := List.forall₂_cons_right_iff.mp hsame
  obtain ⟨second, _, hsecond, _, rfl⟩ := List.forall₂_cons_right_iff.mp hrest
  simp [hsecond] at halone

end PersistLayer.Syntax
