import PersistLayer.Proofs.Scanner.Tokens

/-!
# Cutting a text at its tokens

Between the tokens of a text there are only blanks and comments, so a run of
neighbouring tokens stands on a piece of the text of its own: in front of it is a
gap without tokens, and behind it a rest that a fresh scanner reads.  `Cut` says
so, `Cut.append` joins two neighbouring pieces, and `exists_cut` finds the piece
of any run of tokens.
-/

namespace PersistLayer.Syntax

/-! ## Gaps -/

theorem Scanner.StopsBefore.of_append {scanner : Scanner} {front back : List Char}
    (hstops : scanner.StopsBefore (front ++ back)) : scanner.StopsBefore front where
  isCode := hstops.isCode
  outside := hstops.outside
  ends := by
    intro c hc
    refine hstops.ends c ?_
    rw [List.head?_append, Option.mem_def.mp hc]
    rfl

theorem Scanner.StopsBefore.run_eq_fresh {scanner : Scanner} {text : List Char}
    (hstops : scanner.StopsBefore text) (hne : text ≠ []) :
    scanner.run text = (fresh scanner.frames scanner.place).run text := by
  cases text with
  | nil => exact absurd rfl hne
  | cons c rest => exact hstops.run_eq

theorem Scanner.StopsBefore.yield_append {scanner : Scanner} {front back : List Char}
    (hstops : (scanner.run front).StopsBefore back) :
    scanner.yield (front ++ back) = scanner.yield front ++
      (fresh (scanner.run front).frames (scanner.run front).place).yield back := by
  cases back with
  | nil => simp [yield, pending, Mode.pendingKind?]
  | cons c rest =>
      rw [yield, emits_append, run_append, hstops.run_eq, hstops.emits_eq, yield, yield]
      simp

theorem Scanner.Skips.place_eq {scanner : Scanner} (hlive : scanner.Live) {gap : List Char}
    (hskips : scanner.Skips gap) : (scanner.run gap).place = scanner.place.afterText gap :=
  run_place hlive (by rw [hskips.silent]; exact flawless_nil)

section Gaps

variable {frames : List Frame} {place : Place} {gap : List Char}

/-- A text behind a gap is read as if nothing had been there. -/
theorem Scanner.Skips.stopsBefore (hskips : (fresh frames place).Skips gap)
    (hcode : ((fresh frames place).run gap).mode = .code) (houtside : inTemplate frames = false)
    (back : List Char) : ((fresh frames place).run gap).StopsBefore back where
  isCode := by simp [hcode, Mode.isCode]
  outside := by rw [hskips.frames, fresh_frames, houtside]
  ends := by simp [hcode, Mode.goesOnWith]

theorem Scanner.Skips.yield_eq (hskips : (fresh frames place).Skips gap)
    (hcode : ((fresh frames place).run gap).mode = .code) :
    (fresh frames place).yield gap = [] := by
  simp [yield, hskips.silent, pending, hcode, Mode.pendingKind?]

theorem Scanner.Skips.run_append (hskips : (fresh frames place).Skips gap)
    (hcode : ((fresh frames place).run gap).mode = .code) (houtside : inTemplate frames = false)
    {back : List Char} (hne : back ≠ []) :
    (fresh frames place).run (gap ++ back) = (fresh frames (place.afterText gap)).run back := by
  have hstops := hskips.stopsBefore hcode houtside back
  calc (fresh frames place).run (gap ++ back)
      = (fresh ((fresh frames place).run gap).frames
          ((fresh frames place).run gap).place).run back := by
        rw [Scanner.run_append, hstops.run_eq_fresh hne]
    _ = (fresh frames (place.afterText gap)).run back := by
        rw [hskips.frames, hskips.place_eq (fresh_live _ _)]
        rfl

theorem Scanner.Skips.yield_append (hskips : (fresh frames place).Skips gap)
    (hcode : ((fresh frames place).run gap).mode = .code) (houtside : inTemplate frames = false)
    (back : List Char) :
    (fresh frames place).yield (gap ++ back) =
      (fresh frames (place.afterText gap)).yield back := by
  have hstops := hskips.stopsBefore hcode houtside back
  calc (fresh frames place).yield (gap ++ back)
      = (fresh ((fresh frames place).run gap).frames
          ((fresh frames place).run gap).place).yield back := by
        rw [hstops.yield_append, hskips.yield_eq hcode, List.nil_append]
    _ = (fresh frames (place.afterText gap)).yield back := by
        rw [hskips.frames, hskips.place_eq (fresh_live _ _)]
        rfl

theorem Scanner.Skips.reports_eq (hskips : (fresh frames place).Skips gap)
    (hcode : ((fresh frames place).run gap).mode = .code) (houtside : inTemplate frames = false)
    (back : List Char) :
    (fresh frames place).reports (gap ++ back) =
      (fresh frames (place.afterText gap)).reports back := by
  rw [reports_append_of_stopsBefore (hskips.stopsBefore hcode houtside back),
    hskips.yield_eq hcode, hskips.frames, hskips.place_eq (fresh_live _ _), List.nil_append]
  rfl

/-- A text of blanks and comments holds no token. -/
theorem Scanner.Skips.reports_nil (hskips : (fresh frames place).Skips gap) :
    (fresh frames place).reports gap = openReports frames := by
  rw [reports_eq_emits, hskips.silent, List.nil_append]
  rcases hskips.mode with hmode | hmode <;> simp [finish, hmode, hskips.frames]

end Gaps

/-! ## Pieces -/

/-- The scanner behind some blanks and comments and a piece of text. -/
def Scanner.behind (frames : List Frame) (place : Place) (gap piece : List Char) : Scanner :=
  (fresh frames (place.afterText gap)).run piece

/-- A text is cut into a gap without tokens, a piece that holds the tokens of
`chunk` from the first character of the first to the last character of the last,
and a rest. -/
structure Cut (frames : List Frame) (place : Place) (chunk : List Token)
    (gap piece back : List Char) : Prop where
  skips : (Scanner.fresh frames place).Skips gap
  code : ((Scanner.fresh frames place).run gap).mode = .code
  outside : inTemplate frames = false
  flawless : Flawless ((Scanner.fresh frames (place.afterText gap)).yield piece)
  tokens : tokensIn ((Scanner.fresh frames (place.afterText gap)).yield piece) = chunk
  stops : (Scanner.behind frames place gap piece).StopsBefore back
  mode_ne : (Scanner.behind frames place gap piece).mode ≠ .comment
  first : ∀ token ∈ chunk.head?,
    token.start = (place.afterText gap).offset ∧ token.line = (place.afterText gap).line
  last : ∀ token ∈ chunk.getLast?,
    token.stop = (Scanner.behind frames place gap piece).place.offset ∧
      (token.opens = false → token.depth = (Scanner.behind frames place gap piece).frames.length)
  nonempty : piece ≠ []
  blank_first : ∀ c ∈ piece.head?, Text.isBlank c = false
  blank_last : ∀ c ∈ piece.getLast?, Text.isBlank c = false
  isGap : IsGap gap
  spelled : ∀ token ∈ chunk.getLast?, ∃ source, source <:+ piece ∧ token.Spells source

section Pieces

variable {frames : List Frame} {place : Place} {chunk : List Token} {gap piece back : List Char}

theorem Cut.place_eq (hcut : Cut frames place chunk gap piece back) :
    (Scanner.behind frames place gap piece).place = place.afterText (gap ++ piece) := by
  rw [Scanner.behind, Scanner.run_place (Scanner.fresh_live _ _)
    (flawless_append _ _ |>.mp hcut.flawless).1, Scanner.fresh_place, Place.afterText_append]

/-- What is reported on a text that is cut. -/
theorem Cut.reports_eq (hcut : Cut frames place chunk gap piece back) :
    (Scanner.fresh frames place).reports (gap ++ piece ++ back) =
      (Scanner.fresh frames (place.afterText gap)).yield piece ++
        (Scanner.fresh (Scanner.behind frames place gap piece).frames
          (Scanner.behind frames place gap piece).place).reports back := by
  rw [List.append_assoc, hcut.skips.reports_eq hcut.code hcut.outside,
    Scanner.reports_append_of_stopsBefore hcut.stops]
  rfl

/-- What is written as a token neither begins nor ends with a blank. -/
theorem Token.Spells.blank_ends {token : Token} {source : List Char}
    (hspells : token.Spells source) :
    (∀ c ∈ source.head?, Text.isBlank c = false) ∧
      ∀ c ∈ source.getLast?, Text.isBlank c = false := by
  unfold Spells at hspells
  split at hspells
  · subst hspells
    rw [← List.cons_append]
    simp only [List.head?_append, List.head?_cons, Option.some_or, List.getLast?_concat,
      Option.mem_some_iff]
    exact ⟨fun c hc => hc ▸ by decide, fun c hc => hc ▸ by decide⟩
  · obtain ⟨body, rfl, -⟩ := hspells
    rw [← List.cons_append]
    simp only [List.head?_append, List.head?_cons, Option.some_or, List.getLast?_concat,
      Option.mem_some_iff]
    exact ⟨fun c hc => hc ▸ by decide, fun c hc => hc ▸ by decide⟩
  · exact ⟨fun c hc => hspells.2 c (List.mem_of_mem_head? hc),
      fun c hc => hspells.2 c (List.mem_of_mem_getLast? hc)⟩

/-- All characters of a token are among those it is written with. -/
theorem Token.Spells.subset {token : Token} {source : List Char}
    (hspells : token.Spells source) : token.text.toList ⊆ source := by
  unfold Spells at hspells
  split at hspells
  · subst hspells
    exact fun c hc => List.mem_cons_of_mem _ (List.mem_append_left _ hc)
  · obtain ⟨body, rfl, hbody⟩ := hspells
    exact fun c hc => List.mem_cons_of_mem _ (List.mem_append_left _ (hbody hc))
  · rw [hspells.1]
    exact fun c hc => hc

/-- Only literals span lines. -/
theorem Token.Spells.not_mem_of_word {token : Token} {source : List Char}
    (hspells : token.Spells source) (hstring : token.kind ≠ .string)
    (htemplate : token.kind ≠ .template) : '\n' ∉ token.text.toList := by
  unfold Spells at hspells
  split at hspells
  · exact absurd ‹_› htemplate
  · exact absurd ‹_› hstring
  · intro hfeed
    rw [← hspells.1] at hfeed
    exact absurd (hspells.2 _ hfeed) (by decide)

/-- Two neighbouring pieces make one. -/
theorem Cut.append (hcut : Cut frames place chunk gap piece back) {more : List Token}
    {between rest behind : List Char} (hback : back = between ++ rest ++ behind)
    (hnext : Cut (Scanner.behind frames place gap piece).frames
      (Scanner.behind frames place gap piece).place more between rest behind)
    (hchunk : chunk ≠ []) (hmore : more ≠ []) :
    Cut frames place (chunk ++ more) gap (piece ++ (between ++ rest)) behind := by
  subst hback
  have hrest : between ++ rest ≠ [] := by simp [hnext.nonempty]
  have hstops := hcut.stops.of_append
  have hyield : (Scanner.fresh frames (place.afterText gap)).yield (piece ++ (between ++ rest)) =
      (Scanner.fresh frames (place.afterText gap)).yield piece ++
        (Scanner.fresh (Scanner.behind frames place gap piece).frames
          ((Scanner.behind frames place gap piece).place.afterText between)).yield rest := by
    rw [Scanner.StopsBefore.yield_append hstops]
    congr 1
    exact hnext.skips.yield_append hnext.code hnext.outside rest
  -- what is between the pieces leaves the scanner as a fresh one where the second begins
  have hbehind : Scanner.behind frames place gap (piece ++ (between ++ rest)) =
      Scanner.behind (Scanner.behind frames place gap piece).frames
        (Scanner.behind frames place gap piece).place between rest := by
    rw [Scanner.behind, Scanner.run_append]
    rw [show (Scanner.fresh frames (place.afterText gap)).run piece =
      Scanner.behind frames place gap piece from rfl, hstops.run_eq_fresh hrest]
    exact hnext.skips.run_append hnext.code hnext.outside hnext.nonempty
  exact
    { skips := hcut.skips
      code := hcut.code
      outside := hcut.outside
      flawless := by
        rw [hyield]
        exact (flawless_append _ _).mpr ⟨hcut.flawless, hnext.flawless⟩
      tokens := by rw [hyield, tokensIn_append, hcut.tokens, hnext.tokens]
      stops := by rw [hbehind]; exact hnext.stops
      mode_ne := by rw [hbehind]; exact hnext.mode_ne
      first := by
        rw [List.head?_append_of_ne_nil _ hchunk]
        exact hcut.first
      last := by
        rw [hbehind, List.getLast?_append_of_ne_nil _ hmore]
        exact hnext.last
      nonempty := by simp [hcut.nonempty]
      blank_first := by
        rw [List.head?_append_of_ne_nil _ hcut.nonempty]
        exact hcut.blank_first
      blank_last := by
        rw [List.getLast?_append_of_ne_nil _ hrest, List.getLast?_append_of_ne_nil _ hnext.nonempty]
        exact hnext.blank_last
      isGap := hcut.isGap
      spelled := by
        rw [List.getLast?_append_of_ne_nil _ hmore]
        intro token htoken
        obtain ⟨source, hsource, hspells⟩ := hnext.spelled token htoken
        refine ⟨source, hsource.trans ?_, hspells⟩
        exact (List.suffix_append between rest).trans (List.suffix_append piece _) }

/-- **The next token.**  Where no fault follows, there is nothing but blanks and
comments up to the end, the last of which may have no line feed behind it, or there is a
token behind a gap. -/
theorem exists_next {text : List Char} (houtside : inTemplate frames = false)
    (hflawless : Flawless ((Scanner.fresh frames place).reports text)) :
    (frames = [] ∧ (Scanner.fresh frames place).Skips text ∧ IsGap (text ++ ['\n'])) ∨
      ∃ token gap source back, text = gap ++ source ++ back ∧ token.Spells source ∧
        Cut frames place [token] gap source back := by
  rcases (Scanner.fresh frames place).exists_skips (.inl rfl) text with
    ⟨hskips, htail⟩ | ⟨gap, back, rfl, hskips, hcode, hbegins, hgap⟩
  · left
    rw [hskips.reports_nil, flawless_openReports_iff] at hflawless
    exact ⟨hflawless, hskips, htail⟩
  · right
    rw [hskips.reports_eq hcode houtside] at hflawless
    obtain ⟨source, rest, token, rfl, hne, hcompletes⟩ :=
      Scanner.exists_completes_of_beginsToken houtside hbegins hflawless
    have hspells : token.Spells source := by simpa using hcompletes.spells
    rw [Scanner.reports_append_of_stopsBefore hcompletes.stops, flawless_append] at hflawless
    refine ⟨token, gap, source, rest, by simp, hspells, ?_⟩
    exact
      { skips := hskips
        code := hcode
        outside := houtside
        flawless := hflawless.1
        tokens := hcompletes.yield_eq
        stops := hcompletes.stops
        mode_ne := hcompletes.mode_ne
        first := by
          rintro _ ⟨rfl⟩
          exact ⟨hcompletes.start_eq, hcompletes.line_eq⟩
        last := by
          rintro _ ⟨rfl⟩
          exact ⟨hcompletes.stop_eq, hcompletes.depth_eq⟩
        nonempty := hne
        blank_first := hspells.blank_ends.1
        blank_last := hspells.blank_ends.2
        isGap := hgap
        spelled := by
          rintro _ ⟨rfl⟩
          exact ⟨source, List.suffix_refl source, hspells⟩ }

/-- **A run of tokens stands on a piece of the text.** -/
theorem exists_cut {text : List Char} {rest : List Token} (houtside : inTemplate frames = false)
    (hflawless : Flawless ((Scanner.fresh frames place).reports text))
    (htokens : tokensIn ((Scanner.fresh frames place).reports text) = chunk ++ rest)
    (hchunk : chunk ≠ []) :
    ∃ gap piece back, text = gap ++ piece ++ back ∧ Cut frames place chunk gap piece back := by
  induction chunk generalizing frames place text with
  | nil => exact absurd rfl hchunk
  | cons token more ih =>
      rcases exists_next houtside hflawless with
        ⟨rfl, hskips, -⟩ | ⟨next, gap, source, back, rfl, -, hcut⟩
      · simp [hskips.reports_nil] at htokens
      rw [hcut.reports_eq, tokensIn_append, hcut.tokens, List.cons_append, List.nil_append,
        List.cons_append, List.cons.injEq] at htokens
      rw [hcut.reports_eq, flawless_append] at hflawless
      obtain ⟨rfl, htokens⟩ := htokens
      -- the text behind the first token is read by a fresh scanner, from a place of its own
      by_cases hmore : more = []
      · subst hmore
        exact ⟨gap, source, back, rfl, hcut⟩
      obtain ⟨between, piece, behind, rfl, hnext⟩ :=
        ih hcut.stops.outside hflawless.2 htokens hmore
      exact ⟨gap, source ++ (between ++ piece), behind, by simp,
        hcut.append rfl hnext (by simp) hmore⟩

/-- The part of a text that a token spans. -/
def Token.span (token : Token) (text : String) : List Char :=
  Text.uptoBytes (token.stop - token.start) ((Text.afterBytes? token.start text.toList).getD [])

theorem Token.span_eq {token : Token} {text : String} {front source back : List Char}
    (htext : text.toList = front ++ source ++ back) (hstart : token.start = Text.byteLength front)
    (hstop : token.stop = Text.byteLength (front ++ source)) : token.span text = source := by
  rw [span, hstart, hstop, htext]
  exact Text.uptoBytes_between front source back

/-- **Every token stands in the text** at the bytes it names, written as what it is. -/
theorem exists_source {text : List Char} {token : Token} (houtside : inTemplate frames = false)
    (hflawless : Flawless ((Scanner.fresh frames place).reports text))
    (htoken : token ∈ tokensIn ((Scanner.fresh frames place).reports text)) :
    ∃ front source back, text = front ++ source ++ back ∧ token.Spells source ∧ source ≠ [] ∧
      token.start = (place.afterText front).offset ∧
      token.stop = (place.afterText (front ++ source)).offset := by
  generalize htokens : tokensIn ((Scanner.fresh frames place).reports text) = tokens at htoken
  induction tokens generalizing frames place text with
  | nil => cases htoken
  | cons next more ih =>
      rcases exists_next houtside hflawless with
        ⟨rfl, hskips, -⟩ | ⟨found, gap, source, back, rfl, hspells, hcut⟩
      · simp [hskips.reports_nil] at htokens
      rw [hcut.reports_eq, tokensIn_append, hcut.tokens, List.cons_append, List.nil_append,
        List.cons.injEq] at htokens
      rw [hcut.reports_eq, flawless_append] at hflawless
      obtain ⟨rfl, htokens⟩ := htokens
      rcases List.mem_cons.mp htoken with rfl | hmore
      · refine ⟨gap, source, back, rfl, hspells, hcut.nonempty, (hcut.first token rfl).1, ?_⟩
        rw [(hcut.last token rfl).1, hcut.place_eq]
      · obtain ⟨front, source', back', rfl, hspells', hne, hstart, hstop⟩ :=
          ih hcut.stops.outside hflawless.2 htokens hmore
        refine ⟨gap ++ source ++ front, source', back', by simp, hspells', hne, ?_, ?_⟩
        · rw [hstart, hcut.place_eq, ← Place.afterText_append]
        · rw [hstop, hcut.place_eq, ← Place.afterText_append]
          simp

end Pieces

end PersistLayer.Syntax
