import PersistLayer.Proofs.Except
import PersistLayer.Proofs.Snippet.Layout
import PersistLayer.Proofs.Text.Blank
import PersistLayer.Proofs.Text.Lines
import PersistLayer.Syntax.Render

/-!
# Cutting changes only the layout

A snippet that is cut out of a text and written at some depth is relaid: of the
text, only the blanks at the ends of lines and the common indent are gone, and
the blanks of the new indent are there (`relaid_of_cut`).  What makes this so is
that an indent is never longer than the blanks a line begins with, and that every
line in the text of a template literal is verbatim.
-/

namespace PersistLayer.Syntax

/-! ## Lines -/

/-- Lines below another, each behind its line break. -/
def below (lines : List (List Char)) : List Char := lines.flatMap fun line => '\n' :: line

@[simp] theorem below_nil : below [] = [] := rfl

@[simp] theorem below_cons (line : List Char) (rest : List (List Char)) :
    below (line :: rest) = '\n' :: (line ++ below rest) := by
  simp [below]

theorem intercalate_feed (line : List Char) (rest : List (List Char)) :
    ['\n'].intercalate (line :: rest) = line ++ below rest := by
  induction rest generalizing line with
  | nil => simp
  | cons next rest ih =>
      rw [below_cons, ← ih next]
      simp [List.intercalate]

/-- A text is its first line with the other lines below it. -/
theorem exists_splitOn_eq (text : List Char) :
    ∃ first rest, text.splitOn '\n' = first :: rest ∧ text = first ++ below rest ∧
      '\n' ∉ first ∧ ∀ line ∈ rest, '\n' ∉ line := by
  obtain ⟨first, rest, hsplit⟩ := List.exists_cons_of_ne_nil (List.splitOn_ne_nil '\n' text)
  have htext : text = first ++ below rest := by
    rw [← intercalate_feed, ← hsplit]
    exact (List.intercalate_splitOn '\n').symm
  have hlines : ∀ line ∈ first :: rest, '\n' ∉ line := by
    intro line hline
    rw [← hsplit] at hline
    exact not_mem_of_mem_splitOn hline
  exact ⟨first, rest, hsplit, htext, List.forall_mem_cons.mp hlines⟩

/-! ## The lines of a snippet as written -/

/-- A line and how it is written: as it stands, or with other blanks at its ends. -/
inductive LineRelaid : Bool → List Char → List Char → Prop where
  | verbatim (line : List Char) : LineRelaid true line line
  | code {lead lead' core trail : List Char} (hlead : IsMargin lead) (hlead' : IsMargin lead')
      (htrail : IsMargin trail) (hcore : ∀ c ∈ core.head?, Text.isBlank c = false) :
      LineRelaid false (lead ++ core ++ trail) (lead' ++ core)

/-- Lines from line number `index` on and how they are written. -/
inductive LinesRelaid (verbatim : Nat → Bool) :
    Nat → List (List Char) → List (List Char) → Prop where
  | nil (index : Nat) : LinesRelaid verbatim index [] []
  | cons {index : Nat} {line line' : List Char} {rest rest' : List (List Char)}
      (hline : LineRelaid (verbatim index) line line')
      (hrest : LinesRelaid verbatim (index + 1) rest rest') :
      LinesRelaid verbatim index (line :: rest) (line' :: rest')

theorem isMargin_indentation (depth : Nat) : IsMargin (indentation depth).toList := by
  intro c hc
  rw [indentation, String.toList_ofList] at hc
  rw [List.eq_of_mem_replicate hc]
  decide

/-- The bytes of an indent are blanks. -/
theorem exists_margin_of_afterBytes? {count : Nat} {line rest : List Char}
    (hrest : Text.afterBytes? count line = some rest) (hcount : count ≤ indentOf line) :
    ∃ front, line = front ++ rest ∧ ∀ c ∈ front, Text.isBlank c = true := by
  obtain ⟨front, rfl, hfront⟩ := Text.exists_of_afterBytes? hrest
  refine ⟨front, rfl, ?_⟩
  have hwithin : front <+: (front ++ rest).takeWhile Text.isBlank := by
    refine List.prefix_of_prefix_length_le (List.prefix_append _ _) (List.takeWhile_prefix _) ?_
    -- with more characters than the blanks have, `front` would have more bytes as well
    by_contra hlonger
    obtain ⟨more, hmore⟩ := List.prefix_of_prefix_length_le
      (List.takeWhile_prefix Text.isBlank) (List.prefix_append front rest) (by omega)
    have hne : more ≠ [] := by
      rintro rfl
      rw [List.append_nil] at hmore
      rw [hmore] at hlonger
      exact hlonger le_rfl
    obtain ⟨c, tail, rfl⟩ := List.exists_cons_of_ne_nil hne
    have hlength := congrArg Text.byteLength hmore
    have hpos := Char.utf8Size_pos c
    rw [Text.byteLength_append, Text.byteLength_cons] at hlength
    unfold indentOf at hcount
    omega
  intro c hc
  exact List.mem_takeWhile_imp (hwithin.subset hc)

/-- What a line is cut to: itself where it is verbatim, nothing where it is blank, and
elsewhere what is left without the indent and the blanks at the end. -/
theorem dedentLine_eq_ok_iff {indent : Nat} {line : List Char} {verbatim : Bool}
    {out : SnippetLine} :
    dedentLine indent line verbatim = .ok out ↔
      (verbatim = true ∧ out = ⟨String.ofList line, true⟩) ∨
      (verbatim = false ∧ Text.allBlank line = true ∧ out = ⟨"", false⟩) ∨
      (verbatim = false ∧ Text.allBlank line = false ∧ ∃ rest,
        Text.afterBytes? indent line = some rest ∧
          out = ⟨String.ofList (Text.trimEnd rest), false⟩) := by
  unfold dedentLine
  cases verbatim with
  | true => simp [@eq_comm _ out]
  | false =>
      cases Text.allBlank line with
      | true => simp [@eq_comm _ out]
      | false =>
          cases Text.afterBytes? indent line with
          | none => simp
          | some rest => simp [@eq_comm _ out]

/-- A line without some blanks in front and those at its end is relaid by writing it at a
depth. -/
theorem lineRelaid_trimEnd {front rest : List Char} (hline : '\n' ∉ front ++ rest)
    (hfront : ∀ c ∈ front, Text.isBlank c = true) (depth : Nat) :
    ∃ line', ((SnippetLine.mk (String.ofList (Text.trimEnd rest)) false).render depth).toList =
      line' ++ ['\n'] ∧ LineRelaid false (front ++ rest) line' := by
  obtain ⟨lead, core, trail, rfl, htrim, hlead, htrail, hcore⟩ := Text.exists_trimEnd_eq rest
  have hmargins : IsMargin (front ++ lead) ∧ IsMargin trail := by
    simp only [List.mem_append, not_or] at hline
    refine ⟨isMargin_append.mpr ⟨?_, ?_⟩, ?_⟩
    · exact isMargin_of_allBlank (List.all_eq_true.mpr hfront) hline.1
    · exact isMargin_of_allBlank (List.all_eq_true.mpr hlead) hline.2.1.1
    · exact isMargin_of_allBlank (List.all_eq_true.mpr htrail) hline.2.2
  rw [htrim, ← List.append_assoc, ← List.append_assoc]
  by_cases hempty : lead ++ core = []
  · -- an empty line is written without the indent
    obtain ⟨rfl, rfl⟩ := List.append_eq_nil_iff.mp hempty
    have hrelaid := @LineRelaid.code (front ++ []) [] [] trail hmargins.1 isMargin_nil hmargins.2 hcore
    exact ⟨[], by simp [SnippetLine.render], by simpa using hrelaid⟩
  · -- the indent takes the place of the blanks that went
    have hne : (String.ofList (lead ++ core) == "") = false := by
      simpa [String.ext_iff] using hempty
    refine ⟨(indentation depth).toList ++ lead ++ core, ?_, ?_⟩
    · simp only [SnippetLine.render, hne, Bool.or_self, Bool.false_eq_true, if_false]
      simp
    · exact .code hmargins.1 (isMargin_append.mpr
        ⟨isMargin_indentation depth, (isMargin_append.mp hmargins.1).2⟩) hmargins.2 hcore

/-- A line freed of its indent and indented again is relaid. -/
theorem lineRelaid_of_dedentLine {indent : Nat} {line : List Char} {verbatim : Bool}
    {out : SnippetLine} (hout : dedentLine indent line verbatim = .ok out) (hline : '\n' ∉ line)
    (hindent : verbatim = false → Text.allBlank line = false → indent ≤ indentOf line)
    (depth : Nat) :
    ∃ line', (out.render depth).toList = line' ++ ['\n'] ∧ LineRelaid verbatim line line' := by
  rcases dedentLine_eq_ok_iff.mp hout with
    ⟨rfl, rfl⟩ | ⟨rfl, hblank, rfl⟩ | ⟨rfl, hblank, rest, hrest, rfl⟩
  · exact ⟨line, by simp [SnippetLine.render], .verbatim line⟩
  · refine ⟨[], by simp [SnippetLine.render], ?_⟩
    simpa using @LineRelaid.code line [] [] [] (isMargin_of_allBlank hblank hline) isMargin_nil
      isMargin_nil (by simp)
  · obtain ⟨front, rfl, hfront⟩ := exists_margin_of_afterBytes? hrest (hindent rfl hblank)
    exact lineRelaid_trimEnd hline hfront depth

/-- The indents of the lines that are code and not blank. -/
def codeIndents (lines : List (List Char × Bool)) : List Nat :=
  (lines.filter fun entry => !entry.2 && !Text.allBlank entry.1).map fun entry => indentOf entry.1

theorem commonIndent_eq (lines : List (List Char × Bool)) :
    commonIndent lines = (codeIndents lines).min?.getD 0 := rfl

theorem mem_codeIndents_iff {lines : List (List Char × Bool)} {indent : Nat} :
    indent ∈ codeIndents lines ↔
      ∃ line, (line, false) ∈ lines ∧ Text.allBlank line = false ∧ indentOf line = indent := by
  simp [codeIndents, and_assoc]

theorem commonIndent_le {lines : List (List Char × Bool)} {line : List Char}
    (hmem : (line, false) ∈ lines) (hblank : Text.allBlank line = false) :
    commonIndent lines ≤ indentOf line := by
  have hin : indentOf line ∈ codeIndents lines :=
    mem_codeIndents_iff.mpr ⟨line, hmem, hblank, rfl⟩
  obtain ⟨least, hleast⟩ := Option.isSome_iff_exists.mp (List.isSome_min?_of_mem hin)
  rw [commonIndent_eq, hleast, Option.getD_some]
  exact (List.min?_eq_some_iff.mp hleast).2 _ hin

/-- Dedented line by line, lines are relaid. -/
theorem linesRelaid_of_dedent {indent index : Nat} {lines : List (List Char)}
    (verbatim : Nat → Bool) {outs : List SnippetLine}
    (hlines : ∀ line ∈ lines, '\n' ∉ line)
    (hindent : ∀ line n, (line, n) ∈ lines.zipIdx index → verbatim n = false →
      Text.allBlank line = false → indent ≤ indentOf line)
    (houts : List.Forall₂ (fun (entry : List Char × Nat) out =>
      dedentLine indent entry.1 (verbatim entry.2) = .ok out) (lines.zipIdx index) outs)
    (depth : Nat) :
    ∃ lines', (outs.flatMap fun out => (out.render depth).toList) =
        (lines'.flatMap fun line => line ++ ['\n']) ∧
      LinesRelaid verbatim index lines lines' := by
  induction lines generalizing index outs with
  | nil =>
      cases houts
      exact ⟨[], rfl, .nil index⟩
  | cons line rest ih =>
      rw [List.zipIdx_cons] at houts hindent
      rcases houts with _ | ⟨hout, houts⟩
      obtain ⟨line', hrender, hline⟩ := lineRelaid_of_dedentLine hout
        (hlines line List.mem_cons_self) (hindent line index List.mem_cons_self) depth
      obtain ⟨rest', hrenders, hrest⟩ := ih (fun other h => hlines other (List.mem_cons_of_mem _ h))
        (fun other n h => hindent other n (List.mem_cons_of_mem _ h)) houts
      exact ⟨line' :: rest', by rw [List.flatMap_cons, List.flatMap_cons, hrender, hrenders],
        .cons hline hrest⟩

theorem flatMap_line_eq (line : List Char) (rest : List (List Char)) :
    ((line :: rest).flatMap fun line => line ++ ['\n']) = line ++ below rest ++ ['\n'] := by
  induction rest generalizing line with
  | nil => simp
  | cons next rest ih =>
      rw [List.flatMap_cons, ih]
      simp

theorem LinesRelaid.shift {verbatim : Nat → Bool} {first index : Nat}
    {lines lines' : List (List Char)}
    (h : LinesRelaid (fun n => verbatim (first + n)) index lines lines') :
    LinesRelaid verbatim (first + index) lines lines' := by
  induction h with
  | nil => exact .nil _
  | cons hline _ ih => exact .cons hline ih

/-- A snippet as it is written, line by line. -/
theorem linesRelaid_of_snippetOf {piece : List Char} {first : Nat} {literalLines : List Nat}
    {snippet : Snippet} (hsnippet : snippetOf piece first literalLines = .ok snippet)
    (depth : Nat) :
    ∃ line rest line' rest', piece = line ++ below rest ∧ '\n' ∉ line ∧
      (∀ other ∈ rest, '\n' ∉ other) ∧
      (snippet.render depth).toList = line' ++ below rest' ++ ['\n'] ∧
      LinesRelaid literalLines.contains first (line :: rest) (line' :: rest') := by
  obtain ⟨line, rest, hsplit, hpiece, hline, hrest⟩ := exists_splitOn_eq piece
  simp only [snippetOf, bind_eq_ok_iff, mapM_eq_ok_iff, pure_eq_ok_iff, hsplit] at hsnippet
  obtain ⟨outs, houts, rfl⟩ := hsnippet
  rw [List.forall₂_map_left_iff] at houts
  obtain ⟨lines', hrender, hrelaid⟩ := linesRelaid_of_dedent
    (fun n => literalLines.contains (first + n)) (by simpa [hline] using hrest)
    (fun other n hmem hcode hblank =>
      commonIndent_le (List.mem_map.mpr ⟨(other, n), hmem, by rw [hcode]⟩) hblank) houts depth
  obtain ⟨line', rest', rfl⟩ : ∃ line' rest', lines' = line' :: rest' := by
    cases hrelaid
    exact ⟨_, _, rfl⟩
  refine ⟨line, rest, line', rest', hpiece, hline, hrest, ?_, hrelaid.shift⟩
  calc (Snippet.render ⟨outs⟩ depth).toList
      = outs.flatMap fun out => (out.render depth).toList := by
        rw [Snippet.render, String.toList_join, List.flatMap_map]
    _ = (line' :: rest').flatMap fun line => line ++ ['\n'] := hrender
    _ = line' ++ below rest' ++ ['\n'] := flatMap_line_eq line' rest'

/-! ## Pieces of a text -/

/-- A line feed leads into the text of a template literal from inside it only. -/
theorem Scanner.step_feed {scanner : Scanner} {dollar : Bool}
    (hmode : (scanner.step '\n').1.mode = .template dollar) :
    literalLinesIn (scanner.step '\n').2 = [scanner.place.line + 1] := by
  have hcode : scanner.codeStep '\n' = (scanner.opening .code '\n' [], []) := by
    simp [codeStep, show Text.isBlank '\n' = true by decide]
  have hidentifier : isIdentifierChar '\n' = false := by decide
  have hnumber : isNumberChar '\n' = false := by decide
  cases hscanner : scanner.mode with
  | template dollar =>
      simp [step, hscanner, templateStep, backtick, literalLinesIn, Report.literalLine?]
  | string line escaped => cases escaped <;> simp [step, hscanner, stringStep] at hmode
  | _ => simp [step, hscanner, endToken, hcode, hidentifier, hnumber] at hmode

/-- The scanner finds no fault in a text, which ends with no blank, and the lines
that begin in the text of a template literal are verbatim. -/
structure Scanner.Respects (scanner : Scanner) (verbatim : Nat → Bool) (text : List Char) :
    Prop where
  live : scanner.Live
  flawless : Flawless (scanner.emits text)
  literal : ∀ line ∈ literalLinesIn (scanner.emits text), verbatim line = true
  last : ∀ c ∈ text.getLast?, Text.isBlank c = false

theorem Scanner.Respects.behind {scanner : Scanner} {verbatim : Nat → Bool}
    {front back : List Char} (h : scanner.Respects verbatim (front ++ back)) :
    (scanner.run front).Respects verbatim back ∧
      (scanner.run front).place.line = scanner.place.line + front.count '\n' := by
  have hflawless := h.flawless
  have hliteral := h.literal
  rw [emits_append, flawless_append] at hflawless
  rw [emits_append, literalLinesIn_append] at hliteral
  refine ⟨⟨(outline_run h.live hflawless.1).1, hflawless.2, ?_, ?_⟩, ?_⟩
  · exact fun line hline => hliteral line (List.mem_append_right _ hline)
  · exact fun c hc => h.last c (List.mem_getLast?_append_of_mem_getLast? hc)
  · rw [run_place h.live hflawless.1, Place.line_afterText]

/-- A line that begins in the text of a template literal is verbatim. -/
theorem Scanner.Respects.verbatim_eq {scanner : Scanner} {verbatim : Nat → Bool}
    {trail rest : List Char} (h : scanner.Respects verbatim (trail ++ '\n' :: rest))
    (htrail : IsMargin trail) {dollar : Bool}
    (hmode : (scanner.run (trail ++ ['\n'])).mode = .template dollar) :
    verbatim (scanner.place.line + 1) = true := by
  obtain ⟨hback, hline⟩ := h.behind
  rw [List.count_eq_zero_of_not_mem htrail.not_mem, Nat.add_zero] at hline
  rw [run_append, run_cons, run_nil] at hmode
  refine hback.literal _ ?_
  rw [emits_cons, literalLinesIn_append, step_feed hmode, hline]
  simp

/-- Below a line whose end has been read, the lines are relaid. -/
theorem relaid_below {verbatim : Nat → Bool} {index : Nat} {lines lines' : List (List Char)}
    (hlines : LinesRelaid verbatim index lines lines') {scanner : Scanner} {trail : List Char}
    (htrail : IsMargin trail) (hindex : index = scanner.place.line + 1)
    (hrespects : scanner.Respects verbatim (trail ++ below lines))
    (hfeeds : ∀ line ∈ lines, '\n' ∉ line) :
    Relaid scanner (trail ++ below lines) (below lines') := by
  induction hlines generalizing scanner trail with
  | nil index =>
      have hnil : trail = [] := by
        by_contra hne
        obtain ⟨c, hc⟩ : ∃ c, trail.getLast? = some c := ⟨_, List.getLast?_eq_some_getLast hne⟩
        have hblank := hrespects.last c (by simp [hc])
        rw [(htrail c (List.mem_of_getLast? hc)).1] at hblank
        cases hblank
      rw [hnil]
      exact .nil scanner
  | @cons index line line' rest rest' hline _ ih =>
      have hcount := List.count_eq_zero_of_not_mem (hfeeds line List.mem_cons_self)
      -- what is read up to the end of this line leaves the lines below to the induction
      have hnext : ∀ front more, trail ++ below (line :: rest) = front ++ (more ++ below rest) →
          IsMargin more → front.count '\n' = 1 →
          Relaid (scanner.run front) (more ++ below rest) (below rest') := by
        intro front more hfront hmore hfeed
        rw [hfront] at hrespects
        obtain ⟨hback, hplace⟩ := hrespects.behind
        exact ih hmore (by rw [hplace, hfeed, hindex]) hback
          fun other hother => hfeeds other (List.mem_cons_of_mem _ hother)
      generalize hflag : verbatim index = flag at hline
      cases hline with
      | verbatim =>
          rw [below_cons, below_cons]
          refine @Relaid.lineBreak _ trail [] [] _ _ htrail isMargin_nil isMargin_nil
            (fun _ _ => rfl) (.copy line ?_)
          rw [← Scanner.run_append]
          refine hnext _ [] (by simp) isMargin_nil ?_
          simp [List.count_eq_zero_of_not_mem htrail.not_mem, hcount]
      | @code lead lead' core more hlead hlead' hmore hcore =>
          simp only [List.count_append, Nat.add_eq_zero_iff] at hcount
          simp only [below_cons, List.append_assoc] at hrespects ⊢
          refine .lineBreak htrail hlead hlead' ?_ (.copy core ?_)
          · intro dollar hmode
            have htrue := hrespects.verbatim_eq htrail hmode
            rw [← hindex, hflag] at htrue
            cases htrue
          · rw [← Scanner.run_append]
            refine hnext _ more (by simp) hmore ?_
            simp [List.count_eq_zero_of_not_mem htrail.not_mem, hcount]

/-- Blanks in front of a character that is none are found in one way only. -/
theorem eq_of_blanks {lead lead' rest rest' : List Char} {c d : Char}
    (hlead : ∀ c ∈ lead, Text.isBlank c = true) (hlead' : ∀ c ∈ lead', Text.isBlank c = true)
    (hc : Text.isBlank c = false) (hd : Text.isBlank d = false)
    (h : lead ++ c :: rest = lead' ++ d :: rest') : lead = lead' ∧ c :: rest = d :: rest' := by
  have hblanks : ∀ (front back : List Char) (x : Char),
      (∀ b ∈ front, Text.isBlank b = true) → Text.isBlank x = false →
      (front ++ x :: back).takeWhile Text.isBlank = front := by
    intro front back x hfront hx
    rw [List.takeWhile_append_of_pos hfront, List.takeWhile_cons_of_neg (by simp [hx]),
      List.append_nil]
  obtain rfl : lead = lead' := by
    calc lead = (lead ++ c :: rest).takeWhile Text.isBlank := (hblanks lead rest c hlead hc).symm
      _ = (lead' ++ d :: rest').takeWhile Text.isBlank := by rw [h]
      _ = lead' := hblanks lead' rest' d hlead' hd
  exact ⟨rfl, List.append_cancel_left h⟩

/-- A piece is cut out alone, or with the line in front of it where that is blank. -/
theorem excerpt_piece (front piece back : List Char) :
    excerpt (front ++ piece ++ back) (Text.byteLength front) (Text.byteLength (front ++ piece)) =
      if Text.allBlank (front.reverse.takeWhile (· ≠ '\n')).reverse = true then
        (front.reverse.takeWhile (· ≠ '\n')).reverse ++ piece
      else piece := by
  have hfront : Text.uptoBytes (Text.byteLength front) (front ++ piece ++ back) = front := by
    rw [List.append_assoc, Text.uptoBytes_append]
  rw [excerpt, Text.uptoBytes_between, hfront]

/-- A piece is cut out with nothing but the margin in front of it. -/
theorem exists_excerpt_eq (front piece back : List Char) :
    ∃ lead, IsMargin lead ∧ excerpt (front ++ piece ++ back) (Text.byteLength front)
      (Text.byteLength (front ++ piece)) = lead ++ piece := by
  rw [excerpt_piece]
  split_ifs with hblank
  · refine ⟨_, isMargin_of_allBlank hblank ?_, rfl⟩
    intro hfeed
    simpa using List.mem_takeWhile_imp (List.mem_reverse.mp hfeed)
  · exact ⟨[], isMargin_nil, rfl⟩

/-- The first line of a text holds the first characters up to one that is no
blank. -/
theorem exists_first_line {margin tail line : List Char} {x : Char} {rest : List (List Char)}
    (hmargin : IsMargin margin) (hx : Text.isBlank x = false)
    (h : margin ++ x :: tail = line ++ below rest) :
    ∃ more, line = margin ++ x :: more ∧ tail = more ++ below rest := by
  have hfeed : x ≠ '\n' := by
    rintro rfl
    exact absurd hx (by decide)
  rcases List.append_eq_append_iff.mp h with ⟨front, rfl, hfront⟩ | ⟨front, rfl, hfront⟩
  · cases front with
    | nil => cases rest <;> simp [hfeed] at hfront
    | cons y more =>
        obtain ⟨rfl, rfl⟩ := List.cons.inj hfront
        exact ⟨more, rfl, rfl⟩
  · cases rest with
    | nil => simp at hfront
    | cons next others =>
        cases front with
        | nil => simp [Ne.symm hfeed] at hfront
        | cons y more =>
            obtain ⟨rfl, -⟩ := List.cons.inj (hfront.symm.trans (below_cons next others)).symm
            simpa using hmargin.not_mem

/-- A first line that is relaid leaves a margin, and the rest of it stays as it is up to the
blanks at its end. -/
theorem exists_core_of_lineRelaid {margin more line' : List Char} {x : Char} {verbatim : Bool}
    (hmargin : IsMargin margin) (hx : Text.isBlank x = false)
    (hline : LineRelaid verbatim (margin ++ x :: more) line') :
    ∃ lead core trail, IsMargin lead ∧ IsMargin trail ∧ x :: more = core ++ trail ∧
      line' = lead ++ core := by
  generalize hwhole : margin ++ x :: more = whole at hline
  cases hline with
  | verbatim =>
      -- a verbatim line keeps its margin and its end
      exact ⟨margin, x :: more, [], hmargin, isMargin_nil, by simp, hwhole.symm⟩
  | @code lead lead' core trail hlead hlead' htrail hcore =>
      -- the line holds `x`, so it is not blank and has a core, which begins with `x`
      obtain ⟨y, inner, rfl⟩ : ∃ y inner, core = y :: inner := by
        refine List.exists_cons_of_ne_nil fun hnil => ?_
        have hmem : x ∈ lead ++ core ++ trail := by
          rw [← hwhole]
          simp
        simp only [hnil, List.append_nil, List.mem_append] at hmem
        rcases hmem with hmem | hmem
        · simp [(hlead x hmem).1] at hx
        · simp [(htrail x hmem).1] at hx
      rw [List.append_assoc, List.cons_append] at hwhole
      obtain ⟨-, hsame⟩ := eq_of_blanks (fun c hc => (hmargin c hc).1)
        (fun c hc => (hlead c hc).1) hx (hcore y rfl) hwhole
      exact ⟨lead', y :: inner, trail, hlead', htrail, by rw [hsame, List.cons_append], rfl⟩

/-- **A snippet is the piece it was cut from in another layout.** -/
theorem relaid_of_cut {front piece back : List Char} {first : Nat} {literalLines : List Nat}
    {snippet : Snippet}
    (hsnippet : snippetOf (excerpt (front ++ piece ++ back) (Text.byteLength front)
      (Text.byteLength (front ++ piece))) first literalLines = .ok snippet)
    (hne : piece ≠ []) (hfirst : ∀ c ∈ piece.head?, Text.isBlank c = false) {scanner : Scanner}
    (hline : scanner.place.line = first)
    (hrespects : scanner.Respects literalLines.contains piece) (depth : Nat) :
    ∃ lead body, IsMargin lead ∧ (snippet.render depth).toList = lead ++ body ++ ['\n'] ∧
      Relaid scanner piece body := by
  obtain ⟨margin, hmargin, hexcerpt⟩ := exists_excerpt_eq front piece back
  rw [hexcerpt] at hsnippet
  obtain ⟨line, rest, line', rest', hpiece, hfeed, hfeeds, hrender, hlines⟩ :=
    linesRelaid_of_snippetOf hsnippet depth
  -- the margin stands on the first line, in front of the piece
  obtain ⟨x, tail, rfl⟩ := List.exists_cons_of_ne_nil hne
  have hx : Text.isBlank x = false := hfirst x rfl
  obtain ⟨more, rfl, rfl⟩ := exists_first_line hmargin hx hpiece
  obtain ⟨hfirstLine, hbelow⟩ : LineRelaid (literalLines.contains first) (margin ++ x :: more) line' ∧
      LinesRelaid literalLines.contains (first + 1) rest rest' := by
    cases hlines with
    | cons hline hrest => exact ⟨hline, hrest⟩
  obtain ⟨lead, core, trail, hlead, htrail, hcore, rfl⟩ :=
    exists_core_of_lineRelaid hmargin hx hfirstLine
  refine ⟨lead, core ++ below rest', hlead, by simp [hrender], ?_⟩
  rw [← List.cons_append, hcore, List.append_assoc] at hrespects ⊢
  -- the lines below are relaid from where the first one is left
  obtain ⟨hback, hplace⟩ := hrespects.behind
  have hcount : core.count '\n' = 0 := by
    refine List.count_eq_zero_of_not_mem fun hmem => hfeed ?_
    rw [hcore]
    simp [hmem]
  exact .copy core (relaid_below hbelow htrail (by rw [hplace, hcount, hline]) hback hfeeds)

end PersistLayer.Syntax
