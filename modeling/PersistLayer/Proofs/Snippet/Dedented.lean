import PersistLayer.Proofs.Snippet.Cutting

/-!
# Indenting and cutting again

A snippet has no common indent left: unless it has no code at all, some line of it
begins with no blank.  Written at a depth, its lines of code have the indent of that
depth in common and no more, so that cutting what is written takes away the indent and
nothing else (`Snippet.Dedented.snippetOf_written`).

What has to be known besides is which lines are verbatim.  A cut reads that off the line
numbers of the text, so the numbers must mark the same lines of what is written as they
did of the text that the snippet was cut from (`Snippet.MarkedBy`).
-/

namespace PersistLayer.Syntax

/-! ## Blanks at the ends of a line -/

/-- A line freed of all its indent begins with no blank, also without the blanks at its
end. -/
theorem indentOf_trimEnd_dropWhile (line : List Char) :
    indentOf (Text.trimEnd (line.dropWhile Text.isBlank)) = 0 := by
  obtain ⟨lead, core, trail, hline, htrim, hlead, -, hcore⟩ :=
    Text.exists_trimEnd_eq (line.dropWhile Text.isBlank)
  have hnone : ∀ c ∈ (line.dropWhile Text.isBlank).head?, Text.isBlank c = false := by
    intro c hc
    have hhead := List.head?_dropWhile_not Text.isBlank line
    rw [Option.mem_def.mp hc] at hhead
    simpa using hhead
  obtain rfl : lead = [] := by
    cases lead with
    | nil => rfl
    | cons c rest =>
        have hblank := hlead c List.mem_cons_self
        rw [hnone c (by rw [hline]; rfl)] at hblank
        cases hblank
  rw [htrim, List.nil_append, indentOf]
  cases core with
  | nil => rfl
  | cons c rest => rw [List.takeWhile_cons_of_neg (by simp [hcore c rfl]), Text.byteLength_nil]

/-- The indent of a line behind some blanks. -/
theorem indentOf_append {blanks : List Char} (hblanks : ∀ c ∈ blanks, Text.isBlank c = true)
    (line : List Char) : indentOf (blanks ++ line) = Text.byteLength blanks + indentOf line := by
  rw [indentOf, List.takeWhile_append_of_pos hblanks, Text.byteLength_append, indentOf]

/-- Some line of code has no more than the common indent. -/
theorem exists_indentOf_eq {lines : List (List Char × Bool)} {line : List Char}
    (hmem : (line, false) ∈ lines) (hblank : Text.allBlank line = false) :
    ∃ other, (other, false) ∈ lines ∧ Text.allBlank other = false ∧
      indentOf other = commonIndent lines := by
  have hin : indentOf line ∈ codeIndents lines :=
    mem_codeIndents_iff.mpr ⟨line, hmem, hblank, rfl⟩
  obtain ⟨least, hleast⟩ := Option.isSome_iff_exists.mp (List.isSome_min?_of_mem hin)
  rw [commonIndent_eq, hleast, Option.getD_some]
  exact mem_codeIndents_iff.mp (List.min?_eq_some_iff.mp hleast).1

/-! ## Snippets without common indent -/

/-- A line that the indent of a depth is written in front of. -/
def SnippetLine.IsCode (line : SnippetLine) : Prop := line.verbatim = false ∧ line.text ≠ ""

theorem SnippetLine.not_isCode_iff {line : SnippetLine} :
    ¬ line.IsCode ↔ (line.verbatim || line.text == "") = true := by
  rw [IsCode, not_and_or]
  simp

/-- No blank can be taken off a snippet any more: its lines of code end with no blank,
and one of them begins with none. -/
structure Snippet.Dedented (snippet : Snippet) : Prop where
  nonempty : snippet.lines ≠ []
  feeds : ∀ line ∈ snippet.lines, '\n' ∉ line.text.toList
  visible : ∀ line ∈ snippet.lines, line.IsCode → Text.allBlank line.text.toList = false
  trimmed : ∀ line ∈ snippet.lines, line.IsCode →
    Text.trimEnd line.text.toList = line.text.toList
  flush : ∀ line ∈ snippet.lines, line.IsCode →
    ∃ other ∈ snippet.lines, other.IsCode ∧ indentOf other.text.toList = 0

/-- The verbatim lines of a snippet are the marked ones, when its first line has the
number `first`. -/
def Snippet.MarkedBy (snippet : Snippet) (first : Nat) (literalLines : List Nat) : Prop :=
  ∀ index line, snippet.lines[index]? = some line →
    line.verbatim = literalLines.contains (first + index)

/-- A line of code comes from a line that is not blank, by taking away the indent and the
blanks at the end. -/
theorem SnippetLine.IsCode.exists_rest {indent : Nat} {line : List Char} {verbatim : Bool}
    {out : SnippetLine} (hcode : out.IsCode) (hout : dedentLine indent line verbatim = .ok out) :
    verbatim = false ∧ Text.allBlank line = false ∧
      ∃ rest, Text.afterBytes? indent line = some rest ∧ out.text.toList = Text.trimEnd rest := by
  rcases dedentLine_eq_ok_iff.mp hout with
    ⟨-, rfl⟩ | ⟨-, -, rfl⟩ | ⟨hverbatim, hblank, rest, hrest, rfl⟩
  · cases hcode.1
  · exact absurd rfl hcode.2
  · exact ⟨hverbatim, hblank, rest, hrest, String.toList_ofList⟩

theorem verbatim_of_dedentLine {indent : Nat} {line : List Char} {verbatim : Bool}
    {out : SnippetLine} (hout : dedentLine indent line verbatim = .ok out) :
    out.verbatim = verbatim := by
  rcases dedentLine_eq_ok_iff.mp hout with ⟨rfl, rfl⟩ | ⟨rfl, -, rfl⟩ | ⟨rfl, -, -, -, rfl⟩ <;> rfl

/-- No character of a line is new. -/
theorem subset_of_dedentLine {indent : Nat} {line : List Char} {verbatim : Bool}
    {out : SnippetLine} (hout : dedentLine indent line verbatim = .ok out) :
    out.text.toList ⊆ line := by
  rcases dedentLine_eq_ok_iff.mp hout with ⟨-, rfl⟩ | ⟨-, -, rfl⟩ | ⟨-, -, rest, hrest, rfl⟩
  · simp
  · simp
  · obtain ⟨front, rfl, -⟩ := Text.exists_of_afterBytes? hrest
    obtain ⟨lead, core, trail, htext, htrim, -⟩ := Text.exists_trimEnd_eq rest
    rw [String.toList_ofList, htrim, htext]
    intro c hc
    exact List.mem_append_right _ (List.mem_append_left _ hc)

/-- A line of code that is not blank gives a line of code. -/
theorem isCode_of_dedentLine {indent : Nat} {line : List Char} {out : SnippetLine}
    (hout : dedentLine indent line false = .ok out) (hblank : Text.allBlank line = false)
    (hindent : indent ≤ indentOf line) : out.IsCode := by
  rcases dedentLine_eq_ok_iff.mp hout with ⟨⟨⟩, -⟩ | ⟨-, hall, -⟩ | ⟨-, -, rest, hrest, rfl⟩
  · rw [hall] at hblank
    cases hblank
  · obtain ⟨front, rfl, hfront⟩ := exists_margin_of_afterBytes? hrest hindent
    refine ⟨rfl, fun hempty => ?_⟩
    have hall : Text.allBlank (Text.trimEnd rest) = true := by
      rw [show Text.trimEnd rest = [] by simpa using hempty]
      rfl
    rw [Text.allBlank_trimEnd] at hall
    simp [Text.allBlank, List.all_append, List.all_eq_true.mpr hfront,
      show rest.all Text.isBlank = true from hall] at hblank

/-! ## Cutting -/

/-- The lines of a piece of text, each with whether it is verbatim. -/
def markedLines (piece : List Char) (first : Nat) (literalLines : List Nat) :
    List (List Char × Bool) :=
  (piece.splitOn '\n').zipIdx.map fun (line, index) =>
    (line, literalLines.contains (first + index))

theorem snippetOf_eq_ok_iff {piece : List Char} {first : Nat} {literalLines : List Nat}
    {snippet : Snippet} :
    snippetOf piece first literalLines = .ok snippet ↔
      List.Forall₂ (fun entry line =>
        dedentLine (commonIndent (markedLines piece first literalLines)) entry.1 entry.2 = .ok line)
        (markedLines piece first literalLines) snippet.lines := by
  rw [← mapM_eq_ok_iff]
  simp only [snippetOf, bind_eq_ok_iff, pure_eq_ok_iff]
  constructor
  · rintro ⟨lines, hlines, rfl⟩
    exact hlines
  · exact fun hlines => ⟨_, hlines, rfl⟩

/-- A piece that stands behind a margin only is cut out with the margin. -/
theorem excerpt_of_isMargin {lead : List Char} (hlead : IsMargin lead) (piece back : List Char) :
    excerpt (lead ++ piece ++ back) (Text.byteLength lead) (Text.byteLength (lead ++ piece)) =
      lead ++ piece := by
  have hline : lead.reverse.takeWhile (· ≠ '\n') = lead.reverse := by
    rw [List.takeWhile_eq_self_iff]
    intro c hc
    simpa using (hlead c (List.mem_reverse.mp hc)).2
  have hblank : Text.allBlank lead = true := List.all_eq_true.mpr fun c hc => (hlead c hc).1
  rw [excerpt_piece, hline, List.reverse_reverse, if_pos hblank]

theorem not_mem_of_mem_markedLines {piece : List Char} {first : Nat} {literalLines : List Nat}
    {entry : List Char × Bool} (hentry : entry ∈ markedLines piece first literalLines) :
    '\n' ∉ entry.1 := by
  obtain ⟨top, rest, hsplit, -, htop, hrest⟩ := exists_splitOn_eq piece
  rw [markedLines, hsplit] at hentry
  obtain ⟨⟨line, index⟩, hmem, rfl⟩ := List.mem_map.mp hentry
  rcases List.mem_cons.mp (List.fst_mem_of_mem_zipIdx hmem) with hline | hline
  · exact hline ▸ htop
  · exact hrest line hline

section Lines

variable {entries : List (List Char × Bool)} {lines : List SnippetLine}
  (hlines : entries.mapM (fun entry => dedentLine (commonIndent entries) entry.1 entry.2) =
    .ok lines)

include hlines

/-- A line of code is not blank. -/
theorem allBlank_of_dedentLines {line : SnippetLine} (hline : line ∈ lines) (hcode : line.IsCode) :
    Text.allBlank line.text.toList = false := by
  obtain ⟨⟨source, verbatim⟩, hentry, hout⟩ := (mem_of_mapM_eq_ok hlines).1 line hline
  obtain ⟨rfl, hblank, rest, hrest, htext⟩ := hcode.exists_rest hout
  obtain ⟨front, hfront, hmargin⟩ :=
    exists_margin_of_afterBytes? hrest (commonIndent_le hentry hblank)
  rw [htext, Text.allBlank_trimEnd]
  rw [hfront, Text.allBlank, List.all_append, List.all_eq_true.mpr hmargin, Bool.true_and]
    at hblank
  exact hblank

/-- A line that has no more than the common indent is left without any. -/
theorem exists_flush_of_dedentLines {line : SnippetLine} (hline : line ∈ lines)
    (hcode : line.IsCode) : ∃ other ∈ lines, other.IsCode ∧ indentOf other.text.toList = 0 := by
  obtain ⟨⟨source, verbatim⟩, hentry, hout⟩ := (mem_of_mapM_eq_ok hlines).1 line hline
  obtain ⟨rfl, hblank, -⟩ := hcode.exists_rest hout
  obtain ⟨least, hleast, hleastBlank, hindent⟩ := exists_indentOf_eq hentry hblank
  obtain ⟨other, hother, houther⟩ := (mem_of_mapM_eq_ok hlines).2 _ hleast
  have hotherCode := isCode_of_dedentLine houther hleastBlank hindent.ge
  obtain ⟨-, -, rest, hrest, htext⟩ := hotherCode.exists_rest houther
  refine ⟨other, hother, hotherCode, ?_⟩
  have hdrop : rest = least.dropWhile Text.isBlank := by
    have hafter := Text.afterBytes?_append (least.takeWhile Text.isBlank)
      (least.dropWhile Text.isBlank)
    rw [List.takeWhile_append_dropWhile] at hafter
    rw [← hindent, indentOf, hafter] at hrest
    exact (Option.some.inj hrest).symm
  rw [htext, hdrop, indentOf_trimEnd_dropWhile]

end Lines

/-- **What is cut out of a text has no common indent left.** -/
theorem dedented_of_snippetOf {piece : List Char} {first : Nat} {literalLines : List Nat}
    {snippet : Snippet} (hsnippet : snippetOf piece first literalLines = .ok snippet) :
    snippet.Dedented := by
  rw [snippetOf_eq_ok_iff] at hsnippet
  have hlines := mapM_eq_ok_iff.mpr hsnippet
  have hcut := (mem_of_mapM_eq_ok hlines).1
  refine ⟨?_, ?_, fun _ => allBlank_of_dedentLines hlines, ?_,
    fun _ => exists_flush_of_dedentLines hlines⟩
  · intro hnil
    obtain ⟨top, rest, hsplit, -⟩ := exists_splitOn_eq piece
    have hlength := hsnippet.length_eq
    rw [markedLines, hsplit, hnil] at hlength
    simp at hlength
  · intro line hline hfeed
    obtain ⟨entry, hentry, hout⟩ := hcut line hline
    exact not_mem_of_mem_markedLines hentry (subset_of_dedentLine hout hfeed)
  · intro line hline hcode
    obtain ⟨entry, hentry, hout⟩ := hcut line hline
    obtain ⟨-, -, rest, -, htext⟩ := hcode.exists_rest hout
    rw [htext, Text.trimEnd_trimEnd]

/-- The verbatim lines of a snippet are those that are marked in the text it was cut
from. -/
theorem markedBy_of_snippetOf {piece : List Char} {first : Nat} {literalLines : List Nat}
    {snippet : Snippet} (hsnippet : snippetOf piece first literalLines = .ok snippet) :
    snippet.MarkedBy first literalLines := by
  rw [snippetOf_eq_ok_iff] at hsnippet
  intro index line hline
  obtain ⟨hindex, rfl⟩ := List.getElem?_eq_some_iff.mp hline
  have hwithin : index < (markedLines piece first literalLines).length :=
    hsnippet.length_eq ▸ hindex
  have hout := verbatim_of_dedentLine (hsnippet.get hwithin hindex)
  simpa [markedLines] using hout

/-- A line of code that begins with no blank, with the lines of a literal below it. -/
theorem snippetOf_literal {line : List Char} {rest : List (List Char)} {first : Nat}
    {literalLines : List Nat} (hline : '\n' ∉ line) (hrest : ∀ other ∈ rest, '\n' ∉ other)
    {c : Char} (hfirst : line.head? = some c) (hc : Text.isBlank c = false)
    (hcode : first ∉ literalLines)
    (hliteral : ∀ index < rest.length, first + (index + 1) ∈ literalLines) :
    snippetOf (line ++ below rest) first literalLines =
      .ok ⟨⟨String.ofList (Text.trimEnd line), false⟩ ::
        rest.map fun other => ⟨String.ofList other, true⟩⟩ := by
  have hmarked : markedLines (line ++ below rest) first literalLines =
      (line, false) :: rest.map fun other => (other, true) := by
    rw [markedLines, ← intercalate_feed, List.splitOn_intercalate '\n'
      (List.forall_mem_cons.mpr ⟨hline, hrest⟩) (List.cons_ne_nil _ _), List.zipIdx_cons,
      List.map_cons]
    refine congrArg₂ List.cons (by simpa using hcode) ?_
    refine List.ext_getElem (by simp) fun index hindex _ => ?_
    have hmem := hliteral index (by simpa using hindex)
    simpa [Nat.add_comm 1] using hmem
  have hblank : Text.allBlank line = false := by
    rw [Text.allBlank, List.all_eq_false]
    exact ⟨c, List.mem_of_mem_head? hfirst, by simp [hc]⟩
  have hindent : indentOf line = 0 := by
    obtain ⟨tail, rfl⟩ := List.head?_eq_some_iff.mp hfirst
    rw [indentOf, List.takeWhile_cons_of_neg (by simp [hc])]
    rfl
  -- the first line is the only one that is code, and it has no indent
  have hcommon : commonIndent (markedLines (line ++ below rest) first literalLines) = 0 := by
    have hle : commonIndent (markedLines (line ++ below rest) first literalLines) ≤
        indentOf line := commonIndent_le (by rw [hmarked]; exact List.mem_cons_self) hblank
    omega
  rw [snippetOf_eq_ok_iff, hcommon, hmarked]
  refine .cons ?_ ?_
  · simp [dedentLine, hblank, Text.afterBytes?]
  · rw [List.forall₂_map_left_iff, List.forall₂_map_right_iff, List.forall₂_same]
    exact fun other _ => rfl

/-! ## Writing -/

/-- The line as a snippet at a depth writes it, without its line feed. -/
def SnippetLine.written (line : SnippetLine) (depth : Nat) : List Char :=
  if line.verbatim || line.text == "" then line.text.toList
  else (indentation depth).toList ++ line.text.toList

/-- The snippet as it is written at a depth, without its last line feed. -/
def Snippet.written (snippet : Snippet) (depth : Nat) : List Char :=
  ['\n'].intercalate (snippet.lines.map fun line => line.written depth)

theorem SnippetLine.IsCode.written_eq {line : SnippetLine} (hcode : line.IsCode) (depth : Nat) :
    line.written depth = (indentation depth).toList ++ line.text.toList := by
  obtain ⟨hverbatim, htext⟩ := hcode
  have hne : (line.text == "") = false := by simpa using htext
  simp [written, hverbatim, hne]

theorem SnippetLine.written_of_not_isCode {line : SnippetLine} (hcode : ¬ line.IsCode)
    (depth : Nat) : line.written depth = line.text.toList := by
  rw [written, if_pos (not_isCode_iff.mp hcode)]

theorem SnippetLine.render_eq (line : SnippetLine) (depth : Nat) :
    (line.render depth).toList = line.written depth ++ ['\n'] := by
  by_cases hcode : line.IsCode
  · have hne : (line.text == "") = false := by simpa using hcode.2
    simp [render, hcode.written_eq, hcode.1, hne]
  · rw [written_of_not_isCode hcode, render, if_pos (not_isCode_iff.mp hcode), String.toList_append]
    rfl

/-- A snippet is written with a line feed behind its last line. -/
theorem Snippet.render_eq {snippet : Snippet} (hlines : snippet.lines ≠ []) (depth : Nat) :
    (snippet.render depth).toList = snippet.written depth ++ ['\n'] := by
  obtain ⟨line, rest, hline⟩ := List.exists_cons_of_ne_nil hlines
  calc (snippet.render depth).toList
      = (snippet.lines.map fun line => line.written depth).flatMap fun line => line ++ ['\n'] := by
        rw [render, String.toList_join, List.flatMap_map, List.flatMap_map]
        exact List.flatMap_congr fun line _ => line.render_eq depth
    _ = line.written depth ++ below (rest.map fun line => line.written depth) ++ ['\n'] := by
        rw [hline, List.map_cons, flatMap_line_eq]
    _ = snippet.written depth ++ ['\n'] := by
        rw [written, hline, List.map_cons, intercalate_feed]

namespace Snippet.Dedented

variable {snippet : Snippet} (hdedented : snippet.Dedented) (depth : Nat)

include hdedented

theorem not_mem_written : ∀ line ∈ snippet.lines, '\n' ∉ line.written depth := by
  intro line hline
  by_cases hcode : line.IsCode
  · rw [hcode.written_eq, List.mem_append, not_or]
    exact ⟨(isMargin_indentation depth).not_mem, hdedented.feeds line hline⟩
  · rw [SnippetLine.written_of_not_isCode hcode]
    exact hdedented.feeds line hline

theorem allBlank_written {line : SnippetLine} (hline : line ∈ snippet.lines)
    (hcode : line.IsCode) : Text.allBlank (line.written depth) = false := by
  rw [hcode.written_eq, Text.allBlank, List.all_append, Bool.and_eq_false_iff]
  exact .inr (hdedented.visible line hline hcode)

/-- The lines of what is written are the lines of the snippet. -/
theorem markedLines_written {first : Nat} {literalLines : List Nat}
    (hmarked : snippet.MarkedBy first literalLines) :
    markedLines (snippet.written depth) first literalLines =
      snippet.lines.map fun line => (line.written depth, line.verbatim) := by
  have hsplit : (snippet.written depth).splitOn '\n' =
      snippet.lines.map fun line => line.written depth := by
    refine List.splitOn_intercalate '\n' ?_ (by simpa using hdedented.nonempty)
    intro text htext
    obtain ⟨line, hline, rfl⟩ := List.mem_map.mp htext
    exact hdedented.not_mem_written depth line hline
  rw [markedLines, hsplit]
  refine List.ext_getElem? fun index => ?_
  cases hline : snippet.lines[index]? with
  | none => simp [hline]
  | some line => simp [hline, hmarked index line hline]

/-- The lines of code have the indent of the depth in common, and no more. -/
theorem commonIndent_written (hcode : ∃ line ∈ snippet.lines, line.IsCode) :
    commonIndent (snippet.lines.map fun line => (line.written depth, line.verbatim)) =
      Text.byteLength (indentation depth).toList := by
  have hblanks : ∀ c ∈ (indentation depth).toList, Text.isBlank c = true :=
    fun c hc => (isMargin_indentation depth c hc).1
  have hmem : ∀ line ∈ snippet.lines, line.IsCode → (line.written depth, false) ∈
      snippet.lines.map fun line => (line.written depth, line.verbatim) := by
    intro line hline hcode
    exact List.mem_map.mpr ⟨line, hline, by rw [hcode.1]⟩
  obtain ⟨line, hline, hcode⟩ := hcode
  apply le_antisymm
  · -- a line of code that stands at the margin has the indent of the depth
    obtain ⟨other, hother, hotherCode, hflush⟩ := hdedented.flush line hline hcode
    calc commonIndent _ ≤ indentOf (other.written depth) :=
          commonIndent_le (hmem other hother hotherCode)
            (hdedented.allBlank_written depth hother hotherCode)
      _ = Text.byteLength (indentation depth).toList := by
        rw [hotherCode.written_eq, indentOf_append hblanks, hflush, Nat.add_zero]
  · -- the line with the least indent is code, and every line of code has that of the depth
    obtain ⟨text, hleast, hleastBlank, hindent⟩ := exists_indentOf_eq (hmem line hline hcode)
      (hdedented.allBlank_written depth hline hcode)
    obtain ⟨least, hin, heq⟩ := List.mem_map.mp hleast
    obtain ⟨rfl, hverbatim⟩ := Prod.mk.inj heq
    have hleastCode : least.IsCode := by
      by_contra hnot
      have hempty : least.text = "" := by
        by_contra hne
        exact hnot ⟨hverbatim, hne⟩
      rw [SnippetLine.written_of_not_isCode hnot, hempty] at hleastBlank
      simp [Text.allBlank] at hleastBlank
    rw [← hindent, hleastCode.written_eq, indentOf_append hblanks]
    exact Nat.le_add_right _ _

/-- **Cutting what is written gives the snippet back.** -/
theorem snippetOf_written {first : Nat} {literalLines : List Nat}
    (hmarked : snippet.MarkedBy first literalLines) :
    snippetOf (snippet.written depth) first literalLines = .ok snippet := by
  rw [snippetOf_eq_ok_iff, hdedented.markedLines_written depth hmarked,
    List.forall₂_map_left_iff, List.forall₂_same]
  intro line hline
  by_cases hcode : line.IsCode
  · simp only [dedentLine, hdedented.commonIndent_written depth ⟨line, hline, hcode⟩, hcode.1,
      hdedented.allBlank_written depth hline hcode, Bool.false_eq_true, if_false]
    rw [hcode.written_eq, Text.afterBytes?_append]
    simp only [hdedented.trimmed line hline hcode, String.ofList_toList, ← hcode.1]
  · rw [SnippetLine.written_of_not_isCode hcode]
    obtain ⟨text, verbatim⟩ := line
    cases verbatim with
    | true => simp [dedentLine]
    | false =>
        obtain rfl : text = "" := by
          by_contra hne
          exact hcode ⟨rfl, hne⟩
        simp [dedentLine, Text.allBlank]

end Snippet.Dedented

end PersistLayer.Syntax
