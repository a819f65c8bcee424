import PersistLayer.Proofs.Sql.Statements
import PersistLayer.Sql.Drop

/-!
# What drops something, before and after splitting

Comments are dealt with twice.  The splitter takes them out wherever they stand, and the test
for the keyword passes over those in front of it in a text that may hold comments still.  On
the parts of a script both do the same: the test passes over the blanks and comments that the
row begins with (`skipComments_written`), and these are what splitting leaves out or trims.

The keyword itself is the longest run of word characters (`beginsWithDrop_iff`), and no comment
that is taken out of the script, nor what is left in its place, goes on with a word.  So a
script without separators drops something exactly when its statement does (`drops_agree`).
-/

namespace PersistLayer.Sql

/-! ## Passing over comments -/

theorem skipComments_eq (text : List Char) : skipComments text =
    match Text.trimStart text with
    | '-' :: '-' :: rest => skipComments (behindLine rest)
    | '/' :: '*' :: rest => skipComments (behindPair '*' '/' rest)
    | code => code := by
  rw [skipComments]
  split
  case h_1 rest htrim => simp only [htrim]
  case h_2 rest htrim => simp only [htrim]
  case h_3 hline hblock =>
    split
    · exact absurd ‹_› (hline _)
    · exact absurd ‹_› (hblock _)
    · rfl

theorem skipComments_blank {c : Char} (hc : Text.isBlank c = true) (rest : List Char) :
    skipComments (c :: rest) = skipComments rest := by
  have htrim : Text.trimStart (c :: rest) = Text.trimStart rest := List.dropWhile_cons_of_pos hc
  rw [skipComments_eq, htrim, ← skipComments_eq]

/-- The text begins with a comment. -/
def BeginsComment (text : List Char) : Prop := ['-', '-'] <+: text ∨ ['/', '*'] <+: text

theorem skipComments_eq_self {text : List Char} (hblank : ∀ c ∈ text.head?, Text.isBlank c = false)
    (hcomment : ¬ BeginsComment text) : skipComments text = text := by
  rw [skipComments_eq, Text.trimStart_eq_self hblank]
  split
  · exact absurd (.inl (by simp)) hcomment
  · exact absurd (.inr (by simp)) hcomment
  · rfl

theorem behindLine_append {body rest : List Char} (hbody : '\n' ∉ body) :
    behindLine (body ++ '\n' :: rest) = rest := by
  have hgoes : ∀ c ∈ body, (c ≠ '\n' : Bool) = true := by
    intro c hc
    simpa using ne_of_mem_of_not_mem hc hbody
  rw [behindLine, List.dropWhile_append_of_pos hgoes, List.dropWhile_cons_of_neg (by simp)]
  rfl

theorem behindLine_of_not_mem {body : List Char} (hbody : '\n' ∉ body) : behindLine body = [] := by
  have hgoes : ∀ c ∈ body, (c ≠ '\n' : Bool) = true := by
    intro c hc
    simpa using ne_of_mem_of_not_mem hc hbody
  rw [behindLine, List.dropWhile_eq_nil_iff.mpr hgoes, List.drop_nil]

theorem behindPair_cons (first second c : Char) (rest : List Char) :
    behindPair first second (c :: rest) =
      if c = first ∧ rest.head? = some second then rest.tail else behindPair first second rest := by
  cases rest <;> simp [behindPair]

theorem behindPair_append {body : List Char} (hbody : ¬ ['*', '/'] <:+: body) :
    behindPair '*' '/' body = [] ∧
      ∀ rest, behindPair '*' '/' (body ++ '*' :: '/' :: rest) = rest := by
  induction body with
  | nil => exact ⟨rfl, fun rest => rfl⟩
  | cons c body ih =>
      rw [List.infix_cons_iff, not_or] at hbody
      obtain ⟨hnone, hbehind⟩ := ih hbody.2
      have hgoes (tail : List Char) (htail : tail.head? ≠ some '/') :
          ¬ (c = '*' ∧ (body ++ tail).head? = some '/') := by
        rintro ⟨rfl, hslash⟩
        cases body with
        | nil => exact htail hslash
        | cons d others =>
            obtain rfl : d = '/' := by simpa using hslash
            exact hbody.1 ⟨others, rfl⟩
      constructor
      · rw [behindPair_cons, if_neg (by simpa using hgoes [] (by simp)), hnone]
      · intro rest
        rw [List.cons_append, behindPair_cons, if_neg (hgoes _ (by simp)), hbehind]

/-- A text begins with a comment only where its first part is one. -/
theorem isGap_of_beginsComment {part : Part} {rest : List Part}
    (hfits : part.Fits (written rest).head?) (hcomment : BeginsComment (written (part :: rest))) :
    part.isGap = true ∧ part.isSolid = false := by
  have hkind : part.kind = .lineComment ∨ part.kind = .blockComment := by
    rcases hcomment with ⟨tail, htail⟩ | ⟨tail, htail⟩
    · exact .inl (Part.kind_eq hfits htail.symm)
    · exact .inr (Part.kind_eq hfits htail.symm)
  cases part with
  | lineComment body => exact ⟨rfl, rfl⟩
  | blockComment body closed => exact ⟨rfl, rfl⟩
  | _ => simp [Part.kind] at hkind

/-- **No statement begins with a comment.** -/
theorem not_beginsComment_of_mem {script statement : List Char}
    (hmem : statement ∈ splitStatements script) : ¬ BeginsComment statement := by
  obtain ⟨parts, ⟨hfit, rfl⟩, hsolid⟩ := exists_reading_of_mem hmem
  cases parts with
  | nil => exact absurd rfl (of_mem_splitStatements hmem).1
  | cons part rest =>
      intro hcomment
      have hfits := hfit.1
      rw [Option.or_none] at hfits
      have hother := (isGap_of_beginsComment hfits hcomment).2
      rw [hsolid part List.mem_cons_self] at hother
      cases hother

/-- Nothing is passed over in a row that begins with no gap. -/
theorem skipComments_solid {part : Part} {rest : List Part} (hfits : part.Fits (written rest).head?)
    (hgap : part.isGap = false) :
    skipComments (written (part :: rest)) = written (part :: rest) := by
  apply skipComments_eq_self
  · rw [written_cons]
    exact Part.isBlank_head hfits hgap (written rest)
  · intro hcomment
    have hother := (isGap_of_beginsComment hfits hcomment).1
    rw [hgap] at hother
    cases hother

/-- **The test passes over the blanks and comments in front.** -/
theorem skipComments_written {parts : List Part} (hfit : AllFit none parts) :
    skipComments (written parts) = written (parts.dropWhile Part.isGap) := by
  induction parts with
  | nil => rw [written_nil, skipComments_eq]; rfl
  | cons part rest ih =>
      obtain ⟨hpart, hrest⟩ := hfit
      rw [Option.or_none] at hpart
      by_cases hgap : part.isGap = true
      · rw [List.dropWhile_cons_of_pos hgap, ← ih hrest, written_cons]
        cases part with
        | code c => exact skipComments_blank hgap _
        | separator => cases hgap
        | literal quote body closed => cases hgap
        | lineComment body =>
            obtain ⟨hbody, hnext⟩ := hpart
            have hline (text : List Char) : skipComments ('-' :: '-' :: text) =
                skipComments (behindLine text) := skipComments_eq _
            rw [Part.written, List.cons_append, List.cons_append, hline]
            -- the comment runs to the end of the script or to a line break, which is a blank
            cases htext : written rest with
            | nil => rw [List.append_nil, behindLine_of_not_mem hbody]
            | cons c text =>
                obtain rfl : c = '\n' := hnext c (by rw [htext]; rfl)
                rw [behindLine_append hbody, skipComments_blank (by decide)]
        | blockComment body closed =>
            obtain ⟨hbody, hopen⟩ := hpart
            obtain ⟨hnone, hbehind⟩ := behindPair_append hbody
            have hblock (text : List Char) : skipComments ('/' :: '*' :: text) =
                skipComments (behindPair '*' '/' text) := skipComments_eq _
            cases closed with
            | true => simp [Part.written, hblock, hbehind]
            | false =>
                -- nothing stands behind a comment that nothing ends
                simp [Part.written, hblock, hnone, List.head?_eq_none_iff.mp (hopen rfl)]
      · rw [List.dropWhile_cons_of_neg (by simpa using hgap)]
        exact skipComments_solid hpart (by simpa using hgap)

/-! ## The first word -/

theorem isWordChar_of_toUpper {c d : Char} (hc : c.toUpper = d) (hd : isWordChar d = true) :
    isWordChar c = true := by
  by_cases hlower : 'a'.val ≤ c.val ∧ c.val ≤ 'z'.val
  · have hletter : c.isLower = true :=
      Bool.and_eq_true_iff.mpr ⟨decide_eq_true hlower.1, decide_eq_true hlower.2⟩
    have halpha : c.isAlpha = true := Bool.or_eq_true_iff.mpr (.inr hletter)
    simp [isWordChar, Char.isAlphanum, halpha]
  · have hsame : c.toUpper = c := dif_neg hlower
    rwa [← hsame, hc]

/-- The keyword, in upper-case letters. -/
def dropKeyword : List Char := ['D', 'R', 'O', 'P']

/-- The first word is the longest run of word characters. -/
theorem beginsWithDrop_iff (text : List Char) :
    beginsWithDrop text = true ↔ (text.takeWhile isWordChar).map Char.toUpper = dropKeyword := by
  have hword (d r o p : Char) (hupper : [d, r, o, p].map Char.toUpper = dropKeyword) :
      ∀ c ∈ [d, r, o, p], isWordChar c = true := by
    simp only [dropKeyword, List.map_cons, List.map_nil, List.cons.injEq] at hupper
    obtain ⟨hd, hr, ho, hp, -⟩ := hupper
    simp only [List.forall_mem_cons]
    exact ⟨isWordChar_of_toUpper hd (by decide), isWordChar_of_toUpper hr (by decide),
      isWordChar_of_toUpper ho (by decide), isWordChar_of_toUpper hp (by decide), by simp⟩
  constructor
  · -- the four letters are a run of word characters, and it ends behind them
    intro hdrop
    match text with
    | d :: r :: o :: p :: rest =>
        simp only [beginsWithDrop, Bool.and_eq_true, beq_iff_eq] at hdrop
        obtain ⟨hupper, hnext⟩ := hdrop
        have hstop : rest.takeWhile isWordChar = [] := by
          cases rest <;> simp_all
        have hsplit : (d :: r :: o :: p :: rest) = [d, r, o, p] ++ rest := rfl
        rw [hsplit, List.takeWhile_append_of_pos (hword d r o p hupper), hstop, List.append_nil]
        exact hupper
    | [] => cases hdrop
    | [_] => cases hdrop
    | [_, _] => cases hdrop
    | [_, _, _] => cases hdrop
  · -- a run that spells the keyword has four letters
    intro hupper
    have hlength : (text.takeWhile isWordChar).length = 4 := by
      rw [← List.length_map (f := Char.toUpper), hupper]
      rfl
    obtain ⟨d, r, o, p, hchars⟩ : ∃ d r o p, text.takeWhile isWordChar = [d, r, o, p] := by
      match text.takeWhile isWordChar, hlength with
      | [d, r, o, p], _ => exact ⟨d, r, o, p, rfl⟩
    have htext := List.takeWhile_append_dropWhile (p := isWordChar) (l := text)
    have hstop := List.head?_dropWhile_not isWordChar text
    rw [hchars] at hupper htext
    rw [← htext]
    simp only [List.cons_append, List.nil_append, beginsWithDrop, Bool.and_eq_true, beq_iff_eq]
    refine ⟨hupper, ?_⟩
    cases hhead : (text.dropWhile isWordChar).head? with
    | none => rfl
    | some c =>
        rw [hhead] at hstop
        simpa using hstop

theorem isWordChar_of_isBlank {c : Char} (hc : Text.isBlank c = true) : isWordChar c = false := by
  by_contra hword
  have hblank := Text.isBlank_eq_false_of_class isWordChar (by decide) (c := c) (by simpa using hword)
  rw [hc] at hblank
  cases hblank

theorem isWordChar_of_isQuote {c : Char} (hc : isQuote c = true) : isWordChar c = false := by
  rw [isQuote, Bool.or_eq_true, beq_iff_eq, beq_iff_eq] at hc
  rcases hc with rfl | rfl <;> decide

/-- Trimming the end of a text does not change its first word. -/
theorem takeWhile_trimEnd (text : List Char) :
    (Text.trimEnd text).takeWhile isWordChar = text.takeWhile isWordChar := by
  obtain ⟨lead, core, trail, htext, htrim, -, htrail, -⟩ := Text.exists_trimEnd_eq text
  have hstop : trail.takeWhile isWordChar = [] := by
    cases trail with
    | nil => rfl
    | cons c rest =>
        have hc := isWordChar_of_isBlank (htrail c List.mem_cons_self)
        exact List.takeWhile_cons_of_neg (by simp [hc])
  rw [htrim, htext]
  generalize lead ++ core = front
  rw [List.takeWhile_append, hstop, List.append_nil]
  split_ifs with hall
  · rw [(List.takeWhile_prefix isWordChar).eq_of_length hall]
  · rfl

/-- What is left of a row has the same first word: a comment ends a word in the script, and
a blank or the end of the text does so in what is left. -/
theorem takeWhile_cleaned {parts : List Part} (hfit : AllFit none parts) :
    (written (cleaned parts)).takeWhile isWordChar = (written parts).takeWhile isWordChar := by
  induction parts with
  | nil => rfl
  | cons part rest ih =>
      obtain ⟨hpart, hrest⟩ := hfit
      rw [Option.or_none] at hpart
      rw [cleaned_cons, written_append, written_cons]
      cases part with
      | code c =>
          by_cases hc : isWordChar c = true
          · simp [Part.cleaned, Part.written, hc, ih hrest]
          · simp [Part.cleaned, Part.written, hc]
      | separator => simp [Part.cleaned, Part.written, isWordChar]
      | literal quote body closed =>
          simp [Part.cleaned, Part.written, isWordChar_of_isQuote hpart.1]
      | lineComment body =>
          -- nothing of the comment is left, and the line break behind it ends the word
          have hnext : (written (cleaned rest)).takeWhile isWordChar = [] := by
            rw [ih hrest]
            cases htext : written rest with
            | nil => rfl
            | cons c text =>
                obtain rfl : c = '\n' := hpart.2 c (by rw [htext]; rfl)
                rfl
          simp [Part.cleaned, Part.written, hnext, isWordChar]
      | blockComment body closed => simp [Part.cleaned, Part.written, isWordChar]

/-- What is left of a row begins behind the gaps, but for blanks. -/
theorem trimStart_cleaned {parts : List Part} (hfit : AllFit none parts) :
    Text.trimStart (written (cleaned parts)) = written (cleaned (parts.dropWhile Part.isGap)) := by
  induction parts with
  | nil => rfl
  | cons part rest ih =>
      obtain ⟨hpart, hrest⟩ := hfit
      by_cases hgap : part.isGap = true
      · rw [List.dropWhile_cons_of_pos hgap, ← ih hrest, cleaned_cons, written_append]
        cases part with
        | code c => exact List.dropWhile_cons_of_pos hgap
        | separator => cases hgap
        | literal quote body closed => cases hgap
        | lineComment body => rfl
        | blockComment body closed => exact List.dropWhile_cons_of_pos rfl
      · have hkept : part.cleaned = [part] := by
          cases part <;> simp_all [Part.isGap, Part.cleaned]
        rw [List.dropWhile_cons_of_neg hgap, cleaned_cons, hkept, List.singleton_append,
          written_cons]
        exact Text.trimStart_eq_self (Part.isBlank_head hpart (by simpa using hgap) _)

/-! ## The two treatments -/

/-- The first word behind the gaps, in upper-case letters. -/
def keyword (parts : List Part) : List Char :=
  ((written (parts.dropWhile Part.isGap)).takeWhile isWordChar).map Char.toUpper

theorem isDrop_iff {parts : List Part} (hfit : AllFit none parts) :
    isDrop (written parts) = true ↔ keyword parts = dropKeyword := by
  rw [isDrop, skipComments_written hfit, beginsWithDrop_iff, keyword]

/-- A row and what is left of it in a statement begin with the same word. -/
theorem isDrop_row {parts : List Part} (hfit : AllFit none parts) :
    isDrop (written parts) = beginsWithDrop (Text.trim (written (cleaned parts))) := by
  have hbehind : AllFit none (parts.dropWhile Part.isGap) := by
    rw [← List.takeWhile_append_dropWhile (p := Part.isGap) (l := parts), allFit_append] at hfit
    exact hfit.2
  have hword : (Text.trim (written (cleaned parts))).takeWhile isWordChar =
      (written (parts.dropWhile Part.isGap)).takeWhile isWordChar := by
    rw [Text.trim, takeWhile_trimEnd, trimStart_cleaned hfit, takeWhile_cleaned hbehind]
  rw [Bool.eq_iff_iff, isDrop_iff hfit, beginsWithDrop_iff, hword, keyword]

/-- **The two ways to deal with comments agree.**  A script drops something when its first
word behind blanks and comments is the keyword.  A script without separators has no
statement, and drops nothing, or it has one statement, which drops something exactly when
the script does.  No statement of any script begins with a comment. -/
theorem drops_agree (script : List Char) :
    (∀ parts, Reads script parts →
      (isDrop script = true ↔ keyword parts = dropKeyword) ∧
      (.separator ∉ parts →
        (splitStatements script = [] ∧ isDrop script = false) ∨
        ∃ statement, splitStatements script = [statement] ∧
          isDrop statement = isDrop script)) ∧
    ∀ statement ∈ splitStatements script, ¬ BeginsComment statement := by
  refine ⟨?_, fun statement hmem => not_beginsComment_of_mem hmem⟩
  rintro parts ⟨hfit, rfl⟩
  refine ⟨isDrop_iff hfit, ?_⟩
  intro hcut
  have hrow := splitStatements_row hfit hcut
  have hdrop := isDrop_row hfit
  by_cases hempty : Text.trim (written (cleaned parts)) = []
  · -- blanks and comments only: no statement, and no first word
    left
    rw [hempty] at hrow hdrop
    exact ⟨hrow, hdrop⟩
  · -- one statement, in front of which there is nothing to skip
    right
    rw [List.filter_cons_of_pos (by simpa using hempty), List.filter_nil] at hrow
    refine ⟨_, hrow, ?_⟩
    have hcomment := not_beginsComment_of_mem (hrow ▸ List.mem_singleton_self _)
    rw [hdrop, isDrop, skipComments_eq_self (fun c hc => Text.isBlank_head_trim hc) hcomment]

/-- Comments in front of the keyword and right behind it. -/
theorem drops_agree_of_comments :
    isDrop "/* ; */-- x\nDrop/**/t".toList = true ∧
      ∃ statement, splitStatements "/* ; */-- x\nDrop/**/t".toList = [statement] ∧
        isDrop statement = isDrop "/* ; */-- x\nDrop/**/t".toList := by
  have hreads : Reads "/* ; */-- x\nDrop/**/t".toList [.blockComment " ; ".toList true,
      .lineComment " x".toList, .code '\n', .code 'D', .code 'r', .code 'o', .code 'p',
      .blockComment [] true, .code 't'] := by
    decide +kernel
  have hsome : splitStatements "/* ; */-- x\nDrop/**/t".toList ≠ [] := by decide +kernel
  obtain ⟨hdrop, hagree⟩ := (drops_agree _).1 _ hreads
  refine ⟨hdrop.mpr (by decide +kernel), ?_⟩
  exact (hagree (by decide +kernel)).resolve_left fun hnone => hsome hnone.1

end PersistLayer.Sql
