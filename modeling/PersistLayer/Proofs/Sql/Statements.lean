import Mathlib.Data.List.Forall2
import PersistLayer.Proofs.Sql.Parts
import PersistLayer.Proofs.Text.Blank

/-!
# The statements of a script

The separators cut the parts of a script into rows, and each row gives one statement: its
literals and its code, with a blank for some of its comments, and without the blanks at its
ends.  Between the ends of a row nothing comes together that did not stand together in the
script, so the statement has the very parts that were kept (`exists_readings`): it holds no
comment, and its literals are those of the row.

Two things follow.  The literals of a script, and its other characters that are not blank,
are those of its statements, in the same order (`splitStatements_keeps_code`).  And a statement is
what comes of splitting it once more; as nothing is open at the end of a statement that
another one follows, the statements can be put together again (`splitStatements_is_stable`).

A text is settled when nothing is open at its end, which is to say that the splitter is in no
literal and in no comment there (`isSettled_iff_isOutside`).
-/

namespace PersistLayer.Sql

/-! ## Rows without separators -/

/-- What is left of a part in a statement. -/
def Part.cleaned : Part → List Part
  | code c => [.code c]
  | separator => [.separator]
  | literal quote body closed => [.literal quote body closed]
  | lineComment _ => []
  | blockComment _ _ => [.code ' ']

/-- What is left of several parts. -/
def cleaned (parts : List Part) : List Part := parts.flatMap Part.cleaned

/-- A part that a statement can have. -/
def Part.isSolid : Part → Bool
  | code _ => true
  | literal .. => true
  | _ => false

/-- A closed literal, as it is written. -/
def Part.literal? : Part → Option (List Char)
  | literal quote body true => some (Part.written (.literal quote body true))
  | _ => none

/-- The closed literals among some parts. -/
def literals (parts : List Part) : List (List Char) := parts.filterMap Part.literal?

@[simp] theorem cleaned_cons (part : Part) (rest : List Part) :
    cleaned (part :: rest) = part.cleaned ++ cleaned rest := List.flatMap_cons

theorem literals_append (front back : List Part) :
    literals (front ++ back) = literals front ++ literals back := List.filterMap_append

theorem literals_cleaned (parts : List Part) : literals (cleaned parts) = literals parts := by
  induction parts with
  | nil => rfl
  | cons part rest ih =>
      rw [cleaned_cons, literals_append, ih, ← List.singleton_append (l := rest), literals_append]
      cases part <;> rfl

theorem isSolid_of_mem_cleaned {parts : List Part} (hcut : .separator ∉ parts) :
    ∀ part ∈ cleaned parts, part.isSolid = true := by
  intro part hpart
  obtain ⟨source, hsource, hmem⟩ := List.mem_flatMap.mp hpart
  have hne : source ≠ .separator := fun h => hcut (h ▸ hsource)
  cases source <;> simp_all [Part.cleaned, Part.isSolid]

/-! ### Parts and the character behind them -/

/-- Without the character behind it a part fits, too. -/
theorem Part.Fits.atEnd {part : Part} {next : Option Char} (hfits : part.Fits next) :
    part.Fits none := by
  cases part <;> simp_all [Fits]

/-- What stands behind several parts has to fit the last one only. -/
theorem AllFit.imp {parts : List Part} {next other : Option Char} (hfit : AllFit next parts)
    (himp : ∀ part ∈ parts, part.Fits next → part.Fits other) : AllFit other parts := by
  induction parts with
  | nil => trivial
  | cons part rest ih =>
      obtain ⟨hpart, hrest⟩ := hfit
      rw [List.forall_mem_cons] at himp
      refine ⟨?_, ih hrest himp.2⟩
      cases hhead : (written rest).head? with
      | none =>
          rw [hhead] at hpart
          exact himp.1 hpart
      | some c => rwa [hhead] at hpart

theorem AllFit.atEnd {parts : List Part} {next : Option Char} (hfit : AllFit next parts) :
    AllFit none parts :=
  hfit.imp fun _ _ hpart => hpart.atEnd

/-- The script ends outside literals and comments. -/
def IsSettled (script : List Char) : Prop :=
  ∃ parts, Reads script parts ∧ ∀ last ∈ parts.getLast?, last.isClosed = true

theorem Part.fits_semicolon_iff {part : Part} (hfits : part.Fits none) :
    part.Fits (some ';') ↔ part.isClosed = true := by
  cases part <;> simp_all [Fits, isClosed]

theorem isSettled_iff_getLast {script : List Char} {parts : List Part}
    (hreads : Reads script parts) :
    IsSettled script ↔ ∀ last ∈ parts.getLast?, last.isClosed = true := by
  constructor
  · rintro ⟨others, hothers, hlast⟩
    rwa [hreads.unique hothers]
  · exact fun hlast => ⟨parts, hreads, hlast⟩

/-- Where nothing is open, a separator can follow. -/
theorem isSettled_iff {script : List Char} {parts : List Part} (hreads : Reads script parts) :
    IsSettled script ↔ AllFit (some ';') parts := by
  rw [isSettled_iff_getLast hreads]
  have hfit := hreads.1
  rcases List.eq_nil_or_concat parts with rfl | ⟨front, last, rfl⟩
  · simp [AllFit]
  rw [List.concat_eq_append, allFit_append, allFit_singleton] at hfit
  rw [List.concat_eq_append, List.getLast?_concat, allFit_append, allFit_singleton,
    Part.fits_semicolon_iff hfit.2]
  have hsome (next : Option Char) :
      (written [last]).head?.or next = (written [last]).head? := by
    obtain ⟨c, text, htext⟩ := List.exists_cons_of_ne_nil last.written_ne_nil
    simp [htext]
  rw [hsome] at hfit ⊢
  simp only [Option.mem_some_iff, forall_eq']
  exact (and_iff_right hfit.1).symm

/-! ### What the splitter is in the middle of -/

/-- **A script is settled when the splitter is in no literal and in no comment behind it.** -/
theorem isSettled_iff_isOutside (script : List Char) :
    IsSettled script ↔ (Mode.plain.behind script).isOutside = true := by
  obtain ⟨parts, hfit, rfl⟩ := exists_reads script
  rw [isSettled_iff_getLast ⟨hfit, rfl⟩]
  induction parts with
  | nil => simp [Mode.behind, Mode.isOutside]
  | cons part rest ih =>
      obtain ⟨hpart, hrest⟩ := hfit
      rw [Option.or_none] at hpart
      rw [written_cons, isOutside_part hpart]
      cases rest with
      | nil => simp
      | cons next others =>
          have hne : written (next :: others) ≠ [] := by
            rw [written_cons]
            exact List.append_ne_nil_of_left_ne_nil next.written_ne_nil _
          rw [if_neg hne, List.getLast?_cons_cons]
          exact ih hrest

instance (script : List Char) : Decidable (IsSettled script) :=
  decidable_of_iff _ (isSettled_iff_isOutside script).symm

/-! ### A row and its statement -/

/-- A character that stands behind some parts when they are cleaned stood there before, or
it is blank. -/
theorem behind_cleaned {next : Option Char} {parts : List Part} (hfit : AllFit next parts) :
    (∀ c ∈ (written (cleaned parts)).head?.or next,
      (written parts).head?.or next = some c ∨ Text.isBlank c = true) ∧
    ((written parts).head?.or next = none → (written (cleaned parts)).head?.or next = none) := by
  induction parts with
  | nil => exact ⟨fun c hc => .inl hc, id⟩
  | cons part rest ih =>
      obtain ⟨hpart, hrest⟩ := hfit
      cases part with
      | code d => exact ⟨fun c hc => .inl hc, id⟩
      | separator => exact ⟨fun c hc => .inl hc, id⟩
      | literal quote body closed => exact ⟨fun c hc => .inl hc, id⟩
      | blockComment body closed =>
          refine ⟨fun c hc => .inr ?_, by simp [Part.written]⟩
          obtain rfl : ' ' = c := by simpa [Part.cleaned, Part.written] using hc
          decide
      | lineComment body =>
          -- at the end of the line there is nothing or a line feed
          refine ⟨fun c hc => .inr ?_, by simp [Part.written]⟩
          rcases (ih hrest).1 c hc with hsame | hblank
          · obtain rfl : c = '\n' := hpart.2 c hsame
            decide
          · exact hblank

theorem Part.Fits.blank {part : Part} {next other : Option Char} (hfits : part.Fits next)
    (hsolid : part.isSolid = true) (hother : ∀ c ∈ other, next = some c ∨ Text.isBlank c = true)
    (hnone : next = none → other = none) : part.Fits other := by
  have hne {d : Char} (hd : Text.isBlank d = false) (hnext : next ≠ some d) :
      other ≠ some d := by
    intro hsome
    rcases hother d hsome with hsame | hblank
    · exact hnext hsame
    · rw [hd] at hblank
      cases hblank
  cases part with
  | code c =>
      obtain ⟨hquote, hsemicolon, hdash, hslash⟩ := hfits
      exact ⟨hquote, hsemicolon, fun h => hne (by decide) (hdash h),
        fun h => hne (by decide) (hslash h)⟩
  | literal quote body closed =>
      obtain ⟨hquote, hbody, hopen⟩ := hfits
      exact ⟨hquote, hbody, fun h => hnone (hopen h)⟩
  | separator => cases hsolid
  | lineComment body => cases hsolid
  | blockComment body closed => cases hsolid

/-- **What is left of the parts stands together as it is.** -/
theorem allFit_cleaned {next : Option Char} {parts : List Part} (hcut : .separator ∉ parts)
    (hfit : AllFit next parts) : AllFit next (cleaned parts) := by
  induction parts with
  | nil => trivial
  | cons part rest ih =>
      obtain ⟨hpart, hrest⟩ := hfit
      rw [List.mem_cons, not_or] at hcut
      obtain ⟨hother, hnone⟩ := behind_cleaned hrest
      rw [cleaned_cons, allFit_append]
      refine ⟨?_, ih hcut.2 hrest⟩
      cases part with
      | code c => exact allFit_singleton.mpr (hpart.blank rfl hother hnone)
      | separator => exact absurd rfl hcut.1
      | literal quote body closed => exact allFit_singleton.mpr (hpart.blank rfl hother hnone)
      | lineComment body => trivial
      | blockComment body closed => exact allFit_singleton.mpr (by simp [Part.Fits, isQuote])

theorem isBlank_of_isQuote {c : Char} (hc : isQuote c = true) : Text.isBlank c = false := by
  rw [isQuote, Bool.or_eq_true, beq_iff_eq, beq_iff_eq] at hc
  rcases hc with rfl | rfl <;> decide

/-- A part that stands in front of the first word: a blank or a comment. -/
def Part.isGap : Part → Bool
  | code c => Text.isBlank c
  | lineComment _ => true
  | blockComment _ _ => true
  | _ => false

/-- A row that begins with no gap begins with no blank. -/
theorem Part.isBlank_head {part : Part} {next : Option Char} (hfits : part.Fits next)
    (hgap : part.isGap = false) (text : List Char) :
    ∀ c ∈ (part.written ++ text).head?, Text.isBlank c = false := by
  intro c hc
  cases part with
  | code d =>
      obtain rfl : d = c := by simpa [written] using hc
      exact hgap
  | separator =>
      obtain rfl : ';' = c := by simpa [written] using hc
      decide
  | literal quote body closed =>
      obtain rfl : quote = c := by simpa [written] using hc
      exact isBlank_of_isQuote hfits.1
  | lineComment body => cases hgap
  | blockComment body closed => cases hgap

/-- Blanks at the beginning of a row are parts of their own. -/
theorem exists_trimStart {parts : List Part} {next : Option Char} (hfit : AllFit next parts)
    (hsolid : ∀ part ∈ parts, part.isSolid = true) :
    ∃ kept, kept <:+ parts ∧ written kept = Text.trimStart (written parts) ∧
      literals kept = literals parts := by
  induction parts with
  | nil => exact ⟨[], List.suffix_rfl, rfl, rfl⟩
  | cons part rest ih =>
      rw [List.forall_mem_cons] at hsolid
      by_cases hgap : part.isGap = true
      · obtain ⟨c, rfl⟩ : ∃ c, part = .code c := by
          cases part <;> simp_all [Part.isGap, Part.isSolid]
        have hblank : Text.isBlank c = true := hgap
        obtain ⟨kept, hkept, htext, hliterals⟩ := ih hfit.2 hsolid.2
        refine ⟨kept, hkept.trans (List.suffix_cons _ _), ?_, by rw [hliterals]; rfl⟩
        calc written kept = Text.trimStart (written rest) := htext
          _ = Text.trimStart (c :: written rest) := (List.dropWhile_cons_of_pos hblank).symm
          _ = Text.trimStart (written (.code c :: rest)) := by rw [written_cons]; rfl
      · -- what is no gap begins with a character that is no blank
        refine ⟨part :: rest, List.suffix_rfl, (Text.trimStart_eq_self ?_).symm, rfl⟩
        rw [written_cons]
        exact Part.isBlank_head hfit.1 (by simpa using hgap) (written rest)

/-- A part of a statement that something stands behind fits the end of the statement. -/
theorem Part.Fits.last {part : Part} {next : Option Char} {c : Char} (hfits : part.Fits (some c))
    (hsolid : part.isSolid = true) (hnext : ∀ d ∈ next, d = ';') : part.Fits next := by
  have hne {d : Char} (hd : d ≠ ';') : next ≠ some d := fun hsome => hd (hnext d hsome)
  cases part with
  | code d => exact ⟨hfits.1, hfits.2.1, fun _ => hne (by decide), fun _ => hne (by decide)⟩
  | literal quote body closed => exact ⟨hfits.1, hfits.2.1, fun h => by cases hfits.2.2 h⟩
  | separator => cases hsolid
  | lineComment body => cases hsolid
  | blockComment body closed => cases hsolid

/-- Blanks at the end of a row are parts of their own, or they stand in a literal that
nothing ends. -/
theorem exists_trimEnd {parts : List Part} {next : Option Char} (hnext : ∀ d ∈ next, d = ';')
    (hfit : AllFit next parts) (hsolid : ∀ part ∈ parts, part.isSolid = true) :
    ∃ kept, AllFit next kept ∧ written kept = Text.trimEnd (written parts) ∧
      (∀ part ∈ kept, part.isSolid = true) ∧ literals kept = literals parts := by
  induction parts using List.reverseRecOn with
  | nil => exact ⟨[], trivial, rfl, by simp, rfl⟩
  | append_singleton front last ih =>
      obtain ⟨hfront, hlast⟩ := allFit_append.mp hfit
      rw [allFit_singleton] at hlast
      rw [List.forall_mem_append, List.forall_mem_singleton] at hsolid
      -- nothing is lost where trimming leaves the text as it is
      have hkeep (htrim : Text.trimEnd (written (front ++ [last])) = written (front ++ [last])) :
          ∃ kept, AllFit next kept ∧ written kept = Text.trimEnd (written (front ++ [last])) ∧
            (∀ part ∈ kept, part.isSolid = true) ∧ literals kept = literals (front ++ [last]) := by
        refine ⟨front ++ [last], hfit, htrim.symm, ?_, rfl⟩
        rwa [List.forall_mem_append, List.forall_mem_singleton]
      cases last with
      | code c =>
          by_cases hc : Text.isBlank c = true
          · -- the blank goes, and what stood in front of it stands in front of `next` now
            have hbefore : AllFit next front := by
              apply AllFit.imp hfront
              intro part hmem hpart
              exact hpart.last (hsolid.1 part hmem) hnext
            obtain ⟨kept, hkept, htext, hall, hliterals⟩ := ih hbefore hsolid.1
            refine ⟨kept, hkept, ?_, hall, ?_⟩
            · rw [htext, written_append]
              exact (Text.trimEnd_concat hc _).symm
            · rw [hliterals, literals_append]
              exact (List.append_nil _).symm
          · apply hkeep
            rw [written_append]
            exact Text.trimEnd_append (by simpa using hc) (written front) []
      | literal quote body closed =>
          have hquote := isBlank_of_isQuote hlast.1
          cases closed with
          | true =>
              apply hkeep
              have htext : written (front ++ [.literal quote body true]) =
                  (written front ++ quote :: body) ++ [quote] := by
                simp [written_append, Part.written]
              rw [htext]
              exact Text.trimEnd_append hquote _ []
          | false =>
              -- a literal that nothing ends takes the blanks at the end as its own
              refine ⟨front ++ [.literal quote (Text.trimEnd body) false], ?_, ?_, ?_, ?_⟩
              · refine allFit_append.mpr ⟨hfront, allFit_singleton.mpr ⟨hlast.1, ?_, hlast.2.2⟩⟩
                exact fun hmem => hlast.2.1 ((Text.trimEnd_prefix body).subset hmem)
              · simp only [written_append, written_cons, Part.written, written_nil]
                simp [Text.trimEnd_append hquote]
              · rw [List.forall_mem_append, List.forall_mem_singleton]
                exact ⟨hsolid.1, rfl⟩
              · rw [literals_append, literals_append]
                rfl
      | separator => exact absurd hsolid.2 (by decide)
      | lineComment body => exact absurd hsolid.2 (by simp [Part.isSolid])
      | blockComment body closed => exact absurd hsolid.2 (by simp [Part.isSolid])

/-- The statement of a row has the parts that are left of it, without blanks at its ends. -/
theorem exists_reading {parts : List Part} {next : Option Char} (hnext : ∀ d ∈ next, d = ';')
    (hcut : .separator ∉ parts) (hfit : AllFit next parts) :
    ∃ kept, AllFit next kept ∧ written kept = Text.trim (written (cleaned parts)) ∧
      (∀ part ∈ kept, part.isSolid = true) ∧ literals kept = literals parts := by
  have hclean := allFit_cleaned hcut hfit
  have hsolid := isSolid_of_mem_cleaned hcut
  obtain ⟨back, ⟨front, hfront⟩, hback, hliterals⟩ := exists_trimStart hclean hsolid
  have hfitBack : AllFit next back := (allFit_append.mp (hfront ▸ hclean)).2
  have hsolidBack : ∀ part ∈ back, part.isSolid = true := by
    intro part hpart
    exact hsolid part (hfront ▸ List.mem_append_right front hpart)
  obtain ⟨kept, hfitKept, htext, hall, hsame⟩ := exists_trimEnd hnext hfitBack hsolidBack
  refine ⟨kept, hfitKept, by rw [htext, hback, Text.trim], hall, ?_⟩
  rw [hsame, hliterals, literals_cleaned]

/-! ## Splitting -/

theorem splitStatements_eq (script : List Char) :
    splitStatements script =
      ((textsOf (Mode.plain.pieces script)).map Text.trim).filter fun text => !text.isEmpty := by
  rw [splitStatements, Mode.piecesOnto_eq, List.reverse_nil, List.nil_append]

theorem textsOf_cut (front back : List Piece) :
    textsOf (front ++ .cut :: back) = textsOf front ++ textsOf back := by
  simp only [textsOf, List.splitOn_eq_splitOnP]
  rw [List.splitOnP_append_cons _ _ (by simp), List.map_append]

theorem textsOf_chars (text : List Char) : textsOf (text.map .char) = [text] := by
  have hchars : text.filterMap (Piece.char? ∘ .char) = text := by
    rw [show Piece.char? ∘ .char = some from rfl, List.filterMap_some]
  rw [textsOf, List.splitOn_eq_singleton (by simp), List.map_singleton, List.filterMap_map, hchars]

/-- A row gives one statement, unless nothing is left of it but blanks. -/
theorem splitStatements_row {parts : List Part} (hfit : AllFit none parts)
    (hcut : .separator ∉ parts) : splitStatements (written parts) =
      [Text.trim (written (cleaned parts))].filter fun text => !text.isEmpty := by
  have hpieces : parts.flatMap Part.pieces = (written (cleaned parts)).map .char := by
    clear hfit
    induction parts with
    | nil => rfl
    | cons part rest ih =>
        rw [List.mem_cons, not_or] at hcut
        rw [List.flatMap_cons, ih hcut.2, cleaned_cons, written_append, List.map_append]
        cases part <;> simp_all [Part.pieces, Part.cleaned, Part.written]
  rw [splitStatements_eq, pieces_written hfit, hpieces, textsOf_chars, List.map_singleton]

/-- The statements on either side of a separator are those of the two texts. -/
theorem splitStatements_cut {front back : List Part}
    (hfit : AllFit none (front ++ .separator :: back)) :
    splitStatements (written (front ++ .separator :: back)) =
      splitStatements (written front) ++ splitStatements (written back) := by
  obtain ⟨hfront, -, hback⟩ := allFit_append.mp hfit
  have hcut : textsOf (Mode.plain.pieces (written (front ++ .separator :: back))) =
      textsOf (Mode.plain.pieces (written front)) ++ textsOf (Mode.plain.pieces (written back)) := by
    calc textsOf (Mode.plain.pieces (written (front ++ .separator :: back)))
        = textsOf (front.flatMap Part.pieces ++ .cut :: back.flatMap Part.pieces) := by
          rw [pieces_written hfit, List.flatMap_append, List.flatMap_cons, Part.pieces,
            List.singleton_append]
      _ = textsOf (front.flatMap Part.pieces) ++ textsOf (back.flatMap Part.pieces) :=
          textsOf_cut _ _
      _ = _ := by rw [pieces_written hfront.atEnd, pieces_written hback]
  rw [splitStatements_eq, hcut, List.map_append, List.filter_append, ← splitStatements_eq,
    ← splitStatements_eq]

/-- What holds of every row, and of a row and all that follows its separator when it holds
of what follows, holds of every script. -/
theorem rows_induction {motive : List Part → Prop} (parts : List Part)
    (row : ∀ parts, .separator ∉ parts → motive parts)
    (cut : ∀ front back, .separator ∉ front → motive back →
      motive (front ++ .separator :: back)) : motive parts := by
  induction hlength : parts.length using Nat.strong_induction_on generalizing parts with
  | _ length ih =>
    by_cases hmem : .separator ∈ parts
    · obtain ⟨front, back, rfl, hfront⟩ := List.eq_append_cons_of_mem hmem
      refine cut front back hfront (ih back.length ?_ back rfl)
      rw [← hlength, List.length_append, List.length_cons]
      omega
    · exact row parts hmem

/-- The parts of the statement of a row, if there is one. -/
theorem exists_reading_row {parts : List Part} (next : Option Char) (hnext : ∀ d ∈ next, d = ';')
    (hfit : AllFit next parts) (hcut : .separator ∉ parts) :
    ∃ reading : Option (List Part),
      splitStatements (written parts) = reading.toList.map written ∧
      (∀ row ∈ reading, AllFit next row ∧ ∀ part ∈ row, part.isSolid = true) ∧
      reading.toList.flatMap literals = literals parts := by
  obtain ⟨kept, hkept, htext, hsolid, hliterals⟩ := exists_reading hnext hcut hfit
  rw [splitStatements_row hfit.atEnd hcut, ← htext]
  by_cases hempty : written kept = []
  · have hnone : kept = [] := Reads.unique ⟨hkept.atEnd, hempty⟩ ⟨trivial, rfl⟩
    refine ⟨none, by simp [hempty], by simp, ?_⟩
    rw [← hliterals, hnone]
    rfl
  · refine ⟨some kept, by simp [hempty], ?_, by simpa using hliterals⟩
    rintro _ ⟨rfl⟩
    exact ⟨hkept, hsolid⟩

/-- **The parts of the statements.**  A statement has literals and code, and only the last
one can end with a literal that is open.  The closed literals of the statements are those of
the script. -/
theorem exists_readings {parts : List Part} (hfit : AllFit none parts) :
    ∃ readings : List (List Part), splitStatements (written parts) = readings.map written ∧
      (∀ row ∈ readings, AllFit none row ∧ ∀ part ∈ row, part.isSolid = true) ∧
      (∀ row ∈ readings.dropLast, AllFit (some ';') row) ∧
      readings.flatMap literals = literals parts := by
  induction parts using rows_induction with
  | row parts hcut =>
      -- the last row has no statement or one, in front of the end of the script
      obtain ⟨reading, hreads, hall, hliterals⟩ :=
        exists_reading_row none (by simp) hfit hcut
      refine ⟨reading.toList, hreads, ?_, ?_, hliterals⟩
      · intro row hrow
        exact hall row (Option.mem_toList.mp hrow)
      · cases reading <;> simp
  | cut front back hcut ih =>
      -- the first row has no statement or one, in front of the separator
      obtain ⟨hfront, -, hback⟩ := allFit_append.mp hfit
      obtain ⟨first, hfirst, hall, hliterals⟩ :=
        exists_reading_row (some ';') (by simp) hfront hcut
      obtain ⟨others, hothers, hsolid, hsettled, hrest⟩ := ih hback
      have hrow : ∀ row ∈ first.toList, AllFit (some ';') row ∧ ∀ part ∈ row, part.isSolid = true :=
        fun row hmem => hall row (Option.mem_toList.mp hmem)
      refine ⟨first.toList ++ others, ?_, ?_, ?_, ?_⟩
      · rw [splitStatements_cut hfit, hfirst, hothers, List.map_append]
      · rw [List.forall_mem_append]
        exact ⟨fun row hmem => ⟨(hrow row hmem).1.atEnd, (hrow row hmem).2⟩, hsolid⟩
      · intro row hmem
        rw [List.dropLast_append] at hmem
        split_ifs at hmem with hempty
        -- with no statement behind it the first one is the last
        · exact (hrow row (List.mem_of_mem_dropLast hmem)).1
        · rcases List.mem_append.mp hmem with hmem | hmem
          · exact (hrow row hmem).1
          · exact hsettled row hmem
      · rw [List.flatMap_append, hliterals, hrest, literals_append]
        rfl

/-- The parts of one statement. -/
theorem exists_reading_of_mem {script statement : List Char}
    (hmem : statement ∈ splitStatements script) :
    ∃ parts, Reads statement parts ∧ ∀ part ∈ parts, part.isSolid = true := by
  obtain ⟨parts, hfit, rfl⟩ := exists_reads script
  obtain ⟨readings, hreadings, hall, -⟩ := exists_readings hfit
  rw [hreadings] at hmem
  obtain ⟨row, hrow, rfl⟩ := List.mem_map.mp hmem
  exact ⟨row, ⟨(hall row hrow).1, rfl⟩, (hall row hrow).2⟩

/-! ## What is kept -/

/-- The characters of a part, without comments and separators. -/
def Part.substance : Part → List Char
  | code c => [c]
  | separator => []
  | literal quote body closed => (literal quote body closed).written
  | lineComment _ => []
  | blockComment _ _ => []

theorem nonBlank_cleaned {parts : List Part} (hcut : .separator ∉ parts) :
    Text.nonBlank (written (cleaned parts)) = Text.nonBlank (parts.flatMap Part.substance) := by
  induction parts with
  | nil => rfl
  | cons part rest ih =>
      rw [List.mem_cons, not_or] at hcut
      rw [cleaned_cons, written_append, List.flatMap_cons, Text.nonBlank_append,
        Text.nonBlank_append, ih hcut.2]
      congr 1
      -- a comment leaves a blank or nothing, and neither counts
      cases part with
      | separator => exact absurd rfl hcut.1
      | blockComment body closed => rfl
      | code c => rfl
      | literal quote body closed => simp [Part.cleaned, Part.substance]
      | lineComment body => rfl

/-- A row and its statement have the same characters but for comments and blanks. -/
theorem nonBlank_row {parts : List Part} (hfit : AllFit none parts) (hcut : .separator ∉ parts) :
    Text.nonBlank (splitStatements (written parts)).flatten =
      Text.nonBlank (parts.flatMap Part.substance) := by
  have hflatten : (splitStatements (written parts)).flatten =
      Text.trim (written (cleaned parts)) := by
    rw [splitStatements_row hfit hcut]
    by_cases hempty : Text.trim (written (cleaned parts)) = [] <;> simp [hempty]
  rw [hflatten, Text.nonBlank_trim, nonBlank_cleaned hcut]

theorem nonBlank_splitStatements {parts : List Part} (hfit : AllFit none parts) :
    Text.nonBlank (splitStatements (written parts)).flatten =
      Text.nonBlank (parts.flatMap Part.substance) := by
  induction parts using rows_induction with
  | row parts hcut => exact nonBlank_row hfit hcut
  | cut front back hcut ih =>
      obtain ⟨hfront, -, hback⟩ := allFit_append.mp hfit
      calc Text.nonBlank (splitStatements (written (front ++ .separator :: back))).flatten
          = Text.nonBlank (splitStatements (written front)).flatten ++
              Text.nonBlank (splitStatements (written back)).flatten := by
            rw [splitStatements_cut hfit, List.flatten_append, Text.nonBlank_append]
        _ = Text.nonBlank (front.flatMap Part.substance) ++
              Text.nonBlank (back.flatMap Part.substance) := by
            rw [nonBlank_row hfront.atEnd hcut, ih hback]
        _ = Text.nonBlank ((front ++ .separator :: back).flatMap Part.substance) := by
            rw [List.flatMap_append, Text.nonBlank_append]; rfl

/-- **Splitting loses comments, separators and blanks only.**  Of the one row of parts that a
script has, all characters that are not blank come back in the statements, in their order,
but for those of comments and the separators; and each closed literal of the script is a
part of one statement, as it is written and in its order. -/
theorem splitStatements_keeps_code (script : List Char) :
    ∃ parts, Reads script parts ∧ (∀ others, Reads script others → others = parts) ∧
      Text.nonBlank (splitStatements script).flatten =
        Text.nonBlank (parts.flatMap Part.substance) ∧
      ∃ readings, List.Forall₂ Reads (splitStatements script) readings ∧
        readings.flatMap literals = literals parts := by
  obtain ⟨parts, hreads, hunique⟩ := existsUnique_reads script
  obtain ⟨hfit, rfl⟩ := hreads
  obtain ⟨readings, hreadings, hall, -, hliterals⟩ := exists_readings hfit
  refine ⟨parts, ⟨hfit, rfl⟩, hunique, nonBlank_splitStatements hfit, readings, ?_, hliterals⟩
  rw [hreadings, List.forall₂_map_left_iff, List.forall₂_same]
  exact fun row hrow => ⟨(hall row hrow).1, rfl⟩

/-! ## Splitting again -/

/-- Behind a text that ends outside literals and comments, a semicolon is a separator. -/
theorem splitStatements_append {front : List Char} (hsettled : IsSettled front)
    (back : List Char) :
    splitStatements (front ++ ';' :: back) = splitStatements front ++ splitStatements back := by
  obtain ⟨parts, hparts⟩ := exists_reads front
  obtain ⟨others, hothers⟩ := exists_reads back
  have hfit : AllFit none (parts ++ .separator :: others) :=
    allFit_append.mpr ⟨(isSettled_iff hparts).mp hsettled, trivial, hothers.1⟩
  have hcut := splitStatements_cut hfit
  rw [written_append, hparts.2, written_cons, hothers.2] at hcut
  exact hcut

/-- A text of literals and code that is not blank at its ends is one statement. -/
theorem splitStatements_statement {text : List Char} {parts : List Part}
    (hreads : Reads text parts) (hsolid : ∀ part ∈ parts, part.isSolid = true)
    (htrim : Text.trim text = text) (hne : text ≠ []) : splitStatements text = [text] := by
  have hcut : .separator ∉ parts := fun hmem => absurd (hsolid _ hmem) (by decide)
  have hsame : cleaned parts = parts := by
    clear hreads hcut
    induction parts with
    | nil => rfl
    | cons part rest ih =>
        rw [List.forall_mem_cons] at hsolid
        rw [cleaned_cons, ih hsolid.2]
        cases part <;> simp_all [Part.isSolid, Part.cleaned]
  rw [← hreads.2, splitStatements_row hreads.1 hcut, hsame, hreads.2, htrim]
  simp [hne]

theorem of_mem_splitStatements {script statement : List Char}
    (hmem : statement ∈ splitStatements script) :
    statement ≠ [] ∧ Text.trim statement = statement := by
  rw [splitStatements_eq, List.mem_filter] at hmem
  obtain ⟨hmap, hne⟩ := hmem
  obtain ⟨text, -, rfl⟩ := List.mem_map.mp hmap
  exact ⟨by simpa using hne, Text.trim_trim text⟩

/-- Statements that are settled, but for the last one, can be put together and split. -/
theorem splitStatements_intercalate {statements : List (List Char)}
    (hone : ∀ statement ∈ statements, splitStatements statement = [statement])
    (hsettled : ∀ statement ∈ statements.dropLast, IsSettled statement) :
    splitStatements ([';'].intercalate statements) = statements := by
  induction statements with
  | nil => rfl
  | cons statement rest ih =>
      rw [List.forall_mem_cons] at hone
      cases rest with
      | nil => simpa using hone.1
      | cons next others =>
          rw [List.dropLast_cons_cons, List.forall_mem_cons] at hsettled
          calc splitStatements ([';'].intercalate (statement :: next :: others))
              = splitStatements (statement ++ ';' :: [';'].intercalate (next :: others)) := by
                rw [List.intercalate_cons_cons, List.append_assoc, List.singleton_append]
            _ = splitStatements statement ++
                splitStatements ([';'].intercalate (next :: others)) :=
                splitStatements_append hsettled.1 _
            _ = [statement] ++ (next :: others) := by rw [hone.1, ih hone.2 hsettled.2]

/-- **Splitting is stable and composes.**  Statements are not empty and have no blanks at
their ends; put together with semicolons they are split into themselves; a semicolon behind a
text that ends outside literals and comments splits what is in front of it apart from what
follows; and what has no separators and comments, and no blanks at its ends, is not split. -/
theorem splitStatements_is_stable (script : List Char) :
    (∀ statement ∈ splitStatements script,
      statement ≠ [] ∧ Text.trim statement = statement) ∧
    splitStatements ([';'].intercalate (splitStatements script)) = splitStatements script ∧
    (∀ front back, IsSettled front →
      splitStatements (front ++ ';' :: back) = splitStatements front ++ splitStatements back) ∧
    ∀ text parts, Reads text parts → (∀ part ∈ parts, part.isSolid = true) →
      Text.trim text = text → text ≠ [] → splitStatements text = [text] := by
  refine ⟨fun statement hmem => of_mem_splitStatements hmem, ?_,
    fun front back hsettled => splitStatements_append hsettled back,
    fun text parts hreads hsolid htrim hne => splitStatements_statement hreads hsolid htrim hne⟩
  apply splitStatements_intercalate
  · -- a statement alone is split into itself
    intro statement hmem
    obtain ⟨row, hreads, hsolid⟩ := exists_reading_of_mem hmem
    obtain ⟨hne, htrim⟩ := of_mem_splitStatements hmem
    exact splitStatements_statement hreads hsolid htrim hne
  · -- a semicolon behind any but the last stands outside literals and comments
    intro statement hmem
    obtain ⟨parts, hfit, rfl⟩ := exists_reads script
    obtain ⟨readings, hreadings, -, hsettled, -⟩ := exists_readings hfit
    rw [hreadings, ← List.map_dropLast] at hmem
    obtain ⟨row, hrow, rfl⟩ := List.mem_map.mp hmem
    have hrowFit := hsettled row hrow
    exact (isSettled_iff ⟨hrowFit.atEnd, rfl⟩).mpr hrowFit

/-- A dash at the end of a text and one behind the separator begin no comment. -/
theorem splitStatements_is_stable_of_dashes :
    splitStatements ("/*;*/a-- b;\n-".toList ++ ';' :: "-';".toList) =
      ["a\n-".toList, "-';".toList] := by
  have hsettled : IsSettled "/*;*/a-- b;\n-".toList := by decide +kernel
  obtain ⟨-, -, hcompose, -⟩ := splitStatements_is_stable []
  exact (hcompose _ _ hsettled).trans (by decide +kernel)

end PersistLayer.Sql
