import PersistLayer.Client.Function
import PersistLayer.Proofs.Client.Names
import PersistLayer.Proofs.Snippet.Braced

/-!
# The texts in a client can be read

Every text that a client is built from is put together from lines that open and close
brackets in a fixed order, with names, keys and string literals in them that leave
everything as it was.  `LinesFit` follows the brackets from line to line, and a text
whose lines end with nothing open is a text of statements.
-/

namespace PersistLayer.Client

open Schema Syntax

/-! ## Pieces of lines -/

/-- The text leads from some open brackets to others, and indents its lines with
spaces. -/
structure Fits (before after : List Enclosure) (text : String) : Prop where
  turns : Turns before after text
  spaced : Spaced text

section Pieces

variable {before middle after : List Enclosure} {front back inner text name : String}

theorem fits_of_run (hrun : Outline.run ⟨.code, before⟩ text.toList = some ⟨.code, after⟩)
    (hspaced : Spaced text) : Fits before after text :=
  ⟨turns_of_run hrun, hspaced⟩

theorem fits_neutral (hrun : Outline.run .initial text.toList = some .initial)
    (hspaced : Spaced text) : Fits [] [] text :=
  ⟨neutral_of_run hrun, hspaced⟩

theorem Fits.append (hfront : Fits before middle front) (hback : Fits middle after back) :
    Fits before after (front ++ back) :=
  ⟨hfront.turns.append hback.turns, hfront.spaced.append hback.spaced⟩

theorem Fits.inside (htext : Fits before after text) (outer : List Enclosure) :
    Fits (before ++ outer) (after ++ outer) text := by
  refine ⟨?_, htext.spaced⟩
  intro more
  rw [List.append_assoc, List.append_assoc]
  exact htext.turns (outer ++ more)

/-- A text that leaves everything as it was does so inside any brackets. -/
theorem Fits.within (htext : Fits [] [] text) (enclosures : List Enclosure) :
    Fits enclosures enclosures text :=
  htext.inside enclosures

theorem fits_enclosed (opener : Char) (hfront : Fits [] [.bracket opener] front)
    (hinner : Fits [] [] inner) (hback : Fits [.bracket opener] [] back) :
    Fits [] [] (front ++ inner ++ back) :=
  (hfront.append (hinner.within _)).append hback

theorem spaced_of_fit (htext : ∀ c ∈ text.toList, IsFit c) : Spaced text :=
  spacedFrom_of_not_blank (fun c hc => (htext c hc).isBlank) true

theorem IsFitName.fits (hname : IsFitName name) : Fits [] [] name :=
  ⟨hname.isInert.neutral, spaced_of_fit hname.2⟩

theorem IsFitName.quotedName (hname : IsFitName name) : IsFitName (quotedName name) :=
  ⟨quotedName_ne_empty hname.1, forall_mem_quotedName (by unfold IsFit; decide) hname.2⟩

theorem IsFitName.append (hfront : IsFitName front) (hback : IsFitName back) :
    IsFitName (front ++ back) := by
  refine ⟨by simp [hfront.1], ?_⟩
  intro c hc
  rw [String.toList_append, List.mem_append] at hc
  rcases hc with hc | hc
  · exact hfront.2 c hc
  · exact hback.2 c hc

/-- A fit character needs no escape. -/
theorem IsFit.escapedChar_eq {c : Char} (hc : IsFit c) : escapedChar c = [c] := by
  have hall : ['"', '\\', '\n', '\t', '\r'].all (fun c => unfitCodes.contains c.toNat) = true := by
    decide
  have hne : ∀ d ∈ ['"', '\\', '\n', '\t', '\r'], c ≠ d := by
    rintro d hd rfl
    exact hc (by simpa using List.all_eq_true.mp hall c hd)
  simp only [List.forall_mem_cons] at hne
  unfold escapedChar
  split <;> simp_all

/-- Nothing in a fit name has to be escaped. -/
theorem IsFitName.stringLiteral_eq (hname : IsFitName name) :
    stringLiteral name = "\"" ++ name ++ "\"" := by
  have hescaped : ∀ c ∈ name.toList, escapedChar c = [c] := fun c hc => (hname.2 c hc).escapedChar_eq
  rw [← String.toList_inj, stringLiteral, String.toList_ofList, List.flatMap_congr hescaped]
  simp

theorem fits_stringLiteral (value : String) : Fits [] [] (stringLiteral value) := by
  refine ⟨neutral_stringLiteral value, ?_⟩
  have hline : ∀ c, '\n' ∉ escapedChar c := by
    intro c
    unfold escapedChar
    split
    iterate 5 decide
    case h_6 => simp_all [eq_comm]
  have hbody : '\n' ∉ value.toList.flatMap escapedChar ++ ['"'] := by
    simp [List.mem_flatMap, hline]
  have hquote : spacedFrom true ('"' :: (value.toList.flatMap escapedChar ++ ['"'])) =
      spacedFrom false (value.toList.flatMap escapedChar ++ ['"']) := rfl
  rw [Spaced, stringLiteral, String.toList_ofList, hquote]
  exact spacedFrom_false_of_not_mem hbody

theorem spaced_intercalate {separator : String} (hseparator : Spaced separator)
    {texts : List String} (htexts : ∀ text ∈ texts, Spaced text) :
    Spaced (separator.intercalate texts) := by
  refine intercalate_induction rfl htexts ?_
  intro text hmem back hback
  exact ((htexts text hmem).append hseparator).append hback

theorem fits_commaList {texts : List String} (htexts : ∀ text ∈ texts, Fits [] [] text) :
    Fits [] [] (commaList texts) :=
  ⟨neutral_intercalate (neutral_of_run rfl) fun text h => (htexts text h).turns,
    @spaced_intercalate ", " rfl texts fun text h => (htexts text h).spaced⟩

/-- A name between double quotes. -/
theorem fits_quoted (hname : IsFitName name)
    (hfront : ∀ outer, Outline.run ⟨.code, outer⟩ front.toList = some ⟨.string false, outer⟩)
    (hback : ∀ outer, Outline.run ⟨.string false, outer⟩ back.toList = some ⟨.code, after ++ outer⟩)
    (hspacedFront : Spaced front) (hspacedBack : Spaced back) :
    Fits [] after (front ++ name ++ back) := by
  -- no character of the name ends the literal or begins an escape
  have hstays : ∀ outer, Outline.run ⟨.string false, outer⟩ name.toList =
      some ⟨.string false, outer⟩ := by
    intro outer
    refine Outline.run_eq_self fun c hmem => ?_
    have hc := hname.2 c hmem
    have hne : c ≠ '"' ∧ c ≠ '\n' ∧ c ≠ '\\' := by
      refine ⟨?_, ?_, ?_⟩ <;>
        · rintro rfl
          revert hc
          unfold IsFit
          decide
    simp [Outline.step, hne]
  refine ⟨?_, (hspacedFront.append hname.fits.spaced).append hspacedBack⟩
  intro outer
  have hopen := hfront ([] ++ outer)
  calc Outline.run ⟨.code, [] ++ outer⟩ (front ++ name ++ back).toList
      = (Outline.run ⟨.string false, [] ++ outer⟩ name.toList).bind fun next =>
          next.run back.toList := by
        rw [String.toList_append, String.toList_append, Outline.run_append, Outline.run_append,
          hopen, Option.bind_some]
    _ = Outline.run ⟨.string false, [] ++ outer⟩ back.toList := by
        rw [hstays, Option.bind_some]
    _ = some ⟨.code, after ++ outer⟩ := hback _

end Pieces

/-! ## Lines -/

/-- The lines lead from some open brackets to others, one after the other. -/
inductive LinesFit : List Enclosure → List Enclosure → List String → Prop where
  | nil (enclosures : List Enclosure) : LinesFit enclosures enclosures []
  | cons {before middle after : List Enclosure} {line : String} {rest : List String}
      (hline : Fits before middle line) (hrest : LinesFit middle after rest) :
      LinesFit before after (line :: rest)

section Lines

variable {before middle after enclosures : List Enclosure} {lines front back : List String}

/-- A line that leaves everything as it was. -/
theorem LinesFit.keep {line : String} (hline : Fits [] [] line)
    (hlines : LinesFit before after lines) : LinesFit before after (line :: lines) :=
  .cons (hline.within before) hlines

/-- A line that opens a bracket. -/
theorem LinesFit.opens {line : String} {enclosure : Enclosure} (hline : Fits [] [enclosure] line)
    (hlines : LinesFit (enclosure :: before) after lines) : LinesFit before after (line :: lines) :=
  .cons (hline.inside before) hlines

/-- A line that closes a bracket. -/
theorem LinesFit.closes {line : String} {enclosure : Enclosure} (hline : Fits [enclosure] [] line)
    (hlines : LinesFit before after lines) :
    LinesFit (enclosure :: before) after (line :: lines) :=
  .cons (hline.inside before) hlines

theorem LinesFit.append (hfront : LinesFit before middle front)
    (hback : LinesFit middle after back) : LinesFit before after (front ++ back) := by
  induction hfront with
  | nil => exact hback
  | cons hline _ ih => exact .cons hline (ih hback)

theorem LinesFit.inside (hlines : LinesFit before after lines) (outer : List Enclosure) :
    LinesFit (before ++ outer) (after ++ outer) lines := by
  induction hlines with
  | nil enclosures => exact .nil _
  | cons hline _ ih => exact .cons (hline.inside outer) ih

theorem linesFit_of_forall (hlines : ∀ line ∈ lines, Fits [] [] line)
    (enclosures : List Enclosure) : LinesFit enclosures enclosures lines := by
  induction lines with
  | nil => exact .nil enclosures
  | cons line rest ih =>
      exact .cons ((hlines line List.mem_cons_self).within enclosures)
        (ih fun other h => hlines other (List.mem_cons_of_mem _ h))

/-- Commas between texts change nothing. -/
theorem fits_of_mem_withCommas (hlines : ∀ line ∈ lines, Fits [] [] line) :
    ∀ line ∈ withCommas lines, Fits [] [] line := by
  have hcomma : Fits [] [] "," := fits_neutral rfl rfl
  induction lines with
  | nil => simp [withCommas]
  | cons line rest ih =>
      have hline := hlines line List.mem_cons_self
      cases rest with
      | nil => simpa [withCommas] using hline
      | cons next others =>
          have hrest := ih fun other h => hlines other (List.mem_cons_of_mem _ h)
          intro other hother
          rcases List.mem_cons.mp hother with rfl | hother
          · exact hline.append hcomma
          · exact hrest other hother

theorem linesFit_withCommas (hlines : ∀ line ∈ lines, Fits [] [] line)
    (enclosures : List Enclosure) : LinesFit enclosures enclosures (withCommas lines) :=
  linesFit_of_forall (fits_of_mem_withCommas hlines) enclosures

theorem LinesFit.fits (hlines : LinesFit before after lines) :
    Fits before after (textOfLines lines) := by
  have hempty : ∀ enclosures, Fits enclosures enclosures "" := fun enclosures =>
    (fits_neutral rfl rfl : Fits [] [] "").within enclosures
  have hfeed : ∀ enclosures, Fits enclosures enclosures "\n" := fun enclosures =>
    (fits_neutral rfl rfl : Fits [] [] "\n").within enclosures
  induction hlines with
  | nil enclosures => exact hempty enclosures
  | @cons before middle after line rest hline hrest ih =>
      by_cases hnil : rest = []
      · subst hnil
        cases hrest
        simpa [textOfLines] using hline
      · rw [textOfLines_cons hnil]
        exact (hline.append (hfeed middle)).append ih

/-- **Lines that leave nothing open are statements**, if the last one ends with a
semicolon. -/
theorem LinesFit.isStatements (hlines : LinesFit [] [] lines) {last : String}
    (hlast : lines.getLast? = some last) (hsemicolon : last.toList.getLast? = some ';') :
    IsStatements (textOfLines lines) :=
  ⟨hlines.fits.turns, hlines.fits.spaced, getLast?_textOfLines hlast hsemicolon⟩

end Lines

end PersistLayer.Client
