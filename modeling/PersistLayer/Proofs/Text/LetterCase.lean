import Mathlib.Data.List.Basic
import PersistLayer.Text.LetterCase

/-!
# What a change of case can give

The forms of a character under a change of case are listed in tables.  Whether a character
is in any of them is therefore checked once, for the tables, and holds of every character
that is not its own form (`mem_mapCase`).  No upper case is empty, none holds a lower-case
letter of ASCII, and none but that of the underscore holds an underscore.
-/

namespace PersistLayer.Text

/-! ## Forms of a character -/

/-- No form that the mapping gives has one of the code points. -/
def avoids (codes : List Nat) (longForms : List (Nat × List Nat)) (shifts : List Shift) : Bool :=
  (longForms.all fun entry => entry.2.all fun code => !codes.contains code) &&
    shifts.all fun shift => codes.all fun code =>
      !(decide (shift.target ≤ code) && decide (code ≤ shift.target + (shift.last - shift.first)))

/-- A number that is no code point stands for the character zero. -/
theorem toNat_ofNat_not_mem {codes : List Nat} (hzero : 0 ∉ codes) {code : Nat}
    (hcode : code ∉ codes) : (Char.ofNat code).toNat ∉ codes := by
  by_cases hvalid : code.isValidChar
  · have hchar : Char.ofNat code = Char.ofNatAux code hvalid := dif_pos hvalid
    rw [hchar]
    exact hcode
  · have hchar : Char.ofNat code = ⟨0, by decide⟩ := dif_neg hvalid
    rw [hchar]
    exact hzero

section Images

variable {codes : List Nat} {longForms : List (Nat × List Nat)} {shifts : List Shift}
  (hzero : 0 ∉ codes) (havoids : avoids codes longForms shifts = true)

include hzero havoids

/-- The forms of a character have none of the code points, except where the character
is its own form. -/
theorem mem_mapCase {c d : Char} (hd : d ∈ mapCase longForms shifts c) :
    d.toNat ∉ codes ∨ d = c ∧ mapCase longForms shifts c = [c] := by
  simp only [avoids, Bool.and_eq_true, List.all_eq_true, Bool.not_eq_true'] at havoids
  obtain ⟨hlong, hshifts⟩ := havoids
  unfold mapCase at hd ⊢
  cases hform : longForms.lookup c.toNat with
  | some form =>
      left
      simp only [hform, List.mem_map] at hd
      obtain ⟨code, hcode, rfl⟩ := hd
      obtain ⟨front, back, rfl, -⟩ := List.lookup_eq_some_iff.mp hform
      have hout := hlong (c.toNat, form) (by simp) code hcode
      exact toNat_ofNat_not_mem hzero (by simpa using hout)
  | none =>
      cases hshift : shifts.findSome? fun shift => shift.image? c.toNat with
      | some code =>
          -- a shifted stretch has none of the code points among its images
          left
          simp only [hform, hshift, List.mem_singleton] at hd
          subst hd
          obtain ⟨shift, hmem, himage⟩ := List.exists_of_findSome?_eq_some hshift
          refine toNat_ofNat_not_mem hzero ?_
          intro hcode
          have hout := hshifts shift hmem code hcode
          unfold Shift.image? Stretch.covers at himage
          split_ifs at himage with hcovers
          simp only [Bool.and_eq_true, decide_eq_true_eq, Bool.and_eq_false_iff,
            decide_eq_false_iff_not, Option.some.injEq] at hcovers himage hout
          omega
      | none =>
          right
          simp only [hform, hshift, List.mem_singleton] at hd
          exact ⟨hd, rfl⟩

end Images

/-- The code points of the lower-case letters of ASCII. -/
def lowerLetterCodes : List Nat := List.range' 97 26

/-- Neither a lower-case letter of ASCII nor the underscore is in the tables of upper case. -/
theorem avoids_upperForms :
    avoids ('_'.toNat :: lowerLetterCodes) longUpperForms upperShifts = true := by
  decide +kernel

/-- No upper case holds a lower-case letter of ASCII. -/
theorem not_mem_upperForm (c : Char) {letter : Char} (hlower : letter.isLower = true) :
    letter ∉ upperForm c := by
  have hcode : letter.toNat ∈ lowerLetterCodes := by
    have hbounds : 97 ≤ letter.toNat ∧ letter.toNat ≤ 122 := by
      have hvalues : (decide (97 ≤ letter.val) && decide (letter.val ≤ 122)) = true := hlower
      simpa [UInt32.le_iff_toNat_le] using hvalues
    rw [lowerLetterCodes, List.mem_range'_1]
    omega
  intro hmem
  have hchanged : lowerLetterCodes.all
      (fun code => mapCase longUpperForms upperShifts (Char.ofNat code) != [Char.ofNat code]) =
        true := by decide +kernel
  rcases mem_mapCase (by decide) avoids_upperForms hmem with hfit | ⟨rfl, hself⟩
  · exact hfit (List.mem_cons_of_mem _ hcode)
  · have hne := List.all_eq_true.mp hchanged _ hcode
    rw [Char.ofNat_toNat] at hne
    exact absurd hself (by simpa using hne)

theorem upperForm_ne_nil (c : Char) : upperForm c ≠ [] := by
  have hforms : longUpperForms.all (fun entry => !entry.2.isEmpty) = true := by decide +kernel
  unfold upperForm mapCase
  cases hform : longUpperForms.lookup c.toNat with
  | some form =>
      obtain ⟨front, back, hsplit, -⟩ := List.lookup_eq_some_iff.mp hform
      have hne := List.all_eq_true.mp hforms (c.toNat, form) (by simp [hsplit])
      simpa using hne
  | none =>
      simp only
      split <;> simp

/-- The underscore has no case. -/
theorem underscore_caseless :
    isUpper '_' = false ∧ isLower '_' = false ∧ upperForm '_' = ['_'] := by
  decide +kernel

theorem upperForm_underscore : upperForm '_' = ['_'] := underscore_caseless.2.2

/-- No other character has an underscore in its upper case. -/
theorem underscore_mem_upperForm_iff {c : Char} : '_' ∈ upperForm c ↔ c = '_' := by
  constructor
  · intro hmem
    rcases mem_mapCase (by decide) avoids_upperForms hmem with hother | ⟨hself, -⟩
    · exact absurd List.mem_cons_self hother
    · exact hself.symm
  · rintro rfl
    rw [upperForm_underscore]
    exact List.mem_singleton_self _

/-! ## Forms of a text -/

theorem mem_lowerAfter {before name : List Char} {d : Char} (hd : d ∈ lowerAfter before name) :
    d ∈ ['ς', 'σ'] ∨ ∃ c ∈ name, d ∈ lowerForm c := by
  induction name generalizing before with
  | nil => cases hd
  | cons c rest ih =>
      simp only [lowerAfter, List.mem_append] at hd
      rcases hd with hform | hrest
      · split_ifs at hform
        · left
          simp_all
        · left
          simp_all
        · exact .inr ⟨c, List.mem_cons_self, hform⟩
      · rcases ih hrest with hsigma | ⟨other, hother, hform⟩
        · exact .inl hsigma
        · exact .inr ⟨other, List.mem_cons_of_mem _ hother, hform⟩

end PersistLayer.Text
