import Mathlib.Data.List.DropRight
import Mathlib.Data.List.TakeWhile
import PersistLayer.Text.Blank

/-!
# Blanks, and taking them off the ends of a text

There are twenty-five blanks, so that no character of a class is a blank can be checked one
by one (`isBlank_eq_false_of_class`).

What is taken off the ends of a text are blanks and nothing else (`exists_trimEnd_eq`,
`nonBlank_trim`), and as many as there are: a character that is no blank keeps what is in
front of it (`trimEnd_append`), so trimming again takes nothing more (`trim_trim`).
-/

namespace PersistLayer.Text

/-! ## The blanks -/

/-- The code points of the blanks. -/
def blankCodes : List Nat :=
  [0x9, 0xA, 0xB, 0xC, 0xD, 0x20, 0x85, 0xA0, 0x1680, 0x2000, 0x2001, 0x2002, 0x2003, 0x2004,
    0x2005, 0x2006, 0x2007, 0x2008, 0x2009, 0x200A, 0x2028, 0x2029, 0x202F, 0x205F, 0x3000]

theorem mem_blankCodes_of_isBlank {c : Char} (hc : isBlank c = true) : c.toNat ∈ blankCodes := by
  simp only [isBlank, Bool.or_eq_true, Bool.and_eq_true, decide_eq_true_eq, beq_iff_eq] at hc
  simp only [blankCodes, List.mem_cons, List.not_mem_nil, or_false]
  omega

theorem isBlank_eq_false_of_class (charClass : Char → Bool)
    (hclass : blankCodes.any (fun code => charClass (Char.ofNat code)) = false) {c : Char}
    (hc : charClass c = true) : isBlank c = false := by
  by_contra hblank
  have hmem := mem_blankCodes_of_isBlank (by simpa using hblank)
  have hfalse := List.any_eq_false.mp hclass _ hmem
  rw [Char.ofNat_toNat] at hfalse
  exact hfalse hc

/-! ## The end of a text -/

theorem trimEnd_trimEnd (text : List Char) : trimEnd (trimEnd text) = trimEnd text := by
  rw [trimEnd, trimEnd, List.reverse_reverse, List.dropWhile_idempotent]

/-- A text without its trailing blanks is its leading blanks and a core. -/
theorem exists_trimEnd_eq (text : List Char) :
    ∃ lead core trail, text = lead ++ core ++ trail ∧ trimEnd text = lead ++ core ∧
      (∀ c ∈ lead, isBlank c = true) ∧ (∀ c ∈ trail, isBlank c = true) ∧
      ∀ c ∈ core.head?, isBlank c = false := by
  refine ⟨(trimEnd text).takeWhile isBlank, (trimEnd text).dropWhile isBlank,
    (text.reverse.takeWhile isBlank).reverse, ?_, ?_, ?_, ?_, ?_⟩
  · rw [List.takeWhile_append_dropWhile, trimEnd, ← List.reverse_append,
      List.takeWhile_append_dropWhile, List.reverse_reverse]
  · rw [List.takeWhile_append_dropWhile]
  · exact fun c hc => List.mem_takeWhile_imp hc
  · exact fun c hc => List.mem_takeWhile_imp (List.mem_reverse.mp hc)
  · intro c hc
    have hhead := List.head?_dropWhile_not isBlank (trimEnd text)
    rw [Option.mem_def.mp hc] at hhead
    simpa using hhead

theorem allBlank_trimEnd (text : List Char) : allBlank (trimEnd text) = allBlank text := by
  obtain ⟨lead, core, trail, htext, htrim, -, htrail, -⟩ := exists_trimEnd_eq text
  have hblank : trail.all isBlank = true := List.all_eq_true.mpr htrail
  calc allBlank (trimEnd text) = (lead ++ core).all isBlank := by rw [htrim]; rfl
    _ = ((lead ++ core).all isBlank && trail.all isBlank) := by
      rw [hblank, Bool.and_true]
    _ = allBlank text := by rw [← List.all_append, ← htext]; rfl

/-- Nothing in front of a character that is no blank is taken off the end. -/
theorem trimEnd_append {c : Char} (hc : isBlank c = false) (front back : List Char) :
    trimEnd (front ++ c :: back) = front ++ c :: trimEnd back := by
  simp only [trimEnd, List.reverse_append, List.reverse_cons, List.append_assoc,
    List.singleton_append, List.dropWhile_append]
  split_ifs with hempty
  · rw [List.isEmpty_iff] at hempty
    rw [hempty, List.dropWhile_cons_of_neg (by simp [hc])]
    simp
  · simp

/-- A blank at the end is taken off. -/
theorem trimEnd_concat {c : Char} (hc : isBlank c = true) (text : List Char) :
    trimEnd (text ++ [c]) = trimEnd text := by
  rw [trimEnd, List.reverse_append, List.reverse_singleton, List.singleton_append,
    List.dropWhile_cons_of_pos hc, trimEnd]

/-- A text keeps its end exactly when it ends with no blank. -/
theorem trimEnd_eq_self_iff {text : List Char} :
    trimEnd text = text ↔ ∀ c ∈ text.getLast?, isBlank c = false := by
  rcases List.eq_nil_or_concat text with rfl | ⟨front, c, rfl⟩
  · simp [trimEnd]
  rw [List.concat_eq_append, List.getLast?_concat]
  simp only [Option.mem_some_iff, forall_eq']
  constructor
  · intro hsame
    by_contra hblank
    have hlength := congrArg List.length hsame
    have hshorter := (List.dropWhile_suffix (l := front.reverse) isBlank).length_le
    simp only [trimEnd, List.reverse_append, List.reverse_singleton, List.singleton_append,
      List.dropWhile_cons_of_pos (show isBlank c = true by simpa using hblank),
      List.length_reverse, List.length_append, List.length_singleton] at hlength hshorter
    omega
  · intro hc
    exact (trimEnd_append hc front []).trans rfl

/-! ## Both ends -/

theorem head?_trimStart {text : List Char} {c : Char} (hc : (trimStart text).head? = some c) :
    isBlank c = false := by
  have hhead := List.head?_dropWhile_not isBlank text
  rw [← trimStart, hc] at hhead
  simpa using hhead

theorem trimStart_eq_self {text : List Char} (hhead : ∀ c ∈ text.head?, isBlank c = false) :
    trimStart text = text := by
  cases text with
  | nil => rfl
  | cons c rest => exact List.dropWhile_cons_of_neg (by simp [hhead c rfl])

theorem trimEnd_prefix (text : List Char) : trimEnd text <+: text := by
  obtain ⟨lead, core, trail, htext, htrim, -⟩ := exists_trimEnd_eq text
  exact ⟨trail, by rw [htrim, ← htext]⟩

/-- A trimmed text begins with no blank. -/
theorem isBlank_head_trim {text : List Char} {c : Char} (hc : c ∈ (trim text).head?) :
    isBlank c = false := by
  obtain ⟨back, hback⟩ := trimEnd_prefix (trimStart text)
  have hhead : (trimStart text).head? = some c := by
    rw [← hback, List.head?_append, ← trim, Option.mem_def.mp hc, Option.some_or]
  exact head?_trimStart hhead

theorem trim_trim (text : List Char) : trim (trim text) = trim text := by
  have hstart : trimStart (trim text) = trim text :=
    trimStart_eq_self fun c hc => isBlank_head_trim hc
  rw [trim, hstart, trim, trimEnd_trimEnd]

/-- The characters of a text that are no blanks. -/
def nonBlank (text : List Char) : List Char := text.filter fun c => !isBlank c

theorem nonBlank_append (front back : List Char) :
    nonBlank (front ++ back) = nonBlank front ++ nonBlank back := List.filter_append ..

theorem nonBlank_eq_nil {text : List Char} (htext : ∀ c ∈ text, isBlank c = true) :
    nonBlank text = [] := by
  rw [nonBlank, List.filter_eq_nil_iff]
  intro c hc
  simp [htext c hc]

/-- Nothing but blanks is taken off. -/
theorem nonBlank_trim (text : List Char) : nonBlank (trim text) = nonBlank text := by
  obtain ⟨lead, core, trail, htext, htrim, -, htrail, -⟩ := exists_trimEnd_eq (trimStart text)
  have hlead : ∀ c ∈ text.takeWhile isBlank, isBlank c = true :=
    fun c hc => List.mem_takeWhile_imp hc
  calc nonBlank (trim text)
      = nonBlank (lead ++ core) := by rw [trim, htrim]
    _ = nonBlank (lead ++ core ++ trail) := by
      rw [nonBlank_append _ trail, nonBlank_eq_nil htrail, List.append_nil]
    _ = nonBlank (text.takeWhile isBlank ++ trimStart text) := by
      rw [nonBlank_append (text.takeWhile isBlank), nonBlank_eq_nil hlead, htext, List.nil_append]
    _ = nonBlank text := by rw [trimStart, List.takeWhile_append_dropWhile]

end PersistLayer.Text
