import PersistLayer.Proofs.Text.LetterCase
import PersistLayer.Text.UpperSnake

/-!
# Where upper snake case puts underscores

Upper snake case writes the upper case of each character, and puts an underscore where a word
begins.  No word begins in front of an underscore or behind one, so an underscore divides a
name into parts that are written on their own (`upperSnakeAfter_append_underscore`).

Every underscore that is written is therefore one of the name, or a letter stands behind it
(`underscore_cases`): none that is added is the last character, or stands next to another one.
-/

namespace PersistLayer.Text

/-- A text without its underscores. -/
def withoutBreaks (text : List Char) : List Char := text.filter (· ≠ '_')

theorem withoutBreaks_append (front back : List Char) :
    withoutBreaks (front ++ back) = withoutBreaks front ++ withoutBreaks back :=
  List.filter_append ..

theorem mem_upperSnakeAfter {before : Option Char} {name : List Char} {d : Char}
    (hd : d ∈ upperSnakeAfter before name) : d = '_' ∨ ∃ c ∈ name, d ∈ upperForm c := by
  induction name generalizing before with
  | nil => cases hd
  | cons c rest ih =>
      simp only [upperSnakeAfter, List.mem_append] at hd
      rcases hd with (hbreak | hform) | hrest
      · left
        split_ifs at hbreak
        · simpa using hbreak
        · cases hbreak
      · exact .inr ⟨c, List.mem_cons_self, hform⟩
      · rcases ih hrest with hbreak | ⟨other, hother, hform⟩
        · exact .inl hbreak
        · exact .inr ⟨other, List.mem_cons_of_mem _ hother, hform⟩

/-! ## Underscores divide a name -/

section Divide

variable {before : Option Char} {c : Char}

/-- No word begins with an underscore. -/
theorem beginsWord_underscore (next : Option Char) : beginsWord before '_' next = false := by
  cases before with
  | none => rfl
  | some previous => simp [beginsWord, underscore_caseless]

/-- No word begins behind an underscore. -/
theorem beginsWord_behind_underscore (next : Option Char) :
    beginsWord (some '_') c next = false := by
  have hdigit : Char.isDigit '_' = false := by decide
  simp [beginsWord, underscore_caseless, hdigit]

/-- An underscore behind a character counts as the end of the name. -/
theorem beginsWord_head? (front back : List Char) :
    beginsWord before c (front ++ '_' :: back).head? = beginsWord before c front.head? := by
  cases front with
  | nil => cases before <;> simp [beginsWord, underscore_caseless]
  | cons d rest => rfl

theorem upperSnakeAfter_underscore (name : List Char) :
    upperSnakeAfter (some '_') name = upperSnake name := by
  cases name with
  | nil => rfl
  | cons c rest => rw [upperSnake, upperSnakeAfter, upperSnakeAfter, beginsWord_behind_underscore,
      beginsWord]

theorem upperSnakeAfter_cons_underscore (rest : List Char) :
    upperSnakeAfter before ('_' :: rest) = '_' :: upperSnake rest := by
  rw [upperSnakeAfter, beginsWord_underscore, upperForm_underscore, upperSnakeAfter_underscore]
  rfl

/-- **An underscore divides a name** into parts that are written on their own. -/
theorem upperSnakeAfter_append_underscore (front back : List Char) :
    upperSnakeAfter before (front ++ '_' :: back) =
      upperSnakeAfter before front ++ '_' :: upperSnake back := by
  induction front generalizing before with
  | nil => exact upperSnakeAfter_cons_underscore back
  | cons c rest ih =>
      rw [List.cons_append, upperSnakeAfter, upperSnakeAfter, ih, beginsWord_head?,
        List.append_assoc _ _ ('_' :: _)]

end Divide

theorem upperSnake_append_underscore (front back : List Char) :
    upperSnake (front ++ '_' :: back) = upperSnake front ++ '_' :: upperSnake back :=
  upperSnakeAfter_append_underscore front back

theorem upperSnakeAfter_eq_nil_iff {before : Option Char} {name : List Char} :
    upperSnakeAfter before name = [] ↔ name = [] := by
  cases name with
  | nil => simp [upperSnakeAfter]
  | cons c rest => simp [upperSnakeAfter, upperForm_ne_nil]

/-! ## Deleting underscores -/

theorem withoutBreaks_upperForm {c : Char} (hc : c ≠ '_') :
    withoutBreaks (upperForm c) = upperForm c := by
  rw [withoutBreaks, List.filter_eq_self]
  intro d hd
  rw [decide_eq_true_iff]
  rintro rfl
  exact hc (underscore_mem_upperForm_iff.mp hd)

/-- **Without underscores** a name is in upper case, character by character. -/
theorem withoutBreaks_upperSnakeAfter (before : Option Char) (name : List Char) :
    withoutBreaks (upperSnakeAfter before name) = (withoutBreaks name).flatMap upperForm := by
  induction name generalizing before with
  | nil => rfl
  | cons c rest ih =>
      have hbreak : withoutBreaks (if beginsWord before c rest.head? then ['_'] else []) = [] := by
        split_ifs <;> rfl
      have hform : withoutBreaks (upperForm c) = (withoutBreaks [c]).flatMap upperForm := by
        by_cases hc : c = '_'
        · rw [hc, upperForm_underscore]
          rfl
        · rw [withoutBreaks_upperForm hc]
          simp [withoutBreaks, hc]
      calc withoutBreaks (upperSnakeAfter before (c :: rest))
          = withoutBreaks (upperForm c) ++ withoutBreaks (upperSnakeAfter (some c) rest) := by
            rw [upperSnakeAfter, withoutBreaks_append, withoutBreaks_append, hbreak,
              List.nil_append]
        _ = (withoutBreaks [c] ++ withoutBreaks rest).flatMap upperForm := by
            rw [hform, ih, List.flatMap_append]
        _ = (withoutBreaks (c :: rest)).flatMap upperForm := by
            rw [← withoutBreaks_append, List.singleton_append]

/-! ## Which underscores are written -/

/-- An underscore is not in a text that has none, so it is behind it. -/
theorem exists_behind {text back front after : List Char} (htext : '_' ∉ text)
    (hsplit : text ++ back = front ++ '_' :: after) :
    ∃ between, front = text ++ between ∧ back = between ++ '_' :: after := by
  rcases List.append_eq_append_iff.mp hsplit with ⟨between, hfront, hback⟩ | ⟨inside, rfl, hafter⟩
  · exact ⟨between, hfront, hback⟩
  · cases inside with
    | nil => exact ⟨[], by simp, by simpa using hafter.symm⟩
    | cons c rest =>
        obtain ⟨rfl, -⟩ := List.cons.inj hafter
        exact absurd (by simp) htext

/-- An underscore that is written for another character begins a word with it, or else the
underscore is written for what comes behind. -/
theorem exists_behind_character {before : Option Char} {c : Char} {rest front after : List Char}
    (hc : c ≠ '_') (hsplit : upperSnakeAfter before (c :: rest) = front ++ '_' :: after) :
    (∃ d others, after = d :: others ∧ d ≠ '_') ∨
    ∃ between, front = (if beginsWord before c rest.head? then ['_'] else []) ++ upperForm c ++
        between ∧ upperSnakeAfter (some c) rest = between ++ '_' :: after := by
  have hform : '_' ∉ upperForm c := mt underscore_mem_upperForm_iff.mp hc
  rw [upperSnakeAfter, List.append_assoc] at hsplit
  split_ifs at hsplit ⊢ with hbegins
  · cases front with
    | nil =>
        -- the underscore begins the word of the character
        obtain ⟨d, others, hd⟩ := List.exists_cons_of_ne_nil (upperForm_ne_nil c)
        refine .inl ⟨d, others ++ upperSnakeAfter (some c) rest, ?_, ?_⟩
        · rw [← (List.cons.inj hsplit).2, hd]
          rfl
        · rintro rfl
          exact hform (by simp [hd])
    | cons d others =>
        obtain ⟨rfl, htail⟩ := List.cons.inj hsplit
        obtain ⟨between, rfl, hrest⟩ := exists_behind hform htail
        exact .inr ⟨between, rfl, hrest⟩
  · obtain ⟨between, rfl, hrest⟩ := exists_behind hform hsplit
    exact .inr ⟨between, rfl, hrest⟩

/-- **An underscore that is written** is one of the name, or a letter stands behind it. -/
theorem underscore_cases {before : Option Char} {name front after : List Char}
    (hsplit : upperSnakeAfter before name = front ++ '_' :: after) :
    (∃ left right, name = left ++ '_' :: right ∧ front = upperSnakeAfter before left ∧
      after = upperSnake right) ∨
    ∃ d others, after = d :: others ∧ d ≠ '_' := by
  induction name generalizing before front with
  | nil => simp [upperSnakeAfter] at hsplit
  | cons c rest ih =>
      by_cases hc : c = '_'
      · -- an underscore of the name: this one, or the one asked for is in the rest
        subst hc
        rw [upperSnakeAfter_cons_underscore] at hsplit
        cases front with
        | nil => exact .inl ⟨[], rest, rfl, rfl, (List.cons.inj hsplit).2.symm⟩
        | cons d others =>
            obtain ⟨rfl, htail⟩ := List.cons.inj hsplit
            rw [← upperSnakeAfter_underscore] at htail
            refine (ih htail).imp_left ?_
            rintro ⟨left, right, rfl, rfl, hafter⟩
            refine ⟨'_' :: left, right, rfl, ?_, hafter⟩
            rw [upperSnakeAfter_cons_underscore, upperSnakeAfter_underscore]
      · rcases exists_behind_character hc hsplit with hletter | ⟨between, rfl, hrest⟩
        · exact .inr hletter
        · -- what stands behind an underscore decides nothing about the word in front of it
          refine (ih hrest).imp_left ?_
          rintro ⟨left, right, rfl, rfl, hafter⟩
          refine ⟨c :: left, right, rfl, ?_, hafter⟩
          rw [beginsWord_head?, upperSnakeAfter]

/-- An underscore is written first only if it is the first of the name. -/
theorem upperSnake_eq_cons_iff {name after : List Char} :
    upperSnake name = '_' :: after ↔ ∃ right, name = '_' :: right ∧ after = upperSnake right := by
  constructor
  · intro hfirst
    cases name with
    | nil => cases hfirst
    | cons c rest =>
        -- no word begins with the first character, so the underscore is in its upper case
        obtain ⟨d, others, hd⟩ := List.exists_cons_of_ne_nil (upperForm_ne_nil c)
        have hhead : d = '_' := by
          rw [upperSnake, upperSnakeAfter, hd] at hfirst
          exact (List.cons.inj hfirst).1
        obtain rfl : c = '_' := underscore_mem_upperForm_iff.mp (by simp [hd, hhead])
        rw [upperSnake, upperSnakeAfter_cons_underscore] at hfirst
        exact ⟨rest, rfl, (List.cons.inj hfirst).2.symm⟩
  · rintro ⟨right, rfl, rfl⟩
    exact upperSnakeAfter_cons_underscore right

/-- An underscore is written last only if it is the last of the name. -/
theorem upperSnake_eq_concat_iff {name front : List Char} :
    upperSnake name = front ++ ['_'] ↔ ∃ left, name = left ++ ['_'] ∧ front = upperSnake left := by
  constructor
  · intro hlast
    rcases underscore_cases hlast with ⟨left, right, rfl, hfront, hright⟩ | ⟨c, rest, hrest, -⟩
    · obtain rfl : right = [] := upperSnakeAfter_eq_nil_iff.mp hright.symm
      exact ⟨left, rfl, hfront⟩
    · cases hrest
  · rintro ⟨left, rfl, rfl⟩
    exact upperSnake_append_underscore left []

/-- Two underscores are written next to each other only where the name has two. -/
theorem upperSnake_eq_append_iff {name front after : List Char} :
    upperSnake name = front ++ '_' :: '_' :: after ↔
      ∃ left right, name = left ++ '_' :: '_' :: right ∧ front = upperSnake left ∧
        after = upperSnake right := by
  constructor
  · intro hpair
    rcases underscore_cases hpair with ⟨left, right, rfl, hfront, hright⟩ | ⟨c, rest, hrest, hc⟩
    · obtain ⟨others, rfl, hafter⟩ := upperSnake_eq_cons_iff.mp hright.symm
      exact ⟨left, others, rfl, hfront, hafter⟩
    · exact absurd (List.cons.inj hrest).1.symm hc
  · rintro ⟨left, right, rfl, rfl, rfl⟩
    rw [upperSnake_append_underscore]
    exact congrArg _ (congrArg _ (upperSnakeAfter_cons_underscore right))

/-- **Upper snake case adds word breaks and nothing else.**  Without underscores it is the
upper case of the name without underscores, character by character.  It begins or ends with an
underscore, or has two next to each other, only where the name does, and what stands around
them is the upper snake case of what stands around them in the name.  So two names have the
same upper snake case only if they are equal without underscores and in upper case. -/
theorem upperSnake_adds_only_breaks (name : List Char) :
    withoutBreaks (upperSnake name) = (withoutBreaks name).flatMap upperForm ∧
    (∀ after, upperSnake name = '_' :: after ↔
      ∃ right, name = '_' :: right ∧ after = upperSnake right) ∧
    (∀ front, upperSnake name = front ++ ['_'] ↔
      ∃ left, name = left ++ ['_'] ∧ front = upperSnake left) ∧
    (∀ front after, upperSnake name = front ++ '_' :: '_' :: after ↔
      ∃ left right, name = left ++ '_' :: '_' :: right ∧ front = upperSnake left ∧
        after = upperSnake right) ∧
    ∀ other, upperSnake name = upperSnake other →
      (withoutBreaks name).flatMap upperForm = (withoutBreaks other).flatMap upperForm := by
  have hletters (name : List Char) :
      withoutBreaks (upperSnake name) = (withoutBreaks name).flatMap upperForm :=
    withoutBreaks_upperSnakeAfter none name
  refine ⟨hletters name, fun _ => upperSnake_eq_cons_iff, fun _ => upperSnake_eq_concat_iff,
    fun _ _ => upperSnake_eq_append_iff, ?_⟩
  intro other hsame
  rw [← hletters, ← hletters, hsame]

/-- An acronym and a word in lower case have the same upper snake case. -/
theorem upperSnake_httpServer :
    upperSnake "HTTPServer".toList = upperSnake "httpServer".toList ∧
      (withoutBreaks "HTTPServer".toList).flatMap upperForm =
        (withoutBreaks "httpServer".toList).flatMap upperForm := by
  have hsame : upperSnake "HTTPServer".toList = upperSnake "httpServer".toList := by decide +kernel
  exact ⟨hsame, (upperSnake_adds_only_breaks _).2.2.2.2 _ hsame⟩

end PersistLayer.Text
