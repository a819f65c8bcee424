import PersistLayer.Proofs.Scanner.Run

/-!
# Texts that differ in their layout

Taking the indent off the lines of a text, trimming their ends and indenting them
again changes nothing but the blanks next to the line breaks.  `Reindented` says
so of two texts.

Between tokens such blanks do not count, but in a literal they are text.
`Relaid` therefore follows the scanner: blanks may be taken away in front of any
line break, while those behind it stay where the scanner comes into the text of a
template literal.
-/

namespace PersistLayer.Syntax

/-- Blanks on one line. -/
def IsMargin (blanks : List Char) : Prop := ∀ c ∈ blanks, Text.isBlank c = true ∧ c ≠ '\n'

@[simp] theorem isMargin_nil : IsMargin [] := by simp [IsMargin]

theorem isMargin_append {front back : List Char} :
    IsMargin (front ++ back) ↔ IsMargin front ∧ IsMargin back :=
  List.forall_mem_append

theorem IsMargin.not_mem {blanks : List Char} (hmargin : IsMargin blanks) : '\n' ∉ blanks :=
  fun hmem => (hmargin _ hmem).2 rfl

theorem isMargin_of_allBlank {blanks : List Char} (hblank : Text.allBlank blanks = true)
    (hline : '\n' ∉ blanks) : IsMargin blanks :=
  fun c hc => ⟨List.all_eq_true.mp hblank c hc, fun hfeed => hline (hfeed ▸ hc)⟩

/-! ## Texts alike but for margins -/

/-- Two texts differ only in the blanks next to their line breaks. -/
inductive Reindented : List Char → List Char → Prop where
  | nil : Reindented [] []
  | cons (c : Char) {text other : List Char} (rest : Reindented text other) :
      Reindented (c :: text) (c :: other)
  | lineBreak {trail trail' lead lead' text other : List Char} (htrail : IsMargin trail)
      (htrail' : IsMargin trail') (hlead : IsMargin lead) (hlead' : IsMargin lead')
      (rest : Reindented text other) :
      Reindented (trail ++ '\n' :: (lead ++ text)) (trail' ++ '\n' :: (lead' ++ other))

theorem Reindented.refl (text : List Char) : Reindented text text := by
  induction text with
  | nil => exact nil
  | cons c rest ih => exact cons c ih

theorem Reindented.append {front front' back back' : List Char} (hfront : Reindented front front')
    (hback : Reindented back back') : Reindented (front ++ back) (front' ++ back') := by
  induction hfront with
  | nil => exact hback
  | cons c _ ih => exact cons c ih
  | lineBreak htrail htrail' hlead hlead' _ ih =>
      simpa using lineBreak htrail htrail' hlead hlead' ih

/-- On one line nothing differs. -/
theorem Reindented.eq_of_not_mem {text other : List Char} (h : Reindented text other)
    (hline : '\n' ∉ text) : other = text := by
  induction h with
  | nil => rfl
  | cons c _ ih => rw [ih fun hmem => hline (List.mem_cons_of_mem _ hmem)]
  | lineBreak => simp at hline

/-! ## Texts that a scanner reads alike -/

/-- A text is written with other blanks next to its line breaks than the scanner
finds there.  The blanks that begin a line in a template literal are kept. -/
inductive Relaid : Scanner → List Char → List Char → Prop where
  | nil (scanner : Scanner) : Relaid scanner [] []
  | cons {scanner : Scanner} (c : Char) {text written : List Char}
      (rest : Relaid (scanner.step c).1 text written) :
      Relaid scanner (c :: text) (c :: written)
  | lineBreak {scanner : Scanner} {trail lead lead' text written : List Char}
      (htrail : IsMargin trail) (hlead : IsMargin lead) (hlead' : IsMargin lead')
      (hkept : ∀ dollar, (scanner.run (trail ++ ['\n'])).mode = .template dollar → lead' = lead)
      (rest : Relaid (scanner.run (trail ++ '\n' :: lead)) text written) :
      Relaid scanner (trail ++ '\n' :: (lead ++ text)) ('\n' :: (lead' ++ written))

theorem Relaid.copy {scanner : Scanner} (front : List Char) {text written : List Char}
    (h : Relaid (scanner.run front) text written) :
    Relaid scanner (front ++ text) (front ++ written) := by
  induction front generalizing scanner with
  | nil => exact h
  | cons c rest ih => exact cons c (ih h)

/-- A text that begins with no blank is written with the same first character. -/
theorem Relaid.head?_eq {scanner : Scanner} {text written : List Char}
    (h : Relaid scanner text written) (hfirst : ∀ c ∈ text.head?, Text.isBlank c = false) :
    written.head? = text.head? := by
  cases h with
  | nil => rfl
  | cons => rfl
  | @lineBreak _ trail lead lead' text written htrail =>
      exfalso
      cases trail with
      | nil => exact absurd (hfirst '\n' rfl) (by decide)
      | cons c rest =>
          have hblank := (htrail c List.mem_cons_self).1
          rw [hfirst c rfl] at hblank
          cases hblank

/-- A text that ends with no blank is written with the same last character. -/
theorem Relaid.getLast?_eq {scanner : Scanner} {text written : List Char}
    (h : Relaid scanner text written) (hlast : ∀ c ∈ text.getLast?, Text.isBlank c = false) :
    written.getLast? = text.getLast? := by
  induction h with
  | nil => rfl
  | @cons scanner c text written _ ih =>
      have hrest : ∀ d ∈ text.getLast?, Text.isBlank d = false := by
        intro d hd
        refine hlast d ?_
        rw [List.getLast?_cons, Option.mem_def.mp hd]
        rfl
      rw [List.getLast?_cons, List.getLast?_cons, ih hrest]
  | @lineBreak scanner trail lead lead' text written htrail hlead hlead' _ _ ih =>
      have hsplit : trail ++ '\n' :: (lead ++ text) = (trail ++ '\n' :: lead) ++ text := by simp
      rw [hsplit] at hlast ⊢
      have hrest : ∀ d ∈ text.getLast?, Text.isBlank d = false := by
        intro d hd
        exact hlast d (List.mem_getLast?_append_of_mem_getLast? hd)
      -- with nothing behind the line break, the text would end with a blank
      have hne : text ≠ [] := by
        rintro rfl
        rw [List.append_nil, List.getLast?_append_of_ne_nil _ (by simp)] at hlast
        obtain ⟨d, hd⟩ : ∃ d, ('\n' :: lead).getLast? = some d :=
          ⟨_, List.getLast?_eq_some_getLast (by simp)⟩
        have hblank : Text.isBlank d = true := by
          rcases List.mem_cons.mp (List.mem_of_getLast? hd) with rfl | hmem
          · decide
          · exact (hlead d hmem).1
        rw [hlast d hd] at hblank
        cases hblank
      obtain ⟨d, hd⟩ : ∃ d, text.getLast? = some d := ⟨_, List.getLast?_eq_some_getLast hne⟩
      have hwritten := ih hrest
      rw [← List.cons_append, List.getLast?_append, hwritten, List.getLast?_append, hd]
      rfl

end PersistLayer.Syntax
