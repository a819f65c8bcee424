import Mathlib.Data.List.TakeWhile
import PersistLayer.Proofs.Scanner.Outline

/-!
# The grammar of balanced text

Balanced text is a sequence of blanks, comments, string literals, template
literals, bracketed groups and other characters.  A group holds balanced text
between two brackets that belong together, and a template literal holds balanced
text in each of its interpolations.

Two of the rules look at what follows: a comment reaches up to the next line
feed or the end of the whole text, and a slash stands alone only when no other
slash follows it.  The grammar therefore relates a text to what is left of it,
and a whole text is balanced when nothing is left.

`faults_eq_nil_iff_balanced` says that the scanner finds no fault exactly in
balanced text.  The proof reads the grammar along the outline of the scanner:
`Outline.Completes` says which texts close what an outline has open, and
`Outline.completes_cons_iff` that a step of the outline takes one character off
such a text.
-/

namespace PersistLayer.Syntax

/-! ## The rules -/

/-- A character that is a piece of balanced text by itself: neither a blank nor a
bracket, a double quote or a backtick.  A slash is one unless it begins a comment. -/
def isOther (c : Char) : Bool :=
  !(Text.isBlank c || isOpener c || isCloser c || c == '"' || c == backtick)

/-- The text ends here or goes on with a line feed. -/
def endsLine (text : List Char) : Bool := text.head?.all (· == '\n')

/-- The rest of a string literal behind its opening quote, and what is left behind
the closing one. -/
inductive StringTail : List Char → List Char → Prop
  | close {left : List Char} : StringTail ('"' :: left) left
  | plain {c : Char} {rest left : List Char} (hquote : c ≠ '"') (hescape : c ≠ '\\')
      (hfeed : c ≠ '\n') : StringTail rest left → StringTail (c :: rest) left
  | escaped {c : Char} {rest left : List Char} :
      StringTail rest left → StringTail ('\\' :: c :: rest) left

mutual

/-- `Code text left`: a sequence of pieces of balanced text leads from `text` to
what is left of it. -/
inductive Code : List Char → List Char → Prop
  | done {text : List Char} : Code text text
  | blank {c : Char} {rest left : List Char} (hblank : Text.isBlank c = true) :
      Code rest left → Code (c :: rest) left
  | comment {words rest left : List Char} (hwords : '\n' ∉ words)
      (hend : endsLine rest = true) :
      Code rest left → Code ('/' :: '/' :: (words ++ rest)) left
  | string {tail rest left : List Char} :
      StringTail tail rest → Code rest left → Code ('"' :: tail) left
  | template {tail rest left : List Char} :
      TemplateTail tail rest → Code rest left → Code (backtick :: tail) left
  | group {opener : Char} {inner rest left : List Char} (hopener : isOpener opener = true) :
      Code inner (closerOf opener :: rest) → Code rest left → Code (opener :: inner) left
  | other {c : Char} {rest left : List Char} (hother : isOther c = true)
      (hslash : c = '/' → rest.head? ≠ some '/') : Code rest left → Code (c :: rest) left

/-- The rest of a template literal behind its opening backtick, and what is left
behind the closing one. -/
inductive TemplateTail : List Char → List Char → Prop
  | close {left : List Char} : TemplateTail (backtick :: left) left
  | plain {c : Char} {rest left : List Char} (hbacktick : c ≠ backtick)
      (hdollar : c = '$' → rest.head? ≠ some '{') :
      TemplateTail rest left → TemplateTail (c :: rest) left
  | interpolation {inner rest left : List Char} :
      Code inner ('}' :: rest) → TemplateTail rest left →
        TemplateTail ('$' :: '{' :: inner) left

end

/-- The whole text is a sequence of pieces of balanced text. -/
def Balanced (text : List Char) : Prop := Code text []

/-! ## Reading the rules backwards -/

theorem stringTail_cons_iff {c : Char} {rest left : List Char} :
    StringTail (c :: rest) left ↔
      (c = '"' ∧ left = rest) ∨
      (c ≠ '"' ∧ c ≠ '\\' ∧ c ≠ '\n' ∧ StringTail rest left) ∨
      (c = '\\' ∧ ∃ next more, rest = next :: more ∧ StringTail more left) := by
  constructor
  · intro h
    cases h with
    | close => simp
    | plain hquote hescape hfeed htail => exact Or.inr (Or.inl ⟨hquote, hescape, hfeed, htail⟩)
    | escaped htail => exact Or.inr (Or.inr ⟨rfl, _, _, rfl, htail⟩)
  · rintro (⟨rfl, rfl⟩ | ⟨hquote, hescape, hfeed, htail⟩ | ⟨rfl, next, more, rfl, htail⟩)
    · exact .close
    · exact .plain hquote hescape hfeed htail
    · exact .escaped htail

theorem templateTail_cons_iff {c : Char} {rest left : List Char} :
    TemplateTail (c :: rest) left ↔
      (c = backtick ∧ left = rest) ∨
      (c ≠ backtick ∧ (c = '$' → rest.head? ≠ some '{') ∧ TemplateTail rest left) ∨
      (c = '$' ∧ ∃ inner more, rest = '{' :: inner ∧ Code inner ('}' :: more) ∧
        TemplateTail more left) := by
  constructor
  · intro h
    generalize htext : c :: rest = text at h
    cases h with
    | close =>
        cases htext
        simp
    | plain hbacktick hdollar htail =>
        cases htext
        exact Or.inr (Or.inl ⟨hbacktick, hdollar, htail⟩)
    | interpolation hcode htail =>
        cases htext
        exact Or.inr (Or.inr ⟨rfl, _, _, rfl, hcode, htail⟩)
  · rintro (⟨rfl, rfl⟩ | ⟨hbacktick, hdollar, htail⟩ | ⟨rfl, inner, more, rfl, hcode, htail⟩)
    · exact .close
    · exact .plain hbacktick hdollar htail
    · exact .interpolation hcode htail

theorem code_cons_iff {c : Char} {rest left : List Char} :
    Code (c :: rest) left ↔
      left = c :: rest ∨
      (Text.isBlank c = true ∧ Code rest left) ∨
      (c = '/' ∧ ∃ words more, rest = '/' :: (words ++ more) ∧ '\n' ∉ words ∧
        endsLine more = true ∧ Code more left) ∨
      (c = '"' ∧ ∃ more, StringTail rest more ∧ Code more left) ∨
      (c = backtick ∧ ∃ more, TemplateTail rest more ∧ Code more left) ∨
      (isOpener c = true ∧ ∃ more, Code rest (closerOf c :: more) ∧ Code more left) ∨
      (isOther c = true ∧ (c = '/' → rest.head? ≠ some '/') ∧ Code rest left) := by
  constructor
  · intro h
    generalize htext : c :: rest = text at h
    cases h with
    | done => exact Or.inl rfl
    | blank hblank hrest =>
        cases htext
        exact Or.inr (Or.inl ⟨hblank, hrest⟩)
    | comment hwords hend hrest =>
        cases htext
        exact Or.inr (Or.inr (Or.inl ⟨rfl, _, _, rfl, hwords, hend, hrest⟩))
    | string htail hrest =>
        cases htext
        exact Or.inr (Or.inr (Or.inr (Or.inl ⟨rfl, _, htail, hrest⟩)))
    | template htail hrest =>
        cases htext
        exact Or.inr (Or.inr (Or.inr (Or.inr (Or.inl ⟨rfl, _, htail, hrest⟩))))
    | group hopener hinner hrest =>
        cases htext
        exact Or.inr (Or.inr (Or.inr (Or.inr (Or.inr (Or.inl ⟨hopener, _, hinner, hrest⟩)))))
    | other hother hslash hrest =>
        cases htext
        exact Or.inr (Or.inr (Or.inr (Or.inr (Or.inr (Or.inr ⟨hother, hslash, hrest⟩)))))
  · rintro (rfl | ⟨hblank, hrest⟩ | ⟨rfl, words, more, rfl, hwords, hend, hrest⟩ |
      ⟨rfl, more, htail, hrest⟩ | ⟨rfl, more, htail, hrest⟩ | ⟨hopener, more, hinner, hrest⟩ |
      ⟨hother, hslash, hrest⟩)
    · exact .done
    · exact .blank hblank hrest
    · exact .comment hwords hend hrest
    · exact .string htail hrest
    · exact .template htail hrest
    · exact .group hopener hinner hrest
    · exact .other hother hslash hrest

@[simp] theorem not_stringTail_nil {left : List Char} : ¬ StringTail [] left := nofun

@[simp] theorem not_templateTail_nil {left : List Char} : ¬ TemplateTail [] left := nofun

theorem code_nil_iff {left : List Char} : Code [] left ↔ left = [] := by
  constructor
  · intro h
    cases h
    rfl
  · rintro rfl
    exact .done

/-! ## What closes an outline -/

/-- What is left behind code closes the enclosures around it, with balanced text
after each of them up to the end. -/
def Closes : List Enclosure → List Char → Prop
  | [], text => text = []
  | .bracket opener :: outer, text =>
    ∃ rest left, text = closerOf opener :: rest ∧ Code rest left ∧ Closes outer left
  | .interpolation :: outer, text =>
    ∃ rest tail left, text = '}' :: rest ∧ TemplateTail rest tail ∧ Code tail left ∧
      Closes outer left

/-- The text goes on with code and then closes the enclosures around it. -/
def CodeCloses (enclosures : List Enclosure) (text : List Char) : Prop :=
  ∃ left, Code text left ∧ Closes enclosures left

/-- The text goes on from an outline and closes all that is open. -/
def Outline.Completes (outline : Outline) (text : List Char) : Prop :=
  match outline.phase with
  | .code => CodeCloses outline.enclosures text
  | .slash => CodeCloses outline.enclosures ('/' :: text)
  | .comment => CodeCloses outline.enclosures (text.dropWhile (· ≠ '\n'))
  | .string escaped =>
    ∃ left, StringTail (if escaped then '\\' :: text else text) left ∧
      CodeCloses outline.enclosures left
  | .template dollar =>
    ∃ left, TemplateTail (if dollar then '$' :: text else text) left ∧
      CodeCloses outline.enclosures left

/-- What closes an enclosure begins with a closing bracket. -/
theorem ne_cons_of_closes {enclosures : List Enclosure} {left rest : List Char} {c : Char}
    (hcloses : Closes enclosures left) (hc : isCloser c = false) : left ≠ c :: rest := by
  rintro rfl
  have hcloser : isCloser c = true := by
    rcases enclosures with _ | ⟨opener | _, outer⟩
    · cases hcloses
    · obtain ⟨more, left, htext, -⟩ := hcloses
      cases htext
      unfold closerOf
      split_ifs <;> rfl
    · obtain ⟨more, tail, left, htext, -⟩ := hcloses
      cases htext
      rfl
  rw [hcloser] at hc
  exact Bool.false_ne_true hc.symm

theorem codeCloses_nil_iff {enclosures : List Enclosure} :
    CodeCloses enclosures [] ↔ enclosures = [] := by
  simp only [CodeCloses, code_nil_iff, exists_eq_left]
  rcases enclosures with _ | ⟨opener | _, outer⟩ <;> simp [Closes]

/-! ## Characters of code -/

/-- An inert character is neither of the given delimiters nor a bracket. -/
theorem ne_of_isInert {c : Char} (hc : isInert c = true) :
    c ≠ '/' ∧ c ≠ '"' ∧ c ≠ backtick ∧ isOpener c = false ∧ isCloser c = false := by
  simp only [isInert, delimiters, List.contains_cons, List.contains_nil, Bool.or_false,
    Bool.not_eq_true', Bool.or_eq_false_iff, beq_eq_false_iff_ne] at hc
  simp [isOpener, isCloser, hc]

section Characters

variable {enclosures : List Enclosure} {c : Char} {rest : List Char}

theorem codeCloses_of_isInert (hc : isInert c = true) :
    CodeCloses enclosures (c :: rest) ↔ CodeCloses enclosures rest := by
  obtain ⟨hslash, hquote, hbacktick, hopener, hcloser⟩ := ne_of_isInert hc
  constructor
  · rintro ⟨left, hcode, hcloses⟩
    rcases code_cons_iff.mp hcode with hdone | ⟨-, hrest⟩ | ⟨rfl, -⟩ | ⟨rfl, -⟩ | ⟨rfl, -⟩ |
      ⟨hopens, -⟩ | ⟨-, -, hrest⟩
    · exact absurd hdone (ne_cons_of_closes hcloses hcloser)
    · exact ⟨left, hrest, hcloses⟩
    · exact absurd rfl hslash
    · exact absurd rfl hquote
    · exact absurd rfl hbacktick
    · simp [hopener] at hopens
    · exact ⟨left, hrest, hcloses⟩
  · rintro ⟨left, hcode, hcloses⟩
    refine ⟨left, ?_, hcloses⟩
    by_cases hblank : Text.isBlank c = true
    · exact .blank hblank hcode
    · refine .other ?_ (fun h => absurd h hslash) hcode
      simp [isOther, hblank, hquote, hbacktick, hopener, hcloser]

/-- A slash that begins no comment. -/
theorem codeCloses_slash (hrest : rest.head? ≠ some '/') :
    CodeCloses enclosures ('/' :: rest) ↔ CodeCloses enclosures rest := by
  constructor
  · rintro ⟨left, hcode, hcloses⟩
    rcases code_cons_iff.mp hcode with hdone | ⟨hblank, -⟩ | ⟨-, words, more, rfl, -⟩ | ⟨hc, -⟩ |
      ⟨hc, -⟩ | ⟨hopens, -⟩ | ⟨-, -, hcode⟩
    · exact absurd hdone (ne_cons_of_closes hcloses rfl)
    · exact absurd hblank (by decide)
    · exact absurd rfl hrest
    · exact absurd hc (by decide)
    · exact absurd hc (by decide)
    · exact absurd hopens (by decide)
    · exact ⟨left, hcode, hcloses⟩
  · rintro ⟨left, hcode, hcloses⟩
    exact ⟨left, .other (by decide) (fun _ => hrest) hcode, hcloses⟩

/-- A comment. -/
theorem codeCloses_comment :
    CodeCloses enclosures ('/' :: '/' :: rest) ↔
      CodeCloses enclosures (rest.dropWhile (· ≠ '\n')) := by
  constructor
  · rintro ⟨left, hcode, hcloses⟩
    rcases code_cons_iff.mp hcode with hdone | ⟨hblank, -⟩ |
      ⟨-, words, more, hrest, hwords, hend, hmore⟩ | ⟨hc, -⟩ | ⟨hc, -⟩ | ⟨hopens, -⟩ | ⟨-, hslash, -⟩
    · exact absurd hdone (ne_cons_of_closes hcloses rfl)
    · exact absurd hblank (by decide)
    · -- the words of the comment hold no line feed, so they are what is dropped
      cases hrest
      refine ⟨left, ?_, hcloses⟩
      have hkept : ∀ c ∈ words, decide (c ≠ '\n') = true := by
        intro c hc
        have hne : c ≠ '\n' := fun heq => hwords (heq ▸ hc)
        simpa using hne
      rw [List.dropWhile_append_of_pos hkept]
      rcases more with _ | ⟨c, more⟩
      · exact hmore
      · have hfeed : c = '\n' := by simpa [endsLine] using hend
        rw [List.dropWhile_cons_of_neg (by simp [hfeed])]
        exact hmore
    · exact absurd hc (by decide)
    · exact absurd hc (by decide)
    · exact absurd hopens (by decide)
    · -- a slash in front of another slash is no character of its own
      exact absurd rfl (hslash rfl)
  · rintro ⟨left, hcode, hcloses⟩
    refine ⟨left, ?_, hcloses⟩
    rw [← List.takeWhile_append_dropWhile (p := (· ≠ '\n')) (l := rest)]
    refine .comment ?_ ?_ hcode
    · intro hmem
      simpa using List.mem_takeWhile_imp hmem
    · cases hmore : rest.dropWhile (· ≠ '\n') with
      | nil => rfl
      | cons c more =>
          have hhead := List.head?_dropWhile_not (· ≠ '\n') rest
          rw [hmore] at hhead
          simpa [endsLine] using hhead

theorem codeCloses_quote :
    CodeCloses enclosures ('"' :: rest) ↔
      ∃ left, StringTail rest left ∧ CodeCloses enclosures left := by
  constructor
  · rintro ⟨left, hcode, hcloses⟩
    rcases code_cons_iff.mp hcode with hdone | ⟨hblank, -⟩ | ⟨hc, -⟩ | ⟨-, more, htail, hmore⟩ |
      ⟨hc, -⟩ | ⟨hopens, -⟩ | ⟨hother, -⟩
    · exact absurd hdone (ne_cons_of_closes hcloses rfl)
    · exact absurd hblank (by decide)
    · exact absurd hc (by decide)
    · exact ⟨more, htail, left, hmore, hcloses⟩
    · exact absurd hc (by decide)
    · exact absurd hopens (by decide)
    · exact absurd hother (by decide)
  · rintro ⟨more, htail, left, hmore, hcloses⟩
    exact ⟨left, .string htail hmore, hcloses⟩

theorem codeCloses_backtick :
    CodeCloses enclosures (backtick :: rest) ↔
      ∃ left, TemplateTail rest left ∧ CodeCloses enclosures left := by
  constructor
  · rintro ⟨left, hcode, hcloses⟩
    rcases code_cons_iff.mp hcode with hdone | ⟨hblank, -⟩ | ⟨hc, -⟩ | ⟨hc, -⟩ |
      ⟨-, more, htail, hmore⟩ | ⟨hopens, -⟩ | ⟨hother, -⟩
    · exact absurd hdone (ne_cons_of_closes hcloses rfl)
    · exact absurd hblank (by decide)
    · exact absurd hc (by decide)
    · exact absurd hc (by decide)
    · exact ⟨more, htail, left, hmore, hcloses⟩
    · exact absurd hopens (by decide)
    · exact absurd hother (by decide)
  · rintro ⟨more, htail, left, hmore, hcloses⟩
    exact ⟨left, .template htail hmore, hcloses⟩

theorem ne_of_isOpener (hc : isOpener c = true) :
    isInert c = false ∧ c ≠ '/' ∧ c ≠ '"' ∧ c ≠ backtick ∧ Text.isBlank c = false ∧
      isCloser c = false ∧ isOther c = false := by
  simp only [isOpener, Bool.or_eq_true, beq_iff_eq] at hc
  rcases hc with (rfl | rfl) | rfl <;> decide

theorem codeCloses_opener (hc : isOpener c = true) :
    CodeCloses enclosures (c :: rest) ↔ CodeCloses (.bracket c :: enclosures) rest := by
  obtain ⟨-, hslash, hquote, hbacktick, hblank, hcloser, hother⟩ := ne_of_isOpener hc
  constructor
  · rintro ⟨left, hcode, hcloses⟩
    simp only [code_cons_iff, ne_cons_of_closes hcloses hcloser, hslash, hquote, hbacktick,
      hblank, hother, hc, Bool.false_eq_true, false_and, false_or, or_false, true_and] at hcode
    obtain ⟨more, hinner, hmore⟩ := hcode
    exact ⟨_, hinner, more, left, rfl, hmore, hcloses⟩
  · rintro ⟨_, hinner, more, left, rfl, hmore, hcloses⟩
    exact ⟨left, .group hc hinner hmore, hcloses⟩

/-- A closing bracket leads out of the innermost enclosure or nowhere. -/
theorem codeCloses_closer (hc : isCloser c = true) :
    CodeCloses enclosures (c :: rest) ↔ Closes enclosures (c :: rest) := by
  constructor
  · rintro ⟨left, hcode, hcloses⟩
    have hdone : left = c :: rest := by
      simp only [isCloser, Bool.or_eq_true, beq_iff_eq] at hc
      rcases hc with (rfl | rfl) | rfl <;>
        simpa [code_cons_iff, Text.isBlank, isOpener, isOther, isCloser, backtick] using hcode
    exact hdone ▸ hcloses
  · exact fun hcloses => ⟨_, .done, hcloses⟩

end Characters

/-! ## Steps of the outline -/

theorem Outline.completes_nil_iff {outline : Outline} :
    outline.Completes [] ↔ outline.isClosed = true := by
  obtain ⟨phase, enclosures⟩ := outline
  cases phase with
  | code => simp [Completes, isClosed, codeCloses_nil_iff]
  | slash =>
      have hslash := @codeCloses_slash enclosures [] (by simp)
      simp [Completes, isClosed, hslash, codeCloses_nil_iff]
  | comment => simp [Completes, isClosed, codeCloses_nil_iff]
  | string escaped => cases escaped <;> simp [Completes, isClosed, stringTail_cons_iff]
  | template dollar =>
      cases dollar <;> simp [Completes, isClosed, templateTail_cons_iff, backtick]

/-- Reading a character of code takes it off the texts that complete the outline. -/
theorem Outline.codeCloses_cons_iff {enclosures : List Enclosure} {c : Char}
    {rest : List Char} :
    CodeCloses enclosures (c :: rest) ↔
      ∃ next, codeStep enclosures c = some next ∧ next.Completes rest := by
  unfold codeStep
  split_ifs with hslash hquote hbacktick hopener hcloser
  · simp [Completes, hslash]
  · simp [Completes, hquote, codeCloses_quote]
  · simp [Completes, hbacktick, codeCloses_backtick]
  · simp [Completes, codeCloses_opener hopener]
  · -- a closing bracket has to close the innermost enclosure
    rw [codeCloses_closer hcloser]
    rcases enclosures with _ | ⟨opener | _, outer⟩
    · simp [close, Closes]
    · by_cases hmatch : closerOf opener = c
      · simp [close, Closes, Completes, CodeCloses, hmatch]
      · simp [close, Closes, hmatch, Ne.symm hmatch]
    · by_cases hbrace : c = '}'
      · simp [close, Closes, Completes, CodeCloses, hbrace]
      · simp [close, Closes, hbrace]
  · have hinert : isInert c = true := by
      simp only [isOpener, isCloser, Bool.or_eq_true, beq_iff_eq, not_or] at hopener hcloser
      simp [isInert, delimiters, hslash, hquote, hbacktick, hopener, hcloser]
    simp [Completes, codeCloses_of_isInert hinert]

/-- A dollar sign in the text of a template literal, when it opens no interpolation. -/
theorem templateTail_dollar {c : Char} {rest left : List Char} (hc : c ≠ '{') :
    TemplateTail ('$' :: c :: rest) left ↔ TemplateTail (c :: rest) left := by
  rw [templateTail_cons_iff]
  simp [backtick, hc]

theorem Outline.completes_template_cons_iff {enclosures : List Enclosure} {c : Char}
    {rest : List Char} :
    Completes ⟨.template false, enclosures⟩ (c :: rest) ↔
      ∃ next, step ⟨.template false, enclosures⟩ c = some next ∧ next.Completes rest := by
  by_cases hbacktick : c = backtick
  · simp [step, Completes, hbacktick, templateTail_cons_iff, backtick]
  · by_cases hfeed : c = '\n'
    · simp [step, Completes, hfeed, templateTail_cons_iff, backtick]
    · by_cases hdollar : c = '$'
      · simp [step, Completes, hdollar, backtick]
      · simp [step, Completes, hbacktick, hfeed, hdollar, templateTail_cons_iff]

/-- The text behind an opened interpolation. -/
theorem codeCloses_interpolation {enclosures : List Enclosure} {rest : List Char} :
    CodeCloses (.interpolation :: enclosures) rest ↔
      ∃ left, TemplateTail ('$' :: '{' :: rest) left ∧ CodeCloses enclosures left := by
  have htail : ∀ left, TemplateTail ('$' :: '{' :: rest) left ↔
      ∃ more, Code rest ('}' :: more) ∧ TemplateTail more left := by
    intro left
    simp [templateTail_cons_iff (c := '$'), backtick]
  simp only [htail]
  constructor
  · rintro ⟨_, hcode, more, tail, left, rfl, htail, hleft, hcloses⟩
    exact ⟨tail, ⟨more, hcode, htail⟩, left, hleft, hcloses⟩
  · rintro ⟨tail, ⟨more, hcode, htail⟩, left, hleft, hcloses⟩
    exact ⟨_, hcode, more, tail, left, rfl, htail, hleft, hcloses⟩

/-- Reading a character takes it off the texts that complete the outline. -/
theorem Outline.completes_cons_iff {outline : Outline} {c : Char} {rest : List Char} :
    outline.Completes (c :: rest) ↔
      ∃ next, outline.step c = some next ∧ next.Completes rest := by
  obtain ⟨phase, enclosures⟩ := outline
  cases phase with
  | code => exact codeCloses_cons_iff
  | slash =>
      by_cases hslash : c = '/'
      · simp [step, Completes, hslash, codeCloses_comment]
      · -- a slash alone is a character of code, and so is what follows it
        have hcode : Completes ⟨.slash, enclosures⟩ (c :: rest) ↔ CodeCloses enclosures (c :: rest) :=
          codeCloses_slash (by simpa using hslash)
        rw [hcode, codeCloses_cons_iff]
        simp [step, hslash]
  | comment =>
      by_cases hfeed : c = '\n'
      · have hcode : Completes ⟨.comment, enclosures⟩ (c :: rest) ↔ CodeCloses enclosures rest := by
          rw [hfeed]
          exact codeCloses_of_isInert (by decide)
        rw [hcode]
        simp [step, hfeed, Completes]
      · simp [step, Completes, hfeed]
  | string escaped =>
      cases escaped with
      | true => simp [step, Completes, stringTail_cons_iff]
      | false =>
          by_cases hquote : c = '"'
          · simp [step, Completes, hquote, stringTail_cons_iff]
          · by_cases hfeed : c = '\n'
            · simp [step, Completes, hfeed, stringTail_cons_iff]
            · by_cases hescape : c = '\\'
              · simp [step, Completes, hescape]
              · simp [step, Completes, hquote, hfeed, hescape, stringTail_cons_iff]
  | template dollar =>
      cases dollar with
      | false => exact completes_template_cons_iff
      | true =>
          -- behind a dollar sign an open brace begins an interpolation
          by_cases hbrace : c = '{'
          · simp [step, Completes, hbrace, backtick, codeCloses_interpolation]
          · have hstep : step ⟨.template true, enclosures⟩ c =
                step ⟨.template false, enclosures⟩ c := by simp [step, hbrace]
            rw [hstep, ← completes_template_cons_iff]
            simp [Completes, templateTail_dollar hbrace]

/-! ## Balanced texts -/

theorem Outline.completes_iff (outline : Outline) (text : List Char) :
    outline.Completes text ↔ ∃ last, outline.run text = some last ∧ last.isClosed = true := by
  induction text generalizing outline with
  | nil => simp [completes_nil_iff]
  | cons c rest ih =>
      rw [completes_cons_iff, run_cons]
      cases outline.step c with
      | none => simp
      | some next => simp [ih]

/-- Balanced texts are those that complete the outline of nothing read. -/
theorem balanced_iff_completes (text : List Char) :
    Balanced text ↔ Outline.initial.Completes text := by
  simp [Balanced, Outline.Completes, Outline.initial, CodeCloses, Closes]

theorem faults_eq_nil_iff (text : String) : faults text = [] ↔ Balanced text.toList := by
  rw [faults_eq_nil_iff_outline, balanced_iff_completes, Outline.completes_iff]

/-- Tokens are given exactly where there is no fault. -/
theorem exists_tokenize_iff (text : String) :
    (∃ scanned, tokenize text = .ok scanned) ↔ faults text = [] := by
  simp [tokenize_eq_ok_iff, faults, errorsIn_eq_nil_iff]

/-- **The scanner accepts exactly balanced text.**  It finds no fault in a text, and
equivalently gives its tokens, just when the grammar derives the text. -/
theorem faults_eq_nil_iff_balanced (text : String) :
    (faults text = [] ↔ Balanced text.toList) ∧
      ((∃ scanned, tokenize text = .ok scanned) ↔ Balanced text.toList) :=
  ⟨faults_eq_nil_iff text, (exists_tokenize_iff text).trans (faults_eq_nil_iff text)⟩

end PersistLayer.Syntax
