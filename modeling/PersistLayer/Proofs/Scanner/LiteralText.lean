import PersistLayer.Proofs.Scanner.Grammar
import PersistLayer.Proofs.Scanner.LiteralLines

/-!
# What stands in the text of a template literal

The grammar of balanced text says where a place in a text is: in code, inside some brackets
and interpolations (`CodeAt`), or directly in the text of a template literal that stands in
such code (`TemplateAt`).  The code of an interpolation is not text of the literal, but a
template literal in that code has text of its own.

The lines that the scanner reports are those that begin behind a line feed in the text of a
literal (`mem_literalLines_iff`).  One direction follows the grammar: a place that it
finds in a literal is one where the outline of the scanner reads a template
(`TemplateAt.exists_run`).  The other follows the outline, which knows at every character
where the grammar is (`Outline.At`, preserved by each step).
-/

namespace PersistLayer.Syntax

/-! ## Places -/

/-- Characters and interpolations lead from a place in the text of a template literal to one
further on in the text of the same literal. -/
inductive TemplateText : List Char → List Char → Prop
  | done {text : List Char} : TemplateText text text
  | plain {c : Char} {rest left : List Char} (hbacktick : c ≠ backtick)
      (hdollar : c = '$' → rest.head? ≠ some '{') :
      TemplateText rest left → TemplateText (c :: rest) left
  | interpolation {inner rest left : List Char} :
      Code inner ('}' :: rest) → TemplateText rest left →
        TemplateText ('$' :: '{' :: inner) left

/-- The rest of the text begins in code inside some brackets and interpolations, and in front
of it the text is balanced but for these. -/
def CodeAt (text : List Char) : List Enclosure → List Char → Prop
  | [], rest => Code text rest
  | .bracket opener :: outer, rest =>
    isOpener opener = true ∧ ∃ inner, CodeAt text outer (opener :: inner) ∧ Code inner rest
  | .interpolation :: outer, rest =>
    ∃ tail inner, CodeAt text outer (backtick :: tail) ∧
      TemplateText tail ('$' :: '{' :: inner) ∧ Code inner rest

/-- The rest of the text begins directly in the text of a template literal, which stands in
code inside some brackets and interpolations. -/
def TemplateAt (text : List Char) (enclosures : List Enclosure) (rest : List Char) : Prop :=
  ∃ tail, CodeAt text enclosures (backtick :: tail) ∧ TemplateText tail rest

/-! ## From the grammar to the outline -/

/-- The outline goes on with a text as code does inside the enclosures. -/
def Outline.Resumes (outline : Outline) (enclosures : List Enclosure) (text : List Char) : Prop :=
  ∀ c ∈ text.head?, outline.step c = codeStep enclosures c

theorem Outline.resumes_code (enclosures : List Enclosure) (text : List Char) :
    Outline.Resumes ⟨.code, enclosures⟩ enclosures text := fun _ _ => rfl

theorem Outline.Resumes.run_cons {outline : Outline} {enclosures : List Enclosure} {c : Char}
    {rest : List Char} (hresumes : outline.Resumes enclosures (c :: rest)) (front : List Char) :
    outline.run (c :: front) = (codeStep enclosures c).bind fun next => next.run front := by
  rw [Outline.run_cons, hresumes c rfl]

/-- Only the next character counts. -/
theorem Outline.Resumes.mono_cons {outline : Outline} {enclosures : List Enclosure} {c : Char}
    {rest : List Char} (hresumes : outline.Resumes enclosures (c :: rest)) (other : List Char) :
    outline.Resumes enclosures (c :: other) := fun d hd => hresumes d hd

/-- Behind a slash, code goes on unless a comment begins. -/
theorem Outline.resumes_slash {text : List Char} (htext : text.head? ≠ some '/')
    (enclosures : List Enclosure) : Outline.Resumes ⟨.slash, enclosures⟩ enclosures text := by
  intro c hc
  have hslash : c ≠ '/' := by
    rintro rfl
    exact htext hc
  simp [step, hslash]

theorem isInert_of_isOther {c : Char} (hother : isOther c = true) (hslash : c ≠ '/') :
    isInert c = true := by
  simp only [isOther, isOpener, isCloser, Bool.not_eq_true', Bool.or_eq_false_iff,
    beq_eq_false_iff_ne] at hother
  simp [isInert, delimiters, hslash, hother]

theorem Outline.step_template_plain {dollar : Bool} {c : Char} (hbacktick : c ≠ backtick)
    (hbrace : dollar = true → c ≠ '{') (enclosures : List Enclosure) :
    Outline.step ⟨.template dollar, enclosures⟩ c = some ⟨.template (c == '$'), enclosures⟩ := by
  have hopens : ¬ (dollar = true ∧ c = '{') := fun h => hbrace h.1 h.2
  by_cases hfeed : c = '\n'
  · simp [step, hfeed, backtick]
  · simp [step, hbacktick, hfeed, hopens]

/-- A dollar sign and a brace open an interpolation. -/
theorem Outline.run_interpolation (dollar : Bool) (enclosures : List Enclosure)
    (text : List Char) :
    Outline.run ⟨.template dollar, enclosures⟩ ('$' :: '{' :: text) =
      Outline.run ⟨.code, .interpolation :: enclosures⟩ text := by
  simp [run_cons, step, backtick]

/-- The rest of a string literal is read up to behind its closing quote. -/
theorem StringTail.exists_run {text left : List Char} (htail : StringTail text left)
    (enclosures : List Enclosure) :
    ∃ front, text = front ++ left ∧
      Outline.run ⟨.string false, enclosures⟩ front = some ⟨.code, enclosures⟩ := by
  induction htail with
  | close => exact ⟨['"'], rfl, by simp [Outline.run, Outline.step]⟩
  | @plain c rest left hquote hescape hfeed _ ih =>
      obtain ⟨front, rfl, hrun⟩ := ih
      refine ⟨c :: front, rfl, ?_⟩
      simp [Outline.run_cons, Outline.step, hquote, hescape, hfeed, hrun]
  | @escaped c rest left _ ih =>
      obtain ⟨front, rfl, hrun⟩ := ih
      refine ⟨'\\' :: c :: front, rfl, ?_⟩
      simp [Outline.run_cons, Outline.step, hrun]

theorem Outline.codeStep_opener {c : Char} (hc : isOpener c = true)
    (enclosures : List Enclosure) :
    codeStep enclosures c = some ⟨.code, .bracket c :: enclosures⟩ := by
  obtain ⟨-, hslash, hquote, hbacktick, -⟩ := ne_of_isOpener hc
  simp [codeStep, hslash, hquote, hbacktick, hc]

theorem Outline.codeStep_closer (opener : Char) (enclosures : List Enclosure) :
    codeStep (.bracket opener :: enclosures) (closerOf opener) = some ⟨.code, enclosures⟩ := by
  have hkind : closerOf opener = ')' ∨ closerOf opener = ']' ∨ closerOf opener = '\x7d' := by
    unfold closerOf
    split_ifs <;> simp
  have hclose : close (.bracket opener :: enclosures) (closerOf opener) =
      some ⟨.code, enclosures⟩ := by
    simp [close]
  rcases hkind with hkind | hkind | hkind <;>
    · rw [hkind] at hclose ⊢
      exact hclose

mutual

/-- Pieces of balanced text are read as code. -/
theorem Code.exists_run {text left : List Char} : Code text left →
    ∀ {enclosures : List Enclosure} {outline : Outline}, outline.Resumes enclosures text →
      ∃ front behind, text = front ++ left ∧ outline.run front = some behind ∧
        behind.Resumes enclosures left
  | .done, _, outline, hresumes => ⟨[], outline, rfl, rfl, hresumes⟩
  | .blank (c := c) hblank hrest, enclosures, outline, hresumes => by
      obtain ⟨front, behind, rfl, hrun, hbehind⟩ :=
        hrest.exists_run (Outline.resumes_code enclosures _)
      refine ⟨c :: front, behind, rfl, ?_, hbehind⟩
      rw [hresumes.run_cons, Outline.codeStep_of_isInert (isInert_of_isBlank hblank)]
      exact hrun
  | @Code.comment words rest _ hwords hend hrest, enclosures, outline, hresumes => by
      -- a comment ends at its line feed, so it can be resumed only there
      have hline : Outline.Resumes ⟨.comment, enclosures⟩ enclosures rest := by
        intro c hc
        obtain rfl : c = '\n' := by
          rw [endsLine, Option.mem_def.mp hc] at hend
          simpa using hend
        rw [Outline.codeStep_of_isInert (by decide)]
        rfl
      obtain ⟨front, behind, rfl, hrun, hbehind⟩ := hrest.exists_run hline
      refine ⟨'/' :: '/' :: (words ++ front), behind, by simp, ?_, hbehind⟩
      rw [hresumes.run_cons]
      simp [Outline.codeStep, Outline.run_cons, Outline.step, Outline.run_append,
        Outline.run_words hwords, hrun]
  | .string htail hrest, enclosures, outline, hresumes => by
      obtain ⟨middle, rfl, hmiddle⟩ := htail.exists_run enclosures
      obtain ⟨front, behind, rfl, hrun, hbehind⟩ :=
        hrest.exists_run (Outline.resumes_code enclosures _)
      refine ⟨'"' :: (middle ++ front), behind, by simp, ?_, hbehind⟩
      rw [hresumes.run_cons]
      simp [Outline.codeStep, Outline.run_append, hmiddle, hrun]
  | .template htail hrest, enclosures, outline, hresumes => by
      obtain ⟨middle, rfl, hmiddle⟩ := htail.exists_run false enclosures (by simp)
      obtain ⟨front, behind, rfl, hrun, hbehind⟩ :=
        hrest.exists_run (Outline.resumes_code enclosures _)
      refine ⟨backtick :: (middle ++ front), behind, by simp, ?_, hbehind⟩
      rw [hresumes.run_cons]
      simp [Outline.codeStep, backtick, Outline.run_append, hmiddle, hrun]
  | @Code.group opener _ _ _ hopener hinner hrest, enclosures, outline, hresumes => by
      -- the inside of the brackets is read one enclosure deeper, up to the closer
      obtain ⟨middle, inside, rfl, hmiddle, hinside⟩ :=
        hinner.exists_run (Outline.resumes_code (.bracket opener :: enclosures) _)
      obtain ⟨front, behind, rfl, hrun, hbehind⟩ :=
        hrest.exists_run (Outline.resumes_code enclosures _)
      refine ⟨opener :: (middle ++ closerOf opener :: front), behind, by simp, ?_, hbehind⟩
      have hcloser : inside.run (closerOf opener :: front) = some behind := by
        rw [(hinside.mono_cons front).run_cons, Outline.codeStep_closer, Option.bind_some, hrun]
      calc outline.run (opener :: (middle ++ closerOf opener :: front))
          = Outline.run ⟨.code, .bracket opener :: enclosures⟩
              (middle ++ closerOf opener :: front) := by
            rw [hresumes.run_cons, Outline.codeStep_opener hopener, Option.bind_some]
        _ = inside.run (closerOf opener :: front) := by
            rw [Outline.run_append, hmiddle, Option.bind_some]
        _ = some behind := hcloser
  | .other (c := c) hother hslash hrest, enclosures, outline, hresumes => by
      by_cases hc : c = '/'
      · -- a slash is settled by the next character, which the grammar keeps from being another
        subst hc
        obtain ⟨front, behind, rfl, hrun, hbehind⟩ :=
          hrest.exists_run (Outline.resumes_slash (hslash rfl) enclosures)
        refine ⟨'/' :: front, behind, rfl, ?_, hbehind⟩
        rw [hresumes.run_cons]
        exact hrun
      · obtain ⟨front, behind, rfl, hrun, hbehind⟩ :=
          hrest.exists_run (Outline.resumes_code enclosures _)
        refine ⟨c :: front, behind, rfl, ?_, hbehind⟩
        rw [hresumes.run_cons, Outline.codeStep_of_isInert (isInert_of_isOther hother hc)]
        exact hrun

/-- The rest of a template literal is read up to behind its closing backtick. -/
theorem TemplateTail.exists_run {text left : List Char} : TemplateTail text left →
    ∀ (dollar : Bool) (enclosures : List Enclosure), (dollar = true → text.head? ≠ some '{') →
      ∃ front, text = front ++ left ∧
        Outline.run ⟨.template dollar, enclosures⟩ front = some ⟨.code, enclosures⟩
  | .close, dollar, enclosures, _ => ⟨[backtick], rfl, by simp [Outline.run, Outline.step]⟩
  | .plain (c := c) hbacktick hdollar htail, dollar, enclosures, hhead => by
      obtain ⟨front, rfl, hrun⟩ := htail.exists_run (c == '$') enclosures (by simpa using hdollar)
      refine ⟨c :: front, rfl, ?_⟩
      rw [Outline.run_cons, Outline.step_template_plain hbacktick (by simpa using hhead)]
      exact hrun
  | .interpolation hcode htail, dollar, enclosures, hhead => by
      obtain ⟨middle, inside, rfl, hmiddle, hinside⟩ :=
        hcode.exists_run (Outline.resumes_code (.interpolation :: enclosures) _)
      obtain ⟨front, rfl, hrun⟩ := htail.exists_run false enclosures (by simp)
      refine ⟨'$' :: '{' :: (middle ++ '}' :: front), by simp, ?_⟩
      rw [Outline.run_interpolation, Outline.run_append, hmiddle, Option.bind_some,
        (hinside.mono_cons front).run_cons]
      exact hrun

end

/-- The text of a template literal is read as such. -/
theorem TemplateText.exists_run {text left : List Char} (htext : TemplateText text left)
    (dollar : Bool) (enclosures : List Enclosure)
    (hhead : dollar = true → text.head? ≠ some '{') :
    ∃ front dollar', text = front ++ left ∧
      Outline.run ⟨.template dollar, enclosures⟩ front = some ⟨.template dollar', enclosures⟩ := by
  induction htext generalizing dollar with
  | done => exact ⟨[], dollar, rfl, rfl⟩
  | @plain c rest left hbacktick hdollar _ ih =>
      obtain ⟨front, dollar', rfl, hrun⟩ := ih (c == '$') (by simpa using hdollar)
      refine ⟨c :: front, dollar', rfl, ?_⟩
      rw [Outline.run_cons, Outline.step_template_plain hbacktick (by simpa using hhead)]
      exact hrun
  | interpolation hcode _ ih =>
      obtain ⟨middle, inside, rfl, hmiddle, hinside⟩ :=
        hcode.exists_run (Outline.resumes_code (.interpolation :: enclosures) _)
      obtain ⟨front, dollar', rfl, hrun⟩ := ih false (by simp)
      refine ⟨'$' :: '{' :: (middle ++ '}' :: front), dollar', by simp, ?_⟩
      rw [Outline.run_interpolation, Outline.run_append, hmiddle, Option.bind_some,
        (hinside.mono_cons front).run_cons]
      exact hrun

/-- A place in code is one where the outline reads code. -/
theorem CodeAt.exists_run {text : List Char} {enclosures : List Enclosure} {rest : List Char}
    (hat : CodeAt text enclosures rest) :
    ∃ front outline, text = front ++ rest ∧ Outline.initial.run front = some outline ∧
      outline.Resumes enclosures rest := by
  induction enclosures generalizing rest with
  | nil => exact Code.exists_run hat (Outline.resumes_code [] _)
  | cons enclosure outer ih =>
      cases enclosure with
      | bracket opener =>
          -- up to the bracket in the code around it, then on behind the bracket
          obtain ⟨hopener, inner, hinner, hcode⟩ := hat
          obtain ⟨front, outline, rfl, hrun, hresumes⟩ := ih hinner
          obtain ⟨middle, behind, rfl, hmiddle, hbehind⟩ :=
            hcode.exists_run (Outline.resumes_code (.bracket opener :: outer) _)
          refine ⟨front ++ opener :: middle, behind, by simp, ?_, hbehind⟩
          calc Outline.initial.run (front ++ opener :: middle)
              = outline.run (opener :: middle) := by rw [Outline.run_append, hrun, Option.bind_some]
            _ = Outline.run ⟨.code, .bracket opener :: outer⟩ middle := by
                rw [(hresumes.mono_cons middle).run_cons, Outline.codeStep_opener hopener,
                  Option.bind_some]
            _ = some behind := hmiddle
      | interpolation =>
          -- up to the backtick in the code around it, then through the text of the literal
          obtain ⟨tail, inner, htail, htext, hcode⟩ := hat
          obtain ⟨front, outline, rfl, hrun, hresumes⟩ := ih htail
          obtain ⟨literal, dollar, rfl, hliteral⟩ := htext.exists_run false outer (by simp)
          obtain ⟨middle, behind, rfl, hmiddle, hbehind⟩ :=
            hcode.exists_run (Outline.resumes_code (.interpolation :: outer) _)
          refine ⟨front ++ backtick :: (literal ++ '$' :: '{' :: middle), behind, by simp, ?_,
            hbehind⟩
          have hopen : Outline.codeStep outer backtick = some ⟨.template false, outer⟩ := by
            simp [Outline.codeStep, backtick]
          calc Outline.initial.run (front ++ backtick :: (literal ++ '$' :: '{' :: middle))
              = outline.run (backtick :: (literal ++ '$' :: '{' :: middle)) := by
                rw [Outline.run_append, hrun, Option.bind_some]
            _ = Outline.run ⟨.template false, outer⟩ (literal ++ '$' :: '{' :: middle) := by
                rw [(hresumes.mono_cons (literal ++ '$' :: '{' :: middle)).run_cons, hopen,
                  Option.bind_some]
            _ = Outline.run ⟨.code, .interpolation :: outer⟩ middle := by
                rw [Outline.run_append, hliteral, Option.bind_some, Outline.run_interpolation]
            _ = some behind := hmiddle

/-- **A place in the text of a template literal** is one where the outline reads one. -/
theorem TemplateAt.exists_run {text : List Char} {enclosures : List Enclosure} {rest : List Char}
    (hat : TemplateAt text enclosures rest) :
    ∃ front dollar, text = front ++ rest ∧
      Outline.initial.run front = some ⟨.template dollar, enclosures⟩ := by
  obtain ⟨tail, htail, htext⟩ := hat
  obtain ⟨front, outline, rfl, hrun, hresumes⟩ := htail.exists_run
  obtain ⟨literal, dollar, rfl, hliteral⟩ := htext.exists_run false enclosures (by simp)
  refine ⟨front ++ backtick :: literal, dollar, by simp, ?_⟩
  rw [Outline.run_append, hrun, Option.bind_some, (hresumes.mono_cons literal).run_cons]
  simpa [Outline.codeStep, backtick] using hliteral

/-! ## From the outline to the grammar -/

theorem Code.trans {text middle left : List Char} : Code text middle → Code middle left →
    Code text left
  | .done, hback => hback
  | .blank hblank hrest, hback => .blank hblank (hrest.trans hback)
  | .comment hwords hend hrest, hback => .comment hwords hend (hrest.trans hback)
  | .string htail hrest, hback => .string htail (hrest.trans hback)
  | .template htail hrest, hback => .template htail (hrest.trans hback)
  | .group hopener hinner hrest, hback => .group hopener hinner (hrest.trans hback)
  | .other hother hslash hrest, hback => .other hother hslash (hrest.trans hback)

theorem TemplateText.trans {text middle left : List Char} (hfront : TemplateText text middle)
    (hback : TemplateText middle left) : TemplateText text left := by
  induction hfront with
  | done => exact hback
  | plain hbacktick hdollar _ ih => exact .plain hbacktick hdollar (ih hback)
  | interpolation hcode _ ih => exact .interpolation hcode (ih hback)

/-- Text of a literal in front of the rest of it. -/
theorem TemplateText.tail {text middle left : List Char} (hfront : TemplateText text middle)
    (hback : TemplateTail middle left) : TemplateTail text left := by
  induction hfront with
  | done => exact hback
  | plain hbacktick hdollar _ ih => exact .plain hbacktick hdollar (ih hback)
  | interpolation hcode _ ih => exact .interpolation hcode (ih hback)

/-- Code goes on inside the same enclosures. -/
theorem CodeAt.trans {text : List Char} {enclosures : List Enclosure} {here rest : List Char}
    (hat : CodeAt text enclosures here) (hcode : Code here rest) :
    CodeAt text enclosures rest := by
  rcases enclosures with _ | ⟨opener | _, outer⟩
  · exact Code.trans hat hcode
  · obtain ⟨hopener, inner, hinner, hhere⟩ := hat
    exact ⟨hopener, inner, hinner, hhere.trans hcode⟩
  · obtain ⟨tail, inner, htail, htext, hhere⟩ := hat
    exact ⟨tail, inner, htail, htext, hhere.trans hcode⟩

/-- Where the grammar is when an outline has read a text up to a rest. -/
def Outline.At (text : List Char) (outline : Outline) (rest : List Char) : Prop :=
  match outline.phase with
  | .code => CodeAt text outline.enclosures rest
  | .slash => CodeAt text outline.enclosures ('/' :: rest)
  | .comment => ∃ words, '\n' ∉ words ∧
      CodeAt text outline.enclosures ('/' :: '/' :: (words ++ rest))
  | .string escaped => ∃ tail, CodeAt text outline.enclosures ('"' :: tail) ∧
      ∀ left, StringTail (if escaped then '\\' :: rest else rest) left → StringTail tail left
  | .template dollar => TemplateAt text outline.enclosures (if dollar then '$' :: rest else rest)

section Steps

variable {text : List Char} {enclosures : List Enclosure} {c : Char} {rest : List Char}
  {next : Outline}

theorem Outline.At.close (hat : CodeAt text enclosures (c :: rest))
    (hclose : close enclosures c = some next) : next.At text rest := by
  rcases enclosures with _ | ⟨opener | _, outer⟩
  · cases hclose
  · simp only [Outline.close] at hclose
    split_ifs at hclose with hmatch
    subst hmatch
    obtain ⟨hopener, inner, hinner, hcode⟩ := hat
    cases hclose
    exact hinner.trans (.group hopener hcode .done)
  · simp only [Outline.close] at hclose
    split_ifs at hclose with hbrace
    subst hbrace
    obtain ⟨tail, inner, htail, htext, hcode⟩ := hat
    cases hclose
    exact ⟨tail, htail, htext.trans (.interpolation hcode .done)⟩

theorem Outline.At.codeStep (hat : CodeAt text enclosures (c :: rest))
    (hstep : codeStep enclosures c = some next) : next.At text rest := by
  unfold Outline.codeStep at hstep
  split_ifs at hstep with hslash hquote hbacktick hopener hcloser
  · cases hstep
    subst hslash
    exact hat
  · cases hstep
    subst hquote
    exact ⟨rest, hat, fun left htail => htail⟩
  · cases hstep
    subst hbacktick
    exact ⟨rest, hat, .done⟩
  · cases hstep
    exact ⟨hopener, rest, hat, .done⟩
  · exact .close hat hstep
  · cases hstep
    by_cases hblank : Text.isBlank c = true
    · exact hat.trans (.blank hblank .done)
    · refine hat.trans (.other ?_ (fun h => absurd h hslash) .done)
      simp [isOther, hblank, hquote, hbacktick, hopener, hcloser]

/-- **Each step of the outline follows the grammar.** -/
theorem Outline.At.step {outline : Outline} (hat : outline.At text (c :: rest))
    (hstep : outline.step c = some next) : next.At text rest := by
  obtain ⟨phase, enclosures⟩ := outline
  cases phase with
  | code => exact .codeStep hat hstep
  | slash =>
      simp only [Outline.step] at hstep
      split_ifs at hstep with hslash
      · cases hstep
        subst hslash
        exact ⟨[], List.not_mem_nil, hat⟩
      · -- the slash was a character of code
        refine .codeStep (hat.trans (.other (by decide) (fun _ => ?_) .done)) hstep
        simpa using hslash
  | comment =>
      obtain ⟨words, hwords, hcode⟩ := hat
      simp only [Outline.step] at hstep
      split_ifs at hstep with hfeed
      · -- the line feed ends the comment, and is a blank of the code
        cases hstep
        subst hfeed
        exact hcode.trans (.comment hwords rfl (.blank (by decide) .done))
      · cases hstep
        refine ⟨words ++ [c], by simp [hwords, Ne.symm hfeed], ?_⟩
        simpa using hcode
  | string escaped =>
      obtain ⟨tail, hcode, htail⟩ := hat
      simp only [Outline.step] at hstep
      split_ifs at hstep with hescaped hquote hfeed hescape
      · -- whatever is escaped goes on with the literal, together with its backslash
        cases hstep
        subst hescaped
        exact ⟨tail, hcode, fun left hleft => htail left (.escaped hleft)⟩
      · -- the quote ends the literal, of which all is read
        cases hstep
        subst hquote
        exact hcode.trans (.string (htail rest (by simpa [hescaped] using .close)) .done)
      · cases hstep
        subst hescape
        exact ⟨tail, hcode, fun left hleft => htail left (by simpa [hescaped] using hleft)⟩
      · cases hstep
        refine ⟨tail, hcode, fun left hleft => htail left ?_⟩
        simpa [hescaped] using StringTail.plain hquote hescape hfeed hleft
  | template dollar =>
      obtain ⟨tail, hcode, htext⟩ := hat
      by_cases hopens : dollar = true ∧ c = '{'
      · -- code inside the literal begins
        obtain ⟨rfl, rfl⟩ := hopens
        cases hstep
        exact ⟨tail, rest, hcode, htext, .done⟩
      -- a dollar sign that opens nothing is text like any other
      have hplain : TemplateText tail (c :: rest) := by
        cases dollar with
        | false => exact htext
        | true => exact htext.trans (.plain (by decide) (by simpa using hopens) .done)
      simp only [Outline.step, if_neg hopens] at hstep
      split_ifs at hstep with hbacktick hfeed
      · cases hstep
        subst hbacktick
        exact hcode.trans (.template (hplain.tail .close) .done)
      · cases hstep
        subst hfeed
        exact ⟨tail, hcode, hplain.trans (.plain (by decide) (by simp) .done)⟩
      · cases hstep
        refine ⟨tail, hcode, ?_⟩
        by_cases hdollar : c = '$'
        · -- what a dollar sign is depends on the next character
          subst hdollar
          exact hplain
        · simpa [hdollar] using hplain.trans (.plain hbacktick (by simp [hdollar]) .done)

end Steps

theorem Outline.At.run {text front rest : List Char} {outline behind : Outline}
    (hat : outline.At text (front ++ rest)) (hrun : outline.run front = some behind) :
    behind.At text rest := by
  induction front generalizing outline with
  | nil =>
      cases hrun
      exact hat
  | cons c front ih =>
      rw [Outline.run_cons, Option.bind_eq_some_iff] at hrun
      obtain ⟨next, hstep, hnext⟩ := hrun
      exact ih (hat.step hstep) hnext

/-! ## Literal lines -/

/-- A line feed stands in the text of a template literal exactly where the outline reads
one. -/
theorem templateAt_iff {front back : List Char} {outline : Outline}
    (hrun : Outline.initial.run front = some outline) :
    (∃ enclosures, TemplateAt (front ++ '\n' :: back) enclosures ('\n' :: back)) ↔
      ∃ dollar, outline.phase = .template dollar := by
  constructor
  · rintro ⟨enclosures, hat⟩
    obtain ⟨front', dollar, hfront, hrun'⟩ := hat.exists_run
    -- the outline reads what is in front in one way only
    obtain rfl : front = front' := List.append_cancel_right hfront
    rw [hrun] at hrun'
    cases hrun'
    exact ⟨dollar, rfl⟩
  · rintro ⟨dollar, hphase⟩
    have hstart : Outline.initial.At (front ++ '\n' :: back) (front ++ '\n' :: back) := Code.done
    have hat := hstart.run hrun
    simp only [Outline.At, hphase] at hat
    obtain ⟨tail, hcode, htext⟩ := hat
    refine ⟨outline.enclosures, tail, hcode, ?_⟩
    -- a dollar sign in front of the line feed is text of the literal, too
    cases dollar with
    | false => exact htext
    | true => exact htext.trans (.plain (by decide) (by simp) .done)

theorem Scanner.phase_template_iff (scanner : Scanner) :
    (∃ dollar, scanner.outline.phase = .template dollar) ↔
      ∃ dollar, scanner.mode = .template dollar := by
  cases hmode : scanner.mode <;> simp [outline, Mode.phase, hmode]

/-- **The literal lines of a text** begin behind the line feeds in the text of template
literals. -/
theorem mem_literalLines_iff {text : String} {scanned : Scanned}
    (hscanned : tokenize text = .ok scanned) (line : Nat) :
    line ∈ scanned.literalLines ↔
      ∃ front back enclosures, text.toList = front ++ '\n' :: back ∧
        line = front.count '\n' + 1 ∧
        TemplateAt text.toList enclosures ('\n' :: back) := by
  obtain ⟨hflawless, rfl⟩ := tokenize_eq_ok_iff.mp hscanned
  rw [scan_eq_reports] at hflawless ⊢
  have hlive : Scanner.initial.Live := Scanner.fresh_live [] origin
  rw [mem_literalLinesIn_iff hlive hflawless]
  refine exists_congr fun front => exists_congr fun back => ?_
  have hline : (Scanner.initial.place.afterText front).line = front.count '\n' :=
    line_origin front
  rw [hline, exists_and_left, exists_and_left]
  refine and_congr_right fun htext => and_congr_right fun _ => ?_
  rw [htext, Scanner.reports_append, flawless_append] at hflawless
  have hrun := (Scanner.outline_run hlive hflawless.1).2
  rw [htext, templateAt_iff hrun, Scanner.phase_template_iff]

end PersistLayer.Syntax
