import PersistLayer.Proofs.Scopes.Reading
import PersistLayer.Proofs.Snippet.Rereading

/-!
# The scopes in a snippet

A snippet holds no scope that is not in the text it was cut from.  Its layout has no say
in that, since blanks and line breaks are no part of a scope.  Where the snippet begins in
the text, nothing is being read: in front of it there are only blanks and comments, and in
front of these the text begins or another construct ends.

A string literal in another construct could hold anything, so the scopes are read off the
text by a raw reading, which finds all that a reading finds and more
(`Reading.scopes_subset_raw`).  Where the snippet is the only one no such caution is needed.
-/

namespace PersistLayer.Syntax

/-- The scopes in the lines of a snippet. -/
def Snippet.scopes (snippet : Snippet) : List String :=
  snippet.lines.flatMap fun line => scopesOf line.text

theorem reads_indentation (depth : Nat) : Reads false .idle .idle (indentation depth) [] := by
  have hblank : ∀ c ∈ (indentation depth).toList, Text.isBlank c = true := fun c hc =>
    (isMargin_indentation depth c hc).1
  refine ⟨fun reading _ => Reading.scopes_blanks hblank reading, ?_⟩
  intro reading hidle
  rw [beq_iff_eq.mp hidle, Reading.run_blanks hblank]
  rfl

/-- A snippet is written with its scopes, at whatever depth. -/
theorem Snippet.reads_render (snippet : Snippet) (depth : Nat) :
    Reads false .idle .idle (snippet.render depth) snippet.scopes := by
  refine reads_join ?_
  intro line _
  unfold SnippetLine.render
  split_ifs
  · exact reads_line line.text
  · rw [String.append_assoc]
    exact (reads_indentation depth).append (reads_line line.text)

/-! ## Gaps and layout -/

/-- Behind a gap nothing is being read. -/
theorem IsGap.run_eq {raw : Bool} {gap : List Char} (hgap : IsGap gap) :
    Reading.idle.run raw gap = .idle := by
  induction hgap with
  | nil => rfl
  | blank hc _ ih =>
      rw [Reading.run, (Reading.step_blank hc).2 rfl, ih]
  | @comment text rest _ _ ih =>
      rw [← List.cons_append, ← List.cons_append, Reading.run_line, ih]

/-- A text has the same scopes in another layout. -/
theorem Relaid.scopes_eq {raw : Bool} {scanner : Scanner} {text written : List Char}
    (h : Relaid scanner text written) (reading : Reading) :
    reading.scopes raw written = reading.scopes raw text := by
  induction h generalizing reading with
  | nil => rfl
  | cons c _ ih => rw [Reading.scopes, Reading.scopes, ih]
  | @lineBreak _ trail lead lead' text written htrail hlead hlead' _ _ ih =>
      have hblank : ∀ {blanks : List Char}, IsMargin blanks → ∀ c ∈ blanks, Text.isBlank c = true :=
        fun hblanks c hc => (hblanks c hc).1
      have hbehind : ∀ {lead rest : List Char}, IsMargin lead →
          Reading.idle.scopes raw (lead ++ rest) = Reading.idle.scopes raw rest := by
        intro lead rest hmargin
        rw [Reading.scopes_append, Reading.scopes_blanks (hblank hmargin),
          Reading.run_blanks (hblank hmargin), List.nil_append]
      calc reading.scopes raw ('\n' :: (lead' ++ written))
          = reading.scopes raw [] ++ Reading.idle.scopes raw (lead' ++ written) := by
            rw [← List.nil_append ('\n' :: _), Reading.scopes_line]
        _ = reading.scopes raw trail ++ Reading.idle.scopes raw (lead ++ text) := by
            rw [hbehind hlead', ih, Reading.scopes_blanks (hblank htrail), hbehind hlead]
            rfl
        _ = reading.scopes raw (trail ++ '\n' :: (lead ++ text)) := by rw [Reading.scopes_line]

/-! ## Raw readings -/

/-- What a raw reading reads while a reading is in a string literal does not matter. -/
def Reading.Covers (other reading : Reading) : Prop :=
  other = reading ∨ reading.isQuoted = true

/-- What ends a word for a raw reading and begins none. -/
theorem Reading.step_raw {other : Reading} (hother : other.isQuoted = false) {c : Char}
    (hword : isIdentifierChar c = false) (hcolon : c ≠ ':') :
    (other.step true c).1 = .idle := by
  cases other with
  | word => simp [step, start, hword, hcolon]
  | colon => simp [step, start, hword]
  | quoted => cases hother

theorem Reading.Covers.step {other reading : Reading} (hcovers : other.Covers reading)
    (hother : other.isQuoted = false) (c : Char) :
    (other.step true c).1.Covers (reading.step false c).1 ∧
      (reading.step false c).2.toList ⊆ (other.step true c).2.toList := by
  have hquote : isIdentifierChar '"' = false := by decide
  have hfeed : isIdentifierChar '\n' = false := by decide
  by_cases hreading : reading.isQuoted = true
  · -- both are idle behind the end of the literal
    obtain ⟨escaped, rfl⟩ : ∃ escaped, reading = .quoted escaped := by
      cases reading <;> simp_all [isQuoted]
    by_cases hend : c = '\n' ∨ escaped = false ∧ c = '"'
    · have hidle : (Reading.quoted escaped).step false c = (.idle, none) := by
        rcases hend with rfl | ⟨rfl, rfl⟩ <;> simp [Reading.step]
      have hraw : (other.step true c).1 = .idle := by
        rcases hend with rfl | ⟨-, rfl⟩
        · exact step_raw hother hfeed (by decide)
        · exact step_raw hother hquote (by decide)
      rw [hidle, hraw]
      exact ⟨.inl rfl, List.nil_subset _⟩
    · have hstays : ∃ next, (Reading.quoted escaped).step false c = (.quoted next, none) := by
        simp only [not_or, not_and] at hend
        cases escaped <;> simp only [Reading.step, hend, if_false]
        · split_ifs <;> simp_all
        · simp
      obtain ⟨next, hstep⟩ := hstays
      rw [hstep]
      exact ⟨.inr rfl, List.nil_subset _⟩
  · -- outside literals both read alike, up to a quote that only one of them heeds
    obtain rfl : other = reading := hcovers.resolve_right hreading
    by_cases hc : c = '"'
    · subst hc
      have hopen : other.step false '"' = (.quoted false, none) := by
        cases other <;> simp_all [Reading.step, start, isQuoted]
      rw [hopen]
      exact ⟨.inr rfl, List.nil_subset _⟩
    · have hsame : other.step true c = other.step false c := by
        cases other <;> simp_all [Reading.step, start, isQuoted]
      rw [hsame]
      exact ⟨.inl rfl, List.Subset.refl _⟩

/-- A raw reading finds every scope. -/
theorem Reading.scopes_subset_raw {other reading : Reading} (hcovers : other.Covers reading)
    (hother : other.isQuoted = false) (text : List Char) :
    reading.scopes false text ⊆ other.scopes true text := by
  induction text generalizing reading other with
  | nil => exact List.nil_subset _
  | cons c rest ih =>
      obtain ⟨hnext, hfound⟩ := hcovers.step hother c
      have hrest := ih hnext (isQuoted_step hother (.inl rfl))
      rw [scopes, scopes]
      exact List.append_subset.mpr ⟨List.subset_append_of_subset_left _ hfound,
        List.subset_append_of_subset_right _ hrest⟩

/-! ## Snippets -/

section Stands

variable {text : List Char} {literalLines : List Nat} {chunk : List Token} {snippet : Snippet}
  {front gap piece back : List Char}

/-- The scopes of a snippet are those of its piece of the text. -/
theorem Stands.scopes_eq (h : Stands text literalLines chunk snippet front gap piece back) :
    snippet.scopes = Reading.idle.scopes false piece := by
  obtain ⟨lead, body, hlead, hrender, hrelaid⟩ := h.relaid 0
  have hblank : ∀ c ∈ lead, Text.isBlank c = true := fun c hc => (hlead c hc).1
  calc snippet.scopes
      = scopesOf (snippet.render 0) := (snippet.reads_render 0).scopesOf_eq.symm
    _ = Reading.idle.scopes false (lead ++ body ++ '\n' :: []) := by rw [scopesOf, hrender]
    _ = Reading.idle.scopes false (lead ++ body) := by
        rw [Reading.scopes_line, Reading.scopes_nil, List.append_nil]
    _ = Reading.idle.scopes false body := by
        rw [Reading.scopes_append, Reading.scopes_blanks hblank, Reading.run_blanks hblank,
          List.nil_append]
    _ = Reading.idle.scopes false piece := hrelaid.scopes_eq _

/-- In front of a snippet a raw reading reads nothing. -/
theorem Stands.run_front (h : Stands text literalLines chunk snippet front gap piece back) :
    Reading.idle.run true (front ++ gap) = .idle := by
  have hfront : Reading.idle.run true front = .idle := by
    rcases List.eq_nil_or_concat front with rfl | ⟨before, c, rfl⟩
    · rfl
    · have hc := h.separated c (by simp)
      have hbreak : isIdentifierChar c = false ∧ c ≠ ':' := by
        rcases hc with rfl | rfl <;> decide
      rw [List.concat_eq_append, Reading.run_append]
      exact Reading.step_raw (Reading.isQuoted_run rfl (.inl rfl)) hbreak.1 hbreak.2
  rw [Reading.run_append, hfront, h.cut.isGap.run_eq]

/-- The scopes of a snippet are among those that a raw reading finds in its text. -/
theorem Stands.scopes_subset_raw
    (h : Stands text literalLines chunk snippet front gap piece back) :
    snippet.scopes ⊆ Reading.idle.scopes true text := by
  have hpiece : Reading.idle.scopes false piece ⊆ Reading.idle.scopes true piece :=
    Reading.scopes_subset_raw (.inl rfl) rfl piece
  calc snippet.scopes
      = Reading.idle.scopes false piece := h.scopes_eq
    _ ⊆ (Reading.idle.run true (front ++ gap)).scopes true piece := by rwa [h.run_front]
    _ ⊆ Reading.idle.scopes true (front ++ gap ++ piece ++ back) := by
        rw [Reading.scopes_append, Reading.scopes_append]
        exact List.subset_append_of_subset_left _ (List.subset_append_right _ _)
    _ = Reading.idle.scopes true text := by rw [h.text_eq]

/-- The scopes of the only snippet of a text are among those of the text. -/
theorem Stands.scopes_subset (h : Stands text literalLines chunk snippet [] gap piece back) :
    snippet.scopes ⊆ Reading.idle.scopes false text := by
  rw [h.scopes_eq, h.text_eq, List.nil_append, Reading.scopes_append, Reading.scopes_append,
    h.cut.isGap.run_eq]
  intro scope hscope
  exact List.mem_append_left _ (List.mem_append_right _ hscope)

end Stands

theorem scopes_of_statementsIn {text : String} {snippets : List Snippet}
    (hread : statementsIn text = .ok snippets) :
    ∀ snippet ∈ snippets, snippet.scopes ⊆ Reading.idle.scopes true text.toList := by
  obtain ⟨scanned, complete, -, -, hstands⟩ := stands_of_statementsIn hread
  intro snippet hsnippet
  obtain ⟨index, hindex, rfl⟩ := List.getElem_of_mem hsnippet
  obtain ⟨front, gap, piece, back, h⟩ := hstands.get (hstands.length_eq ▸ hindex) hindex
  exact h.scopes_subset_raw

theorem scopes_of_annotationIn {text : String} {snippet : Snippet}
    (hread : annotationIn text = .ok snippet) : snippet.scopes ⊆ scopesOf text := by
  obtain ⟨scanned, gap, piece, back, -, h⟩ := stands_of_annotationIn hread
  exact h.scopes_subset

theorem scopes_of_memberIn {text : String} {snippet : Snippet}
    (hread : memberIn text = .ok snippet) : snippet.scopes ⊆ scopesOf text := by
  obtain ⟨scanned, hscanned, htokens, -, hsnippet⟩ := statementIn_eq_ok_iff_of_tokens.mp hread
  obtain ⟨gap, piece, back, h, -⟩ := stands_of_tokens hscanned htokens hsnippet
  exact h.scopes_subset

end PersistLayer.Syntax
