import PersistLayer.Proofs.Render.Parts
import PersistLayer.Proofs.Snippet.Statements

/-!
# Snippets inside a source file

A snippet that was read from some text is neutral at any depth, and whole in the
line that it continues.  Between its indent and the end of its last line stands
the piece of text it was cut from, in another layout, and a scanner sees through
that.
-/

namespace PersistLayer.Syntax

/-- A text is whole when the scanner behind it reads code, with nothing open and no
comment going on. -/
theorem whole_of_run {place : Place} {text : List Char}
    (hflawless : Flawless ((Scanner.fresh [] place).emits text))
    (hframes : ((Scanner.fresh [] place).run text).frames = [])
    (hcode : ((Scanner.fresh [] place).run text).mode.isCode = true)
    (hcomment : ((Scanner.fresh [] place).run text).mode ≠ .comment) :
    Whole (String.ofList text) := by
  obtain ⟨-, hrun⟩ := Scanner.outline_run (Scanner.fresh_live [] place) hflawless
  generalize (Scanner.fresh [] place).run text = last at hframes hcode hcomment hrun
  have hphase : last.mode.phase = .code ∨ last.mode.phase = .slash := by
    cases hmode : last.mode <;> simp_all [Mode.isCode, Mode.phase]
  have houtline : last.outline = ⟨last.mode.phase, []⟩ := by
    have hopen : last.enclosures = [] := by
      unfold Scanner.enclosures
      split <;> simp [hframes]
    rw [Scanner.outline, hopen]
  refine ⟨last.mode.phase, hphase, ?_⟩
  intro outer
  rw [houtline] at hrun
  rw [String.toList_ofList]
  exact Outline.run_enclose hrun outer

/-- A snippet as it is written is whole between its indent and the end of its last
line. -/
theorem Snippet.IsRead.whole {snippet : Snippet} (hread : snippet.IsRead) (depth : Nat) :
    ∃ lead body, IsMargin lead ∧ (snippet.render depth).toList = lead ++ body ++ ['\n'] ∧
      Whole (String.ofList body) ∧ (∃ c ∈ body.head?, Text.isBlank c = false) ∧
      ∃ c ∈ body.getLast?, Text.isBlank c = false := by
  obtain ⟨text, literalLines, chunk, front, gap, piece, back, hstands⟩ := hread.stands
  obtain ⟨lead, body, hlead, hrender, hrelaid⟩ := hstands.relaid depth
  obtain ⟨hmatch, hemits⟩ := hstands.matches origin rfl hrelaid
  obtain ⟨hframes, hcode, hcomment⟩ := hstands.behind_closed hmatch
  have hwhole := whole_of_run (flawless_of_alike hemits).2 hframes hcode hcomment
  refine ⟨lead, body, hlead, hrender, hwhole, ?_, ?_⟩
  · rw [hrelaid.head?_eq hstands.cut.blank_first]
    have hfirst := List.head?_eq_some_head hstands.cut.nonempty
    exact ⟨_, hfirst, hstands.cut.blank_first _ hfirst⟩
  · rw [hrelaid.getLast?_eq hstands.cut.blank_last]
    have hlast := List.getLast?_eq_some_getLast hstands.cut.nonempty
    exact ⟨_, hlast, hstands.cut.blank_last _ hlast⟩

theorem neutral_of_isMargin {lead : List Char} (hlead : IsMargin lead) :
    Neutral (String.ofList lead) := by
  apply neutral_of_inert
  intro c hc
  rw [String.toList_ofList] at hc
  exact isInert_of_isBlank (hlead c hc).1

/-- **A snippet that was read is neutral at any depth.** -/
theorem Snippet.IsRead.neutral {snippet : Snippet} (hread : snippet.IsRead) (depth : Nat) :
    Neutral (snippet.render depth) := by
  obtain ⟨lead, body, hlead, hrender, hwhole, -, -⟩ := hread.whole depth
  have hends : Neutral (String.ofList body ++ "\n") :=
    hwhole.append_turns (neutral_of_run rfl) ⟨'\n', [], rfl, by decide⟩
  have htext : snippet.render depth = String.ofList lead ++ (String.ofList body ++ "\n") := by
    rw [← String.toList_inj, hrender]
    simp
  rw [htext]
  exact (neutral_of_isMargin hlead).append hends

theorem dropWhile_of_head? {holds : Char → Bool} {text : List Char} {c : Char}
    (hfirst : text.head? = some c) (hc : holds c = false) : text.dropWhile holds = text := by
  cases text with
  | nil => rfl
  | cons d rest =>
      obtain rfl : d = c := by simpa using hfirst
      rw [List.dropWhile_cons_of_neg (by simp [hc])]

/-- In the line that it continues, a snippet is written without its indent and without
the end of its last line. -/
theorem Snippet.IsRead.whole_inline {snippet : Snippet} (hread : snippet.IsRead) (depth : Nat) :
    Whole (renderInline snippet depth) := by
  obtain ⟨lead, body, hlead, hrender, hwhole, ⟨first, hfirst, hfirstBlank⟩,
    ⟨last, hlast, hlastBlank⟩⟩ := hread.whole depth
  have htrim : Text.trimStart (snippet.render depth).toList = body ++ ['\n'] := by
    have hall : ∀ c ∈ lead, Text.isBlank c = true := fun c hc => (hlead c hc).1
    rw [hrender, Text.trimStart, List.append_assoc, List.dropWhile_append_of_pos hall]
    refine dropWhile_of_head? (c := first) ?_ hfirstBlank
    rw [List.head?_append, Option.mem_def.mp hfirst]
    rfl
  have hnotFeed : (last == '\n') = false := by
    rw [beq_eq_false_iff_ne]
    rintro rfl
    exact absurd hlastBlank (by decide)
  have hdrop : body.reverse.dropWhile (· == '\n') = body.reverse := by
    refine dropWhile_of_head? (c := last) ?_ hnotFeed
    rw [List.head?_reverse]
    exact hlast
  -- one line feed goes at the end, and none of the body
  have htext : renderInline snippet depth = String.ofList body := by
    rw [renderInline, htrim, List.reverse_append, List.reverse_singleton, List.singleton_append,
      List.dropWhile_cons_of_pos (by simp), hdrop, List.reverse_reverse]
  rw [htext]
  exact hwhole

end PersistLayer.Syntax
