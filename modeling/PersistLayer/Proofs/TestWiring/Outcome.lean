import PersistLayer.Proofs.TestWiring.File

/-!
# What comes of wiring up tests

A script is refused only if it would not stay within its literal: if it holds a backtick,
which ends the literal, or a dollar sign in front of an opening brace, which begins an
interpolation.  All other texts become one statement, whatever quotes, brackets, semicolons
and line breaks they hold, since nothing in a template literal is a token of its own
(`exists_execute`).  No indent can be cut in two either: the first line of the statement
begins with code, and the others begin in the literal.

So there are two outcomes.  The first script that is refused is reported, and if there is
none the file has a statement for every script (`wiring_outcomes`).
-/

namespace PersistLayer.TestWiring

open Syntax

/-! ## Refused scripts -/

/-- A text that would end a template literal or begin an interpolation in it. -/
def LeavesLiteral (script : List Char) : Prop :=
  backtick ∈ script ∨ ['$', '\x7b'] <:+: script

theorem beginsInterpolation_iff (script : List Char) :
    beginsInterpolation script = true ↔ ['$', '\x7b'] <:+: script := by
  induction script with
  | nil => simp [beginsInterpolation]
  | cons c rest ih =>
      have hfirst : ['$', '\x7b'] <+: c :: rest ↔ c = '$' ∧ rest.head? = some '\x7b' := by
        cases rest with
        | nil => simp
        | cons d tail => simp [eq_comm]
      rw [beginsInterpolation_cons, Bool.or_eq_true, ih, List.infix_cons_iff, hfirst]
      simp

theorem isEmbeddable_iff (script : List Char) :
    isEmbeddable script = true ↔ ¬ LeavesLiteral script := by
  rw [isEmbeddable, LeavesLiteral, ← beginsInterpolation_iff]
  simp

/-- A script without blanks at its end has its statement, or is refused with its text. -/
theorem execute_eq_error_iff {script : List Char} (htrimmed : Text.trimEnd script = script)
    {error : GenerationError} :
    execute script = .error error ↔
      LeavesLiteral script ∧ error = .unembeddableScript (String.ofList script) := by
  by_cases hleaves : LeavesLiteral script
  · have hrefused : ¬ isEmbeddable script = true := by
      rwa [isEmbeddable_iff, not_not]
    rw [execute, if_neg hrefused, Except.error.injEq, and_iff_right hleaves, eq_comm]
  · obtain ⟨snippet, hsnippet⟩ := exists_execute htrimmed ((isEmbeddable_iff script).mpr hleaves)
    simp [hsnippet, hleaves]

theorem exists_execute_iff {script : List Char} (htrimmed : Text.trimEnd script = script) :
    (∃ snippet, execute script = .ok snippet) ↔ ¬ LeavesLiteral script := by
  rw [← isEmbeddable_iff]
  constructor
  · rintro ⟨snippet, hsnippet⟩
    exact (execute_eq_ok_iff.mp hsnippet).1
  · exact exists_execute htrimmed

/-! ## Outcomes -/

section Scripts

variable {scripts : List String}

/-- Generating fails as taking the scripts to their statements does. -/
theorem generate_eq_error_iff {error : GenerationError} :
    generate scripts = .error error ↔ (scriptsToRun scripts).mapM execute = .error error := by
  have hclient : readFragment "test/mock_client" memberIn testClientDeclaration = .ok testClient :=
    readFragment_eq_ok_iff.mpr memberIn_testClientDeclaration
  have hstep (script : List Char) : (do return (← execute script, Sql.isDrop script) :
      Except GenerationError (Snippet × Bool)) = .error error ↔ execute script = .error error := by
    rw [bind_eq_error_iff]
    simp [pure, Except.pure]
  have hgoes (script : List Char) : (∃ entry, (do return (← execute script, Sql.isDrop script) :
      Except GenerationError (Snippet × Bool)) = .ok entry) ↔
        ∃ snippet, execute script = .ok snippet := by
    constructor
    · rintro ⟨entry, hentry⟩
      obtain ⟨snippet, hsnippet, -⟩ := bind_eq_ok_iff.mp hentry
      exact ⟨snippet, hsnippet⟩
    · rintro ⟨snippet, hsnippet⟩
      exact ⟨_, bind_eq_ok_iff.mpr ⟨snippet, hsnippet, rfl⟩⟩
  simp only [generate, hclient, bind_eq_error_iff, mapM_eq_error_iff, hstep, hgoes]
  simp [pure, Except.pure]

/-- **The first script that is refused is reported.** -/
theorem generate_eq_error_iff_first {error : GenerationError} :
    generate scripts = .error error ↔
      ∃ before script after, scriptsToRun scripts = before ++ script :: after ∧
        (∀ other ∈ before, ¬ LeavesLiteral other) ∧ LeavesLiteral script ∧
        error = .unembeddableScript (String.ofList script) := by
  rw [generate_eq_error_iff, mapM_eq_error_iff]
  refine exists_congr fun before => exists_congr fun script => exists_congr fun after =>
    and_congr_right fun hsplit => ?_
  have htrimmed : ∀ other ∈ before ++ script :: after, Text.trimEnd other = other := by
    intro other hother
    exact trimEnd_of_mem_scriptsToRun (hsplit ▸ hother)
  refine and_congr ?_ (execute_eq_error_iff (htrimmed script (by simp)))
  exact forall₂_congr fun other hother =>
    exists_execute_iff (htrimmed other (List.mem_append_left _ hother))

/-- **Scripts are wired up exactly when none is refused.** -/
theorem exists_generate_iff :
    (∃ file, generate scripts = .ok file) ↔
      ∀ script ∈ scriptsToRun scripts, ¬ LeavesLiteral script := by
  constructor
  · rintro ⟨file, hfile⟩ script hscript
    obtain ⟨setup, -, -, hsetup, -⟩ := exists_wiringFile hfile
    obtain ⟨index, hindex, rfl⟩ := List.getElem_of_mem hscript
    exact (exists_execute_iff (trimEnd_of_mem_scriptsToRun hscript)).mp
      ⟨_, hsetup.get hindex (hsetup.length_eq ▸ hindex)⟩
  · intro hall
    cases hresult : generate scripts with
    | ok file => exact ⟨file, rfl⟩
    | error error =>
        obtain ⟨before, script, after, hsplit, -, hleaves, -⟩ :=
          generate_eq_error_iff_first.mp hresult
        exact absurd hleaves (hall script (by rw [hsplit]; simp))

theorem faults_of_generate {file : SourceFile} (hfile : generate scripts = .ok file) :
    faults file.render = [] := by
  obtain ⟨setup, cleanup, rfl, hsetup, hcleanup⟩ := exists_wiringFile hfile
  have hmeets := meets_wiringFile (isRead_of_executes hsetup) (isRead_of_executes hcleanup)
  obtain ⟨hpart, -⟩ := SourceFile.wordsOf_render sourceVocabulary_harmless hmeets
  rw [faults, errorsIn_eq_nil_iff]
  exact hpart.neutral.flawless

theorem statements_wiringFunction (name : String) (statements : List Snippet) :
    (wiringFunction name statements).statements = statements ∧
      (wiringFunction name statements).name = name := by
  have hempty : (FunctionDef.named name Client.publicQualifiers
      (some (.optional Client.persistError))).body = .block [] := rfl
  rw [wiringFunction, FunctionDef.withStatements_eq hempty]
  exact ⟨rfl, rfl⟩

end Scripts

end PersistLayer.TestWiring
