import PersistLayer.Proofs.Render.File
import PersistLayer.Proofs.Render.Trees
import PersistLayer.Proofs.TestWiring.Statement

/-!
# The file that wires up tests

The words of the file are those of its import, of the client and of two functions.  The
first function runs every script and the second one those that drop something, so the
literals in the file hold the scripts as `literalText` gives them: the scripts themselves,
unless a blank stands in front of the first line break of one.
-/

namespace PersistLayer.TestWiring

open Syntax

/-! ## Scripts -/

/-- A script to run has no blanks at its end. -/
theorem trimEnd_of_mem_scriptsToRun {scripts : List String} {script : List Char}
    (hscript : script ∈ scriptsToRun scripts) : Text.trimEnd script = script := by
  obtain ⟨source, -, rfl⟩ := List.mem_map.mp (List.mem_filter.mp hscript).1
  exact Text.trimEnd_trimEnd _

/-! ## Functions -/

/-- What stands in front of the statements of a function. -/
def wiringHead (name : String) : String :=
  "public isolated function " ++ name ++ "() returns persist:Error? \x7b\n"

theorem render_wiringFunction (name : String) (statements : List Snippet) :
    (wiringFunction name statements).render 0 =
      wiringHead name ++ String.join (statements.map fun statement => statement.render 1) ++
        "\x7d\n" := by
  have hqualifiers : indentation 0 ++ renderQualifiers Client.publicQualifiers ++ "function " =
      "public isolated function " := rfl
  have hreturns : "(" ++ ", ".intercalate [] ++ ")" ++
      (" returns " ++ (TypeDesc.optional Client.persistError).text) ++ " \x7b\n" =
        "() returns persist:Error? \x7b\n" := rfl
  have hfunction : wiringFunction name statements =
      ⟨Client.publicQualifiers, .named name, [], some (.optional Client.persistError),
        .block statements⟩ := by
    have hempty : (FunctionDef.named name Client.publicQualifiers
        (some (.optional Client.persistError))).body = .block [] := rfl
    exact FunctionDef.withStatements_eq hempty statements
  calc (wiringFunction name statements).render 0
      = (indentation 0 ++ renderQualifiers Client.publicQualifiers ++ "function ") ++ name ++
          ("(" ++ ", ".intercalate [] ++ ")" ++
            (" returns " ++ (TypeDesc.optional Client.persistError).text) ++ " \x7b\n") ++
          String.join (statements.map fun statement => statement.render 1) ++ "\x7d\n" := by
        rw [hfunction, FunctionDef.render, FunctionBody.render]
        simp only [FunctionKind.render, Option.elim_some, List.map_nil, String.append_assoc]
        exact rfl
    _ = wiringHead name ++ String.join (statements.map fun statement => statement.render 1) ++
          "\x7d\n" := by
        rw [hqualifiers, hreturns]
        exact rfl

/-- The words in front of the statements of a function. -/
def wiringHeadWords (name : String) : List (TokenKind × String) :=
  [(.identifier, "public"), (.identifier, "isolated"), (.identifier, "function"),
    (.identifier, name), (.punctuation, "("), (.punctuation, ")"), (.identifier, "returns"),
    (.identifier, "persist"), (.punctuation, ":"), (.identifier, "Error"), (.punctuation, "?"),
    (.punctuation, "\x7b")]

/-- The words of a function that runs some scripts. -/
def wiringWords (name : String) (scripts : List (List Char)) : List (TokenKind × String) :=
  wiringHeadWords name ++ scripts.flatMap executeWords ++ [(.punctuation, "\x7d")]

theorem braced_wiringHead {name : String} (hname : name ∈ [setupName, cleanupName]) :
    (Scanner.initial.run (wiringHead name).toList).Braced ∧
      (tokensIn (Scanner.initial.emits (wiringHead name).toList)).map Token.word =
        wiringHeadWords name := by
  have hall : ∀ name ∈ [setupName, cleanupName],
      ((Scanner.initial.run (wiringHead name).toList).mode = .code ∧
        (Scanner.initial.run (wiringHead name).toList).frames.map Frame.enclosure =
          [.bracket '\x7b']) ∧
      (tokensIn (Scanner.initial.emits (wiringHead name).toList)).map Token.word =
        wiringHeadWords name := by
    decide +kernel
  obtain ⟨⟨hmode, hframes⟩, hwords⟩ := hall name hname
  exact ⟨⟨hmode, hframes⟩, hwords⟩

/-- The statements run the scripts, one by one. -/
abbrev Executes (scripts : List (List Char)) (statements : List Snippet) : Prop :=
  List.Forall₂ (fun script statement => execute script = .ok statement) scripts statements

theorem isRead_of_executes {scripts : List (List Char)} {statements : List Snippet}
    (hexecutes : Executes scripts statements) :
    ∀ statement ∈ statements, statement.IsRead := by
  intro statement hstatement
  obtain ⟨index, hindex, rfl⟩ := List.getElem_of_mem hstatement
  exact .statement (execute_eq_ok_iff.mp
    (hexecutes.get (hexecutes.length_eq ▸ hindex) hindex)).2

/-- The words of each statement are those of its script. -/
theorem map_words_of_executes {scripts : List (List Char)} {statements : List Snippet}
    (hexecutes : Executes scripts statements)
    (htrimmed : ∀ script ∈ scripts, Text.trimEnd script = script) :
    (statements.map fun statement => wordsInBraces (statement.render 1)) =
      scripts.map executeWords := by
  induction hexecutes with
  | nil => rfl
  | cons hexecute _ ih =>
      obtain ⟨hscript, hscripts⟩ := List.forall_mem_cons.mp htrimmed
      rw [List.map_cons, List.map_cons, ih hscripts, wordsInBraces_execute hscript hexecute]

theorem words_of_executes {scripts : List (List Char)} {statements : List Snippet}
    (hexecutes : Executes scripts statements)
    (htrimmed : ∀ script ∈ scripts, Text.trimEnd script = script) :
    (statements.map fun statement => statement.render 1).flatMap wordsInBraces =
      scripts.flatMap executeWords := by
  calc (statements.map fun statement => statement.render 1).flatMap wordsInBraces
      = (statements.map fun statement => wordsInBraces (statement.render 1)).flatten := by
        rw [List.flatMap_def, List.map_map, Function.comp_def]
    _ = scripts.flatMap executeWords := by
        rw [map_words_of_executes hexecutes htrimmed, List.flatMap_def]

theorem wordsOf_wiringFunction {name : String} (hname : name ∈ [setupName, cleanupName])
    {scripts : List (List Char)} (htrimmed : ∀ script ∈ scripts, Text.trimEnd script = script)
    {statements : List Snippet} (hexecutes : Executes scripts statements) :
    wordsOf ((wiringFunction name statements).render 0) = wiringWords name scripts := by
  obtain ⟨hbraced, hwords⟩ := braced_wiringHead hname
  have hparts : ∀ part ∈ statements.map fun statement => statement.render 1, IsPart part := by
    intro part hpart
    obtain ⟨statement, hstatement, rfl⟩ := List.mem_map.mp hpart
    exact ⟨(isRead_of_executes hexecutes statement hstatement).neutral 1, endsLine_snippet _ _⟩
  -- the head, the statements and the closing brace
  rw [render_wiringFunction, wordsOf_braced hbraced hparts, hwords,
    words_of_executes hexecutes htrimmed, wiringWords]

theorem meets_wiringFunction {name : String} (hname : name ∈ [setupName, cleanupName])
    {statements : List Snippet} (hread : ∀ statement ∈ statements, statement.IsRead) :
    (wiringFunction name statements).Meets sourceVocabulary := by
  have hnames : ∀ name ∈ ["persist", "Error", setupName, cleanupName], IsName name := by
    decide +kernel
  have herror : (TypeDesc.optional Client.persistError).Names IsName :=
    names_optional (names_qualified (hnames _ (by simp)) (hnames _ (by simp)))
  have hfunction : IsName name := hnames name (by simp_all)
  exact (meets_named hfunction herror).withStatements hread

/-! ## The file -/

/-- The client that the functions use. -/
def testClient : Snippet := ⟨[⟨testClientDeclaration, false⟩]⟩

/-- The file with the statements of its two functions. -/
def wiringFile (setup cleanup : List Snippet) : SourceFile :=
  ⟨[⟨"ballerina", "persist", none, some (.autogenerated none)⟩], none,
    [.snippet testClient, .function (wiringFunction setupName setup),
      .function (wiringFunction cleanupName cleanup)]⟩

theorem memberIn_testClientDeclaration : memberIn testClientDeclaration = .ok testClient := by
  decide +kernel

/-- The statements of the second function are those of the scripts that drop something. -/
theorem executes_drops {scripts : List (List Char)} {statements : List (Snippet × Bool)}
    (hstatements : List.Forall₂
      (fun script statement => execute script = .ok statement.1 ∧ statement.2 = Sql.isDrop script)
      scripts statements) :
    Executes scripts (statements.map Prod.fst) ∧
      Executes (scripts.filter Sql.isDrop) ((statements.filter Prod.snd).map Prod.fst) := by
  induction hstatements with
  | nil => exact ⟨.nil, .nil⟩
  | @cons script statement rest others hfirst _ ih =>
      obtain ⟨hexecute, hdrop⟩ := hfirst
      refine ⟨.cons hexecute ih.1, ?_⟩
      rw [List.filter_cons, List.filter_cons, hdrop]
      split_ifs
      · exact .cons hexecute ih.2
      · exact ih.2

theorem exists_wiringFile {scripts : List String} {file : SourceFile}
    (hfile : generate scripts = .ok file) :
    ∃ setup cleanup, file = wiringFile setup cleanup ∧
      Executes (scriptsToRun scripts) setup ∧
      Executes ((scriptsToRun scripts).filter Sql.isDrop) cleanup := by
  simp only [generate, bind_eq_ok_iff, pure_eq_ok_iff, mapM_eq_ok_iff,
    readFragment_eq_ok_iff] at hfile
  obtain ⟨statements, hstatements, client, hclient, rfl⟩ := hfile
  rw [memberIn_testClientDeclaration, Except.ok.injEq] at hclient
  subst hclient
  refine ⟨_, _, rfl, executes_drops (hstatements.imp ?_)⟩
  rintro script _ ⟨statement, hexecute, rfl⟩
  exact ⟨hexecute, rfl⟩

theorem meets_wiringFile {setup cleanup : List Snippet}
    (hsetup : ∀ statement ∈ setup, statement.IsRead)
    (hcleanup : ∀ statement ∈ cleanup, statement.IsRead) :
    (wiringFile setup cleanup).Meets sourceVocabulary := by
  have hnames : IsName "ballerina" ∧ IsName "persist" := by decide +kernel
  have hmodule : IsModuleName "persist" :=
    ⟨hnames.2.1, fun c hc => by rw [hnames.2.2 c hc, Bool.true_or]⟩
  refine ⟨?_, by simp [wiringFile], ?_⟩
  · simp only [wiringFile, List.forall_mem_singleton]
    refine ⟨hnames.1, hmodule, by simp, ?_⟩
    rintro _ ⟨rfl⟩
    unfold Comment.Plain
    decide
  · simp only [wiringFile, List.forall_mem_cons]
    exact ⟨.member memberIn_testClientDeclaration, meets_wiringFunction (by simp) hsetup,
      meets_wiringFunction (by simp) hcleanup, by simp⟩

/-- The words in front of the two functions. -/
def preambleWords : List (TokenKind × String) :=
  wordsOf "import ballerina/persist;\n" ++ wordsOf (testClientDeclaration ++ "\n")

theorem words_of_preamble :
    wordsOf (Import.render ⟨"ballerina", "persist", none, some (.autogenerated none)⟩) ++
      wordsOf (testClient.render 0) = preambleWords := by
  have hplain : (Comment.autogenerated none).Plain := by
    unfold Comment.Plain
    decide
  have himport : IsPart "import ballerina/persist;\n" := ⟨neutral_of_run rfl, rfl⟩
  have htext : Import.render ⟨"ballerina", "persist", none, some (.autogenerated none)⟩ =
      (Comment.autogenerated none).render ++ "import ballerina/persist;\n" := rfl
  have hclient : testClient.render 0 = testClientDeclaration ++ "\n" := rfl
  have hcomment : wordsOf ((Comment.autogenerated none).render ++ "import ballerina/persist;\n") =
      wordsOf "import ballerina/persist;\n" := by
    rw [wordsOf_append (Comment.isPart hplain) himport, wordsOf_comment hplain, List.nil_append]
  rw [htext, hcomment, hclient, preambleWords]

/-- The words of the file are those of its two functions. -/
theorem words_of_generate {scripts : List String} {file : SourceFile}
    (hfile : generate scripts = .ok file) :
    ∃ scanned, tokenize file.render = .ok scanned ∧
      scanned.tokens.map Token.word = preambleWords ++
        wiringWords setupName (scriptsToRun scripts) ++
        wiringWords cleanupName ((scriptsToRun scripts).filter Sql.isDrop) := by
  obtain ⟨setup, cleanup, rfl, hsetup, hcleanup⟩ := exists_wiringFile hfile
  have hmeets := meets_wiringFile (isRead_of_executes hsetup) (isRead_of_executes hcleanup)
  obtain ⟨hpart, hwords⟩ := SourceFile.wordsOf_render sourceVocabulary_harmless hmeets
  obtain ⟨scanned, hscanned, htokens⟩ := hpart.tokenize_eq
  refine ⟨scanned, hscanned, ?_⟩
  calc scanned.tokens.map Token.word
      = (wiringFile setup cleanup).parts.flatMap wordsOf := htokens.trans hwords
    _ = preambleWords ++ wordsOf ((wiringFunction setupName setup).render 0) ++
          wordsOf ((wiringFunction cleanupName cleanup).render 0) := by
        rw [← words_of_preamble]
        simp [wiringFile, SourceFile.parts, ModuleMember.render]
    _ = preambleWords ++ wiringWords setupName (scriptsToRun scripts) ++
          wiringWords cleanupName ((scriptsToRun scripts).filter Sql.isDrop) := by
        rw [wordsOf_wiringFunction (by simp) (fun _ => trimEnd_of_mem_scriptsToRun) hsetup,
          wordsOf_wiringFunction (by simp)
            (fun _ hscript => trimEnd_of_mem_scriptsToRun (List.mem_filter.mp hscript).1) hcleanup]

/-- **Test wiring holds the scripts.**  The words of the file are those of its two
functions, the first of which runs every script and the second those that drop something,
and the literal of a script is the script itself exactly when no blank stands in front of
its first line break. -/
theorem generate_embeds_scripts {scripts : List String} {file : SourceFile}
    (hfile : generate scripts = .ok file) :
    (∃ scanned, tokenize file.render = .ok scanned ∧
      scanned.tokens.map Token.word = preambleWords ++
        wiringWords setupName (scriptsToRun scripts) ++
        wiringWords cleanupName ((scriptsToRun scripts).filter Sql.isDrop)) ∧
      ∀ script ∈ scriptsToRun scripts, literalText script = script ↔ ¬ BlankBeforeBreak script :=
  ⟨words_of_generate hfile, fun _ hscript =>
    literalText_eq_iff (trimEnd_of_mem_scriptsToRun hscript)⟩

/-- Two scripts over several lines, one of which drops a table. -/
def tableScripts : List String :=
  ["\n  create table t (\n    a text  \n  );\n", "drop table\n  t;"]

theorem generate_embeds_tableScripts :
    ∃ file scanned, generate tableScripts = .ok file ∧ tokenize file.render = .ok scanned ∧
      ((scanned.tokens.map Token.word).filter fun word => word.1 == .template) =
        [(.template, "create table t (\n    a text  \n  );"), (.template, "drop table\n  t;"),
          (.template, "drop table\n  t;")] := by
  obtain ⟨file, hfile⟩ := exists_of_isOk (show (generate tableScripts).isOk = true by
    decide +kernel)
  obtain ⟨⟨scanned, hscanned, hwords⟩, -⟩ := generate_embeds_scripts hfile
  refine ⟨file, scanned, hfile, hscanned, ?_⟩
  rw [hwords]
  decide +kernel

/-- The literal of the script `a \nb` has no blank in it. -/
theorem blank_before_break_is_lost :
    scriptsToRun ["a \nb"] = ["a \nb".toList] ∧
      ∃ file scanned, generate ["a \nb"] = .ok file ∧ tokenize file.render = .ok scanned ∧
        ((scanned.tokens.map Token.word).filter fun word => word.1 == .template) =
          [(.template, "a\nb")] := by
  refine ⟨by decide +kernel, ?_⟩
  obtain ⟨file, hfile⟩ := exists_of_isOk (show (generate ["a \nb"]).isOk = true by
    decide +kernel)
  obtain ⟨scanned, hscanned, hwords⟩ := words_of_generate hfile
  refine ⟨file, scanned, hfile, hscanned, ?_⟩
  rw [hwords]
  decide +kernel

end PersistLayer.TestWiring
