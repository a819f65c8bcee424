import PersistLayer.Proofs.Command.Settings
import PersistLayer.Proofs.Config.Sample
import PersistLayer.Proofs.Files.Writing

/-!
# A command writes one file or none

A run has three parts.  It reads the environment file, the settings and the script, it makes
one artifact from them, and it writes that artifact.  The first two touch no file, so what
fails in them leaves everything as it was.  The last either leaves directories at most or opens
its file, and then a disk that takes all of the text completes it.

So a run that fails changes no file, and a run that succeeds changes one: the file of the
artifact that the effective settings ask for, in the directory that they name
(`run_writes_one_file_or_none`).  A disk that takes less than the text is the one thing that can
fail later than that, and it leaves the beginning of the text.
-/

namespace PersistLayer.Command

open Config (Settings)
open Files (Entry Tree IsFileName)

/-- All artifacts have names under which they can be written. -/
theorem isFileName_fileName (artifact : Artifact) : IsFileName artifact.fileName := by
  have hnames : ∀ name ∈ ["persist_client.bal", "persist_types.bal", "persist_db_config.bal",
      "Config.toml", "persist_test_init.bal"], '/' ∉ name.toList ∧
        Files.Step.ofSegment name = .into name ∧ name ≠ "null" ∧ name ≠ "stdin" := by
    decide
  have hmem : artifact.fileName ∈ ["persist_client.bal", "persist_types.bal",
      "persist_db_config.bal", "Config.toml", "persist_test_init.bal"] := by
    cases artifact <;> simp [Artifact.fileName]
  obtain ⟨hslash, hstep, hdevice⟩ := hnames _ hmem
  exact ⟨hslash, hstep, hdevice⟩

/-! ## What is made -/

section Made

variable (process : String → Option String) (assigned : Environment) (tree : Tree)

/-- What each task makes, from the settings that it goes by and the files that it reads. -/
inductive Makes : Task → Artifact → Prop
  | config {flag : Option Datasource} {datasource : Datasource} {source : Syntax.SourceFile}
      (hdatasource : DatasourceIs process assigned flag datasource)
      (hsource : Config.declarations datasource = .ok source) :
      Makes (.config flag) (.configDeclarations source)
  | configSample {flag : Option Datasource} {datasource : Datasource} {moduleFlag : Option String}
      {name : String} {sample : Config.Sample}
      (hdatasource : DatasourceIs process assigned flag datasource)
      (hname : ModuleIs process assigned moduleFlag name)
      (hsample : Config.sample name datasource = .ok sample) :
      Makes (.configSample flag moduleFlag) (.configSample sample)
  | testInit {path text : String} {content : ByteArray} {source : Syntax.SourceFile}
      (hscript : tree.find path = .file content) (htext : String.fromUTF8? content = some text)
      (hsource : TestWiring.generate ((Sql.splitStatements text.toList).map String.ofList) =
        .ok source) :
      Makes (.testInit path) (.testWiring source)

end Made

section Artifacts

variable {process : String → Option String} {assigned : Environment} {settings : Settings}
  {tree : Tree} {artifact : Artifact}

theorem IsRead.datasource_iff (hread : IsRead process assigned settings)
    {flag : Option Datasource} {datasource : Datasource} :
    DatasourceIs process assigned flag datasource ↔
      flag.getD settings.datasource = datasource :=
  ⟨fun h => (hread.datasource flag).unique h, fun h => h ▸ hread.datasource flag⟩

theorem IsRead.outputDir_iff (hread : IsRead process assigned settings)
    {flag : Option String} {directory : String} :
    OutputDirIs process assigned flag directory ↔ flag.getD settings.outputDir = directory :=
  ⟨fun h => (hread.outputDir flag).unique h, fun h => h ▸ hread.outputDir flag⟩

theorem requireModule_eq_ok_iff {name : String} :
    settings.requireModule = .ok name ↔ settings.moduleName = some name := by
  unfold Settings.requireModule
  cases settings.moduleName <;> simp

theorem textOf?_eq_some_iff {entry : Entry} {text : String} : textOf? entry = some text ↔
    ∃ content, entry = .file content ∧ String.fromUTF8? content = some text := by
  cases entry <;> simp [textOf?]

/-- **The artifact of a task is made from the effective settings.** -/
theorem artifactOf_eq_ok_iff (hread : IsRead process assigned settings) {task : Task} :
    artifactOf task settings (task.findScript tree) = .ok artifact ↔
      Makes process assigned tree task artifact := by
  cases task with
  | config flag =>
      simp only [artifactOf, bind_eq_ok_iff, pure_eq_ok_iff]
      constructor
      · rintro ⟨source, hsource, rfl⟩
        exact .config (hread.datasource flag) hsource
      · rintro ⟨hdatasource, hsource⟩
        rw [hread.datasource_iff] at hdatasource
        exact ⟨_, hdatasource ▸ hsource, rfl⟩
  | configSample flag moduleFlag =>
      simp only [artifactOf, bind_eq_ok_iff, pure_eq_ok_iff, requireModule_eq_ok_iff]
      constructor
      · rintro ⟨name, hname, sample, hsample, rfl⟩
        exact .configSample (hread.datasource flag) ((hread.moduleName moduleFlag name).mpr hname)
          hsample
      · rintro (_ | ⟨hdatasource, hname, hsample⟩)
        rw [hread.datasource_iff] at hdatasource
        exact ⟨_, (hread.moduleName moduleFlag _).mp hname, _, hdatasource ▸ hsample, rfl⟩
  | testInit path =>
      -- the one task that reads another file: there must be one, and it must be text
      have hscript : Task.findScript (.testInit path) tree = tree.find path := rfl
      rw [hscript]
      constructor
      · intro hartifact
        cases htext : textOf? (tree.find path) with
        | none => simp [artifactOf, htext, throw, throwThe, MonadExceptOf.throw] at hartifact
        | some text =>
            simp only [artifactOf, htext, bind_eq_ok_iff, pure_eq_ok_iff] at hartifact
            obtain ⟨source, hsource, rfl⟩ := hartifact
            obtain ⟨content, hfind, hcontent⟩ := textOf?_eq_some_iff.mp htext
            exact .testInit hfind hcontent hsource
      · rintro (_ | _ | ⟨hfind, hcontent, hsource⟩)
        simp only [artifactOf, textOf?_eq_some_iff.mpr ⟨_, hfind, hcontent⟩, bind_eq_ok_iff,
          pure_eq_ok_iff]
        exact ⟨_, hsource, rfl⟩

/-- What an invocation asks for, with what its environment file sets: the variable of the
database is unset or names one, and the effective settings lead to the artifact and to the
directory.  The script is read behind the environment file. -/
structure AsksFor (process : String → Option String) (assigned : Environment) (tree : Tree)
    (invocation : Invocation) (output : Output) : Prop where
  assigns : FileSets process (tree.find invocation.envFile) assigned
  database : ∃ datasource, DatasourceIs process assigned none datasource
  artifact : Makes process assigned (tree.behindReading invocation.envFile) invocation.task
    output.artifact
  directory : OutputDirIs process assigned invocation.output output.directory

theorem generate_eq_ok_iff (hempty : process "" = none) {invocation : Invocation}
    {output : Output} :
    generate invocation process (tree.find invocation.envFile)
        (invocation.task.findScript (tree.behindReading invocation.envFile)) = .ok output ↔
      ∃ assigned, AsksFor process assigned tree invocation output := by
  simp only [generate, loadSettings, bind_eq_ok_iff, pure_eq_ok_iff,
    envFileVariables_eq_ok_iff hempty]
  constructor
  · rintro ⟨settings, ⟨assigned, hfile, hsettings⟩, artifact, hartifact, rfl⟩
    have hread := isRead_of_ofVariables hfile hsettings
    exact ⟨assigned, hfile, (exists_ofVariables_iff hfile).mp ⟨settings, hsettings⟩,
      (artifactOf_eq_ok_iff hread).mp hartifact, hread.outputDir _⟩
  · rintro ⟨assigned, hfile, hknown, hmakes, hdirectory⟩
    obtain ⟨settings, hsettings⟩ := (exists_ofVariables_iff hfile).mpr hknown
    have hread := isRead_of_ofVariables hfile hsettings
    rw [hread.outputDir_iff] at hdirectory
    exact ⟨settings, ⟨assigned, hfile, hsettings⟩, output.artifact,
      (artifactOf_eq_ok_iff hread).mpr hmakes, by rw [hdirectory]⟩

end Artifacts

/-! ## Runs -/

/-- A run that an error stops is not done. -/
theorem ofError_ne_done (error : GenerationError) : Ending.ofError error ≠ .done := by
  unfold Ending.ofError
  split <;> simp

/-- The path that an output is written to. -/
def Output.path (output : Output) : String :=
  Files.join output.directory output.artifact.fileName

/-- The bytes of an output. -/
def Output.bytes (output : Output) : ByteArray := output.artifact.render.toUTF8

/-- What a disk leaves that takes only the beginning of an output. -/
def CutShort (tree after : Tree) (limit : Option Nat) (output : Output) : Prop :=
  ∃ size, limit = some size ∧ size < output.bytes.size ∧
    Tree.Written tree after output.path (output.bytes.extract 0 size)

section Runs

variable {tree : Tree} {values : String → Option ByteArray} {arguments : List String}
  {limit : Option Nat} {invocation : Invocation}

/-- Without an output a run fails on the tree as it was. -/
theorem runOn_of_error {error : GenerationError}
    (herror : generate invocation (textOfVariable values) (tree.find invocation.envFile)
      (invocation.task.findScript (tree.behindReading invocation.envFile)) = .error error) :
    runOn tree values limit invocation = (.ofError error, tree) := by
  simp only [runOn, herror]

/-- With an output a run ends as the writing of it does. -/
theorem runOn_of_ok {output : Output}
    (houtput : generate invocation (textOfVariable values) (tree.find invocation.envFile)
      (invocation.task.findScript (tree.behindReading invocation.envFile)) = .ok output) :
    (runOn tree values limit invocation).2 = (output.write tree limit).1 ∧
      ((runOn tree values limit invocation).1 = .done ↔
        (output.write tree limit).2 = true) := by
  simp only [runOn, houtput]
  cases hwrite : output.write tree limit with
  | mk after written => cases written <;> simp [ofError_ne_done]

theorem textOfVariable_empty : textOfVariable values "" = none := rfl

/-- **How a run ends.**  It fails and no file has changed; or it has written what was asked for;
or it fails because the disk took only the beginning of that. -/
theorem runOn_cases (tree : Tree) (values : String → Option ByteArray) (limit : Option Nat)
    (invocation : Invocation) :
    ((runOn tree values limit invocation).1 ≠ .done ∧ ∀ place,
      (runOn tree values limit invocation).2.file? place = tree.file? place) ∨
    ∃ assigned output, AsksFor (textOfVariable values) assigned tree invocation output ∧
      (((runOn tree values limit invocation).1 = .done ∧
        Tree.Written tree (runOn tree values limit invocation).2 output.path output.bytes) ∨
      ((runOn tree values limit invocation).1 ≠ .done ∧
        CutShort tree (runOn tree values limit invocation).2 limit output)) := by
  cases hgenerate : generate invocation (textOfVariable values) (tree.find invocation.envFile)
      (invocation.task.findScript (tree.behindReading invocation.envFile)) with
  | error error =>
      -- without an artifact nothing is written
      rw [runOn_of_error hgenerate]
      exact .inl ⟨ofError_ne_done error, fun _ => rfl⟩
  | ok output =>
      obtain ⟨hafter, hdone⟩ := @runOn_of_ok tree values limit invocation _ hgenerate
      obtain ⟨assigned, hasks⟩ := (generate_eq_ok_iff textOfVariable_empty).mp hgenerate
      rw [hafter, Ne, hdone, Bool.not_eq_true]
      obtain ⟨hnot, hsame⟩ | hwritten | ⟨size, hlimit, hshort, hnot, hwritten⟩ :=
        @Tree.write_cases tree output.directory _ output.artifact.render limit
          (isFileName_fileName output.artifact)
      · exact .inl ⟨hnot, hsame⟩
      · exact .inr ⟨assigned, output, hasks, .inl hwritten⟩
      · exact .inr ⟨assigned, output, hasks, .inr ⟨hnot, size, hlimit, hshort, hwritten⟩⟩

/-- A run succeeds when there is an output and it can be written. -/
theorem done_iff : (runOn tree values limit invocation).1 = .done ↔
    ∃ assigned output, AsksFor (textOfVariable values) assigned tree invocation output ∧
      (output.write tree limit).2 = true := by
  cases hgenerate : generate invocation (textOfVariable values) (tree.find invocation.envFile)
      (invocation.task.findScript (tree.behindReading invocation.envFile)) with
  | error error =>
      refine iff_of_false (by rw [runOn_of_error hgenerate]; exact ofError_ne_done error) ?_
      rintro ⟨assigned, output, hasks, -⟩
      rw [(generate_eq_ok_iff textOfVariable_empty).mpr ⟨assigned, hasks⟩] at hgenerate
      cases hgenerate
  | ok output =>
      rw [(runOn_of_ok hgenerate).2]
      constructor
      · intro hwritten
        obtain ⟨assigned, hasks⟩ := (generate_eq_ok_iff textOfVariable_empty).mp hgenerate
        exact ⟨assigned, output, hasks, hwritten⟩
      · rintro ⟨assigned, other, hasks, hwritten⟩
        rw [(generate_eq_ok_iff textOfVariable_empty).mpr ⟨assigned, hasks⟩] at hgenerate
        obtain rfl := Except.ok.inj hgenerate
        exact hwritten

/-- A run that is done has read its environment file and a variable that names a database. -/
theorem exists_datasource_of_done (hdone : (runOn tree values limit invocation).1 = .done) :
    ∃ assigned datasource, FileSets (textOfVariable values) (tree.find invocation.envFile) assigned ∧
      DatasourceIs (textOfVariable values) assigned none datasource := by
  obtain ⟨assigned, output, hasks, -⟩ := done_iff.mp hdone
  obtain ⟨datasource, hdatasource⟩ := hasks.database
  exact ⟨assigned, datasource, hasks.assigns, hdatasource⟩

/-- **A command writes its one file or changes none.**  On a disk that takes all that is
written, a run that fails leaves every file as it was; on any other it may also leave the
beginning of its one file.  A run that succeeds has written the artifact that the effective
settings ask for, to the directory that they name, and has changed no other file; it succeeds
exactly when there is such an artifact and its file can be written.  A variable that names no
database makes a run fail, whether the process or the environment file sets it, and whatever the
flags are. -/
theorem run_writes_one_file_or_none (hinvocation : readArguments arguments = .ok invocation) :
    (limit = none → (run tree values arguments limit).1 ≠ .done →
      ∀ place, (run tree values arguments limit).2.file? place = tree.file? place) ∧
    ((run tree values arguments limit).1 ≠ .done →
      (∀ place, (run tree values arguments limit).2.file? place = tree.file? place) ∨
      ∃ assigned output, AsksFor (textOfVariable values) assigned tree invocation output ∧
        CutShort tree (run tree values arguments limit).2 limit output) ∧
    ((run tree values arguments limit).1 = .done →
      ∃ assigned output, AsksFor (textOfVariable values) assigned tree invocation output ∧
        Tree.Written tree (run tree values arguments limit).2 output.path output.bytes) ∧
    ((run tree values arguments limit).1 = .done ↔
      ∃ assigned output, AsksFor (textOfVariable values) assigned tree invocation output ∧
        (output.write tree limit).2 = true) ∧
    (∀ value, textOfVariable values "PERSIST_DATASOURCE" = some value →
      Datasource.ofIdentifier? value = none → (run tree values arguments limit).1 ≠ .done) ∧
    ∀ assigned value, FileSets (textOfVariable values) (tree.find invocation.envFile) assigned →
      assigned.lookup "PERSIST_DATASOURCE" = some value →
      Datasource.ofIdentifier? value = none → (run tree values arguments limit).1 ≠ .done := by
  have hrun : run tree values arguments limit = runOn tree values limit invocation := by
    rw [run, hinvocation]
  rw [hrun]
  have hcases := runOn_cases tree values limit invocation
  refine ⟨?_, ?_, ?_, done_iff, ?_, ?_⟩
  · -- a disk that takes everything cuts no file short
    intro hwhole hfailed
    rcases hcases with ⟨-, hsame⟩ | ⟨_, _, -, ⟨hdone, -⟩ | ⟨-, size, hlimit, -⟩⟩
    · exact hsame
    · exact absurd hdone hfailed
    · rw [hwhole] at hlimit
      cases hlimit
  · intro hfailed
    rcases hcases with ⟨-, hsame⟩ | ⟨assigned, output, hasks, ⟨hdone, -⟩ | ⟨-, hcut⟩⟩
    · exact .inl hsame
    · exact absurd hdone hfailed
    · exact .inr ⟨assigned, output, hasks, hcut⟩
  · intro hdone
    rcases hcases with ⟨hfailed, -⟩ | ⟨assigned, output, hasks, ⟨-, hwritten⟩ | ⟨hfailed, -⟩⟩
    · exact absurd hdone hfailed
    · exact ⟨assigned, output, hasks, hwritten⟩
    · exact absurd hdone hfailed
  · -- every run that succeeds has read a database from the variables
    intro value hvalue hunknown hdone
    obtain ⟨assigned, datasource, hfile, hdatasource⟩ := exists_datasource_of_done hdone
    exact not_effective_of_unknown hfile (.inl hvalue) hunknown datasource hdatasource
  · intro assigned value hfile hvalue hunknown hdone
    obtain ⟨others, datasource, hothers, hdatasource⟩ := exists_datasource_of_done hdone
    obtain rfl := hfile.unique textOfVariable_empty hothers
    exact not_effective_of_unknown hfile (.inr hvalue) hunknown datasource hdatasource

end Runs

/-! ## A sample -/

/-- An environment file with a remark, a variable in a value, quotes, and a variable that is
assigned to twice. -/
def sampleEnvFile : String :=
  "# the sample\nROOT=hr\nexport PERSIST_MODULE=\"$\x7bROOT\x7d.core\" # a module\n" ++
    "PERSIST_MODULE=late\nPERSIST_DATASOURCE='h2'\nPERSIST_OUTPUT_DIR=elsewhere\n"

/-- An environment file, a sample from before, and a file beside it. -/
def sampleTree (envFile : String) : Tree :=
  .ofFiles [(".env", envFile.toUTF8), ("out/Config.toml", "[old]\n".toUTF8),
    ("out/notes.txt", "notes".toUTF8)]

/-- The process has a directory, and for the module a value that is no text. -/
def sampleValues : String → Option ByteArray
  | "PERSIST_OUTPUT_DIR" => some "out".toUTF8
  | "PERSIST_MODULE" => some ⟨#[0xFF]⟩
  | _ => none

/-- What the environment file sets beside those variables. -/
def sampleAssigned : Environment :=
  [("ROOT", "hr"), ("PERSIST_MODULE", "hr.core"), ("PERSIST_DATASOURCE", "h2")]

theorem fileSets_sampleEnvFile : FileSets (textOfVariable sampleValues)
    ((sampleTree sampleEnvFile).find "./.env") sampleAssigned := by
  have hassigned : (envFileVariables (textOfVariable sampleValues) "./.env"
      ((sampleTree sampleEnvFile).find "./.env")).toOption = some sampleAssigned := by
    decide +kernel
  cases hfile : envFileVariables (textOfVariable sampleValues) "./.env"
      ((sampleTree sampleEnvFile).find "./.env") with
  | error error =>
      rw [hfile] at hassigned
      cases hassigned
  | ok assigned =>
      rw [hfile] at hassigned
      obtain rfl := Option.some.inj hassigned
      exact (envFileVariables_eq_ok_iff textOfVariable_empty).mp hfile

/-- What a run without flags asks for on that tree. -/
theorem output_of_asksFor_sample {assigned : Environment} {output : Output}
    (hasks : AsksFor (textOfVariable sampleValues) assigned (sampleTree sampleEnvFile)
      ⟨.configSample none none, none, "./.env"⟩ output) :
    output.path = "out/Config.toml" ∧
      output.bytes = "[hr.core]\nurl = \"\"\nuser = \"\"\npassword = \"\"\n".toUTF8 := by
  obtain ⟨directory, artifact⟩ := output
  obtain ⟨hfile, -, hmakes, hdirectory⟩ := hasks
  obtain rfl := hfile.unique textOfVariable_empty fileSets_sampleEnvFile
  -- the process has the directory, the file the rest
  obtain rfl : directory = "out" := hdirectory.unique (.process rfl _)
  obtain _ | ⟨hdatasource, hname, hsample⟩ := hmakes
  have hh2 : DatasourceIs (textOfVariable sampleValues) sampleAssigned none .h2 := .file rfl
  have hcore : ModuleIs (textOfVariable sampleValues) sampleAssigned none "hr.core" := .file rfl
  rw [hdatasource.unique hh2, hname.unique hcore] at hsample
  obtain ⟨-, hpath, hvalues⟩ := Config.sample_eq_ok_iff.mp hsample
  constructor
  · show Files.join "out" "Config.toml" = "out/Config.toml"
    decide +kernel
  · rw [Output.bytes, Artifact.render, Config.Sample.render, hpath.eq_path, hvalues]
    decide +kernel

/-- A sample takes the place of the one before; on a disk with room for four bytes it leaves
these.  With a database of an unknown name in the environment file nothing is written, although
the flag names another. -/
theorem sample_is_written_or_not :
    readArguments ["config-sample"] = .ok ⟨.configSample none none, none, "./.env"⟩ ∧
      (run (sampleTree sampleEnvFile) sampleValues ["config-sample"]).1 = .done ∧
      (run (sampleTree sampleEnvFile) sampleValues ["config-sample"]).2.find "out/Config.toml" =
        .file "[hr.core]\nurl = \"\"\nuser = \"\"\npassword = \"\"\n".toUTF8 ∧
      (run (sampleTree sampleEnvFile) sampleValues ["config-sample"] (some 4)).1 ≠ .done ∧
      (run (sampleTree sampleEnvFile) sampleValues ["config-sample"] (some 4)).2.find
        "out/Config.toml" = .file "[hr.".toUTF8 ∧
      readArguments ["config-sample", "--datasource=h2"] =
        .ok ⟨.configSample (some .h2) none, none, "./.env"⟩ ∧
      (run (sampleTree "PERSIST_DATASOURCE=oracle") sampleValues
        ["config-sample", "--datasource=h2"]).1 ≠ .done ∧
      ∀ place, (run (sampleTree "PERSIST_DATASOURCE=oracle") sampleValues
        ["config-sample", "--datasource=h2"]).2.file? place =
          (sampleTree "PERSIST_DATASOURCE=oracle").file? place := by
  have harguments : readArguments ["config-sample"] =
      .ok ⟨.configSample none none, none, "./.env"⟩ := by rfl
  have hflag : readArguments ["config-sample", "--datasource=h2"] =
      .ok ⟨.configSample (some .h2) none, none, "./.env"⟩ := by rfl
  have hdone : (run (sampleTree sampleEnvFile) sampleValues ["config-sample"]).1 = .done := by
    decide +kernel
  have hcut : (run (sampleTree sampleEnvFile) sampleValues ["config-sample"] (some 4)).1 ≠
      .done := by
    decide +kernel
  have hfailed : (run (sampleTree "PERSIST_DATASOURCE=oracle") sampleValues
      ["config-sample", "--datasource=h2"]).1 ≠ .done := by
    decide +kernel
  refine ⟨harguments, hdone, ?_, hcut, ?_, hflag, hfailed, ?_⟩
  · obtain ⟨-, -, hwritten, -⟩ := @run_writes_one_file_or_none (sampleTree sampleEnvFile)
      sampleValues _ none _ harguments
    obtain ⟨assigned, output, hasks, hfound, -⟩ := hwritten hdone
    obtain ⟨hpath, hbytes⟩ := output_of_asksFor_sample hasks
    rw [← hpath, ← hbytes]
    exact hfound
  · obtain ⟨-, hleft, -⟩ := @run_writes_one_file_or_none (sampleTree sampleEnvFile)
      sampleValues _ (some 4) _ harguments
    obtain hsame | ⟨assigned, output, hasks, size, hsize, -, hfound, -⟩ := hleft hcut
    · -- the sample from before is gone
      exact absurd (hsame ⟨.above 0, ["out", "Config.toml"]⟩) (by decide +kernel)
    · obtain ⟨hpath, hbytes⟩ := output_of_asksFor_sample hasks
      obtain rfl := Option.some.inj hsize
      have hbegins : "[hr.".toUTF8 = output.bytes.extract 0 4 := by
        rw [hbytes]
        decide +kernel
      rw [← hpath, hbegins]
      exact hfound
  · obtain ⟨hunchanged, -⟩ := @run_writes_one_file_or_none
      (sampleTree "PERSIST_DATASOURCE=oracle") sampleValues _ none _ hflag
    exact hunchanged rfl hfailed

end PersistLayer.Command
