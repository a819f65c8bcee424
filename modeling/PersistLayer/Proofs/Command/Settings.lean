import PersistLayer.Command.Run
import PersistLayer.Proofs.Command.EnvFile
import PersistLayer.Proofs.Except

/-!
# Where settings come from

A setting is the flag if there is one, else what the variable of the process says, else what
the environment file says, else a default (`Effective`).  The generator does not go through
these in order.  It merges the variables first, reads all settings from the result, and puts
the flags on top of them later, each command its own.  So the variable of the database is
read in any case, and one that names no database stops a command that has no use for it
(`not_effective_of_unknown`).

What the environment file says is said by what is found at its path (`FileSets`).  The system
finds the value of a name in a text `NAME=VALUE`; since no name in a file has an equals sign,
that is the value that the file gives to the very name (`Environment.text?_eq_lookup`).
-/

namespace PersistLayer.Command

open Config (Settings)

/-! ## Sources -/

section Sources

variable {α : Type} {read : String → Option α} {fallback : Option α}

/-- Where the value of a setting comes from: the flag, the variable of the process, the
environment file or the default, the first of these that there is. -/
inductive Effective (read : String → Option α) (fallback : Option α) :
    Option α → Option String → Option String → α → Prop
  | flag (value : α) (process file : Option String) :
      Effective read fallback (some value) process file value
  | process {text : String} {value : α} (hread : read text = some value) (file : Option String) :
      Effective read fallback none (some text) file value
  | file {text : String} {value : α} (hread : read text = some value) :
      Effective read fallback none none (some text) value
  | default {value : α} (hfallback : fallback = some value) :
      Effective read fallback none none none value

theorem effective_iff {flag : Option α} {process file : Option String} {value : α} :
    Effective read fallback flag process file value ↔
      flag.or ((process.or file).elim fallback read) = some value := by
  constructor
  · rintro (_ | ⟨hread, _⟩ | hread | hfallback)
    · rfl
    · exact hread
    · exact hread
    · exact hfallback
  · intro hvalue
    match flag, process, file with
    | some _, process, file =>
        obtain rfl := Option.some.inj hvalue
        exact .flag _ process file
    | none, some _, file => exact .process hvalue file
    | none, none, some _ => exact .file hvalue
    | none, none, none => exact .default hvalue

end Sources

/-! ## The environment file -/

/-- Two names in front of an equals sign that hold none themselves. -/
theorem eq_of_prefix_equals {name key rest : List Char} (hname : '=' ∉ name) (hkey : '=' ∉ key)
    (hfront : name ++ ['='] <+: key ++ '=' :: rest) : name = key := by
  induction name generalizing key with
  | nil =>
      cases key with
      | nil => rfl
      | cons d others =>
          have hfirst := (List.cons_prefix_cons.mp hfront).1
          exact absurd (hfirst ▸ List.mem_cons_self) hkey
  | cons c tail ih =>
      simp only [List.mem_cons, not_or] at hname
      cases key with
      | nil => exact absurd (List.cons_prefix_cons.mp hfront).1.symm hname.1
      | cons d others =>
          simp only [List.mem_cons, not_or] at hkey
          obtain ⟨rfl, hrest⟩ := List.cons_prefix_cons.mp hfront
          rw [ih hname.2 hkey.2 hrest]

/-- Among names without an equals sign, the text of a name is what stands behind that name. -/
theorem Environment.text?_eq_lookup {environment : Environment} {name : String}
    (hentries : ∀ entry ∈ environment, '=' ∉ entry.1.toList) (hname : '=' ∉ name.toList)
    (hsome : name ≠ "") : environment.text? name = environment.lookup name := by
  rw [text?, if_neg (by simpa using hsome)]
  induction environment with
  | nil => rfl
  | cons entry rest ih =>
      obtain ⟨key, value⟩ := entry
      obtain ⟨hkey, hrest⟩ := List.forall_mem_cons.mp hentries
      rw [List.findSome?_cons, List.lookup_cons, ih hrest]
      by_cases hsame : name = key
      · subst hsame
        have hbehind : behind? (name.toList ++ ['=']) (entryText (name, value)) =
            some value.toList := by
          simp [behind?, entryText]
        simp [hbehind]
      · have hbehind : behind? (name.toList ++ ['=']) (entryText (key, value)) = none := by
          refine if_neg fun hfront => hsame (String.toList_inj.mp ?_)
          exact eq_of_prefix_equals hname hkey (List.isPrefixOf_iff_prefix.mp hfront)
        simp [hbehind, beq_eq_false_iff_ne.mpr hsame]

/-- What is found at the path of an environment file sets variables.  Nothing sets none, and a
file those that its lines set.  From a directory nothing can be read. -/
inductive FileSets (process : String → Option String) : Files.Entry → Environment → Prop
  | missing : FileSets process .missing []
  | file {content : ByteArray} {assigned : Environment}
      (hlines : EnvFile.Sets process [] (EnvFile.assignmentsIn content) assigned) :
      FileSets process (.file content) assigned

section File

variable {process : String → Option String} {path : String} {entry : Files.Entry}
  {assigned : Environment}

/-- **The variables of an environment file are those that what is found at its path sets.** -/
theorem envFileVariables_eq_ok_iff (hempty : process "" = none) :
    envFileVariables process path entry = .ok assigned ↔ FileSets process entry assigned := by
  cases entry with
  | missing =>
      constructor
      · intro hfile
        obtain rfl := Except.ok.inj hfile
        exact .missing
      · rintro (_ | _)
        rfl
  | directory =>
      -- reading fails, and nothing is set by a directory
      exact iff_of_false (by simp [envFileVariables]) (by rintro (_ | _))
  | file content =>
      have hlines := @EnvFile.assign_eq_ok_iff process [] assigned hempty
        (EnvFile.assignmentsIn content)
      rw [envFileVariables, EnvFile.assignedVariables]
      constructor
      · intro hfile
        cases hassigned : EnvFile.assign process [] (EnvFile.assignmentsIn content) with
        | error fault =>
            rw [hassigned] at hfile
            cases hfile
        | ok all =>
            rw [hassigned] at hfile
            obtain rfl := Except.ok.inj hfile
            exact .file (hlines.mp hassigned)
      · rintro (_ | hsets)
        rw [hlines.mpr hsets]
        rfl

/-- An environment file sets variables in one way. -/
theorem FileSets.unique (hempty : process "" = none) {other : Environment}
    (hfile : FileSets process entry assigned) (hother : FileSets process entry other) :
    assigned = other := by
  have hall : envFileVariables process "" entry = .ok assigned :=
    (envFileVariables_eq_ok_iff hempty).mpr hfile
  have hallOther : envFileVariables process "" entry = .ok other :=
    (envFileVariables_eq_ok_iff hempty).mpr hother
  exact Except.ok.inj (hall.symm.trans hallOther)

theorem FileSets.isNew (hfile : FileSets process entry assigned) :
    ∀ entry ∈ assigned, EnvFile.IsNew process entry := by
  rcases hfile with _ | hlines
  · simp
  · exact hlines.isNew (by simp)

/-- What the process and the file say, for a name without an equals sign. -/
theorem FileSets.merged_eq (hfile : FileSets process entry assigned) {name : String}
    (hname : '=' ∉ name.toList) (hsome : name ≠ "") :
    merged process assigned name = (process name).or (assigned.lookup name) := by
  rw [merged, Environment.text?_eq_lookup (fun entry hentry => (hfile.isNew entry hentry).noEquals)
    hname hsome]

/-- **A variable that the process has is not set again.** -/
theorem FileSets.process_eq_none (hfile : FileSets process entry assigned) {name value : String}
    (hvalue : assigned.lookup name = some value) : process name = none := by
  obtain ⟨front, back, rfl, -⟩ := List.lookup_eq_some_iff.mp hvalue
  exact (hfile.isNew (name, value) (by simp)).unset

end File

/-! ## Settings -/

section Variables

variable (process : String → Option String) (assigned : Environment)

/-- The database that a command is for. -/
def DatasourceIs (flag : Option Datasource) (datasource : Datasource) : Prop :=
  Effective Datasource.ofIdentifier? (some .mysql) flag (process "PERSIST_DATASOURCE")
    (assigned.lookup "PERSIST_DATASOURCE") datasource

/-- The name of a module, unless it is blank. -/
def moduleNameOf (text : String) : Option String :=
  if Text.allBlank text.toList then none else some text

/-- The module that a sample is for.  There is no default, and a variable that is blank gives
none. -/
def ModuleIs (flag : Option String) (name : String) : Prop :=
  Effective moduleNameOf none flag (process "PERSIST_MODULE") (assigned.lookup "PERSIST_MODULE")
    name

/-- The directory that a command writes to. -/
def OutputDirIs (flag : Option String) (directory : String) : Prop :=
  Effective some (some "./generated") flag (process "PERSIST_OUTPUT_DIR")
    (assigned.lookup "PERSIST_OUTPUT_DIR") directory

/-- The settings that a command reads before it looks at its flags. -/
structure IsRead (settings : Settings) : Prop where
  datasource : ∀ flag, DatasourceIs process assigned flag (flag.getD settings.datasource)
  moduleName : ∀ flag name, ModuleIs process assigned flag name ↔
    flag.or settings.moduleName = some name
  outputDir : ∀ flag, OutputDirIs process assigned flag (flag.getD settings.outputDir)

end Variables

section Settings

variable {settings : Settings}

/-- The settings from some variables, if the database is known. -/
theorem ofVariables_eq_ok_iff {lookup : String → Option String} :
    Settings.ofVariables lookup = .ok settings ↔
      (lookup "PERSIST_DATASOURCE").elim (some .mysql) Datasource.ofIdentifier? =
          some settings.datasource ∧
        settings.moduleName = (lookup "PERSIST_MODULE").bind moduleNameOf ∧
        settings.outputDir = (lookup "PERSIST_OUTPUT_DIR").getD "./generated" := by
  -- the default goes through the table of names, like a name that is given
  have hname : Datasource.ofIdentifier? ((lookup "PERSIST_DATASOURCE").getD
      Datasource.mysql.identifier) =
        (lookup "PERSIST_DATASOURCE").elim (some .mysql) Datasource.ofIdentifier? := by
    cases lookup "PERSIST_DATASOURCE" <;> rfl
  have hmodule : (lookup "PERSIST_MODULE").filter (fun name => !Text.allBlank name.toList) =
      (lookup "PERSIST_MODULE").bind moduleNameOf := by
    cases lookup "PERSIST_MODULE" with
    | none => rfl
    | some text => cases hblank : Text.allBlank text.toList <;> simp [moduleNameOf, hblank]
  simp only [Settings.ofVariables, Settings.datasourceVariable, Settings.moduleVariable,
    Settings.outputDirVariable, Settings.defaultOutputDir, hname, hmodule]
  cases (lookup "PERSIST_DATASOURCE").elim (some .mysql) Datasource.ofIdentifier? with
  | none => simp
  | some datasource =>
      obtain ⟨known, moduleName, outputDir⟩ := settings
      simp [eq_comm]

variable {process : String → Option String} {assigned : Environment} {entry : Files.Entry}
  (hfile : FileSets process entry assigned)

include hfile

theorem isRead_of_ofVariables
    (hsettings : Settings.ofVariables (merged process assigned) = .ok settings) :
    IsRead process assigned settings := by
  obtain ⟨hdatasource, hmodule, houtput⟩ := ofVariables_eq_ok_iff.mp hsettings
  rw [hfile.merged_eq (by decide) (by decide)] at hdatasource hmodule houtput
  refine ⟨fun flag => effective_iff.mpr ?_, fun flag name => ?_, fun flag => effective_iff.mpr ?_⟩
  · rw [hdatasource]
    cases flag <;> rfl
  · rw [ModuleIs, effective_iff, hmodule]
    cases (process "PERSIST_MODULE").or (assigned.lookup "PERSIST_MODULE") <;> rfl
  · rw [houtput]
    cases flag <;> cases (process "PERSIST_OUTPUT_DIR").or (assigned.lookup "PERSIST_OUTPUT_DIR") <;>
      rfl

/-- **The settings are read exactly when the variable of the database can be**, whatever flag
there is. -/
theorem exists_ofVariables_iff :
    (∃ settings, Settings.ofVariables (merged process assigned) = .ok settings) ↔
      ∃ datasource, DatasourceIs process assigned none datasource := by
  constructor
  · rintro ⟨settings, hsettings⟩
    exact ⟨_, (isRead_of_ofVariables hfile hsettings).datasource none⟩
  · rintro ⟨datasource, hdatasource⟩
    rw [DatasourceIs, effective_iff, ← hfile.merged_eq (by decide) (by decide)] at hdatasource
    exact ⟨⟨datasource, (merged process assigned "PERSIST_MODULE").bind moduleNameOf,
      (merged process assigned "PERSIST_OUTPUT_DIR").getD "./generated"⟩,
      ofVariables_eq_ok_iff.mpr ⟨hdatasource, rfl, rfl⟩⟩

/-- **A variable that names no database leaves none**, whichever source it comes from. -/
theorem not_effective_of_unknown {value : String}
    (hvalue : process "PERSIST_DATASOURCE" = some value ∨
      assigned.lookup "PERSIST_DATASOURCE" = some value)
    (hunknown : Datasource.ofIdentifier? value = none) (datasource : Datasource) :
    ¬ DatasourceIs process assigned none datasource := by
  intro hdatasource
  have hread : (process "PERSIST_DATASOURCE").or (assigned.lookup "PERSIST_DATASOURCE") =
      some value := by
    rcases hvalue with hprocess | hassigned
    · rw [hprocess, Option.some_or]
    · -- what the file sets is not hidden, since the process does not have it
      rw [hfile.process_eq_none hassigned, Option.none_or, hassigned]
  rw [DatasourceIs, effective_iff, hread, Option.none_or, Option.elim_some, hunknown] at hdatasource
  cases hdatasource

end Settings

/-- A setting has one value. -/
theorem Effective.unique {α : Type} {read : String → Option α} {fallback flag : Option α}
    {process file : Option String} {value other : α}
    (hvalue : Effective read fallback flag process file value)
    (hother : Effective read fallback flag process file other) : value = other := by
  rw [effective_iff] at hvalue hother
  exact Option.some.inj (hvalue.symm.trans hother)

end PersistLayer.Command
