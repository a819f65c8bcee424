import PersistLayer.Config.Sample
import PersistLayer.Proofs.Text.Lines
import PersistLayer.Proofs.Toml.Document

/-!
# What a sample document tells

A sample is filled by settings, one after the other.  Its values stand in the order in which
their keys were first set, each as it was last set (`holds_setAll`), and its tables stand
inside each other along the dotted name of the module (`isPathOf_ofModule`).

The document is read in one way only, so it tells both: samples with the same document are
for the same module and have the same values in the same order
(`document_determines_sample`).
-/

namespace PersistLayer.Config

open Toml (Scalar Entries)

/-! ## Dotted names -/

/-- The keys are the parts of a dotted name. -/
structure IsPathOf (path : List String) (name : String) : Prop where
  ne_nil : path ≠ []
  noDot : ∀ key ∈ path, '.' ∉ key.toList
  joined : ".".intercalate path = name

theorem isPathOf_ofModule (name : String) : IsPathOf (Sample.ofModule name).path name where
  ne_nil := by simp [Sample.ofModule, List.splitOn_ne_nil]
  noDot := by
    intro key hkey
    obtain ⟨part, hpart, rfl⟩ := List.mem_map.mp hkey
    rw [String.toList_ofList]
    exact not_mem_of_mem_splitOn hpart
  joined := by
    have hparts : String.toList ∘ String.ofList = id := funext fun _ => String.toList_ofList
    rw [← String.toList_inj]
    calc (".".intercalate (Sample.ofModule name).path).toList
        = ['.'].intercalate (name.toList.splitOn '.') := by
          rw [String.toList_intercalate, Sample.ofModule, List.map_map, hparts, List.map_id]
          rfl
      _ = name.toList := List.intercalate_splitOn '.'

/-- A dotted name has one path only. -/
theorem IsPathOf.eq_path {path : List String} {name : String} (hpath : IsPathOf path name) :
    path = (Sample.ofModule name).path := by
  have hkeys : (path.map String.toList).map String.ofList = path := by simp
  have hsplit : (['.'].intercalate (path.map String.toList)).splitOn '.' = path.map String.toList :=
    List.splitOn_intercalate '.' (by simpa using hpath.noDot) (by simpa using hpath.ne_nil)
  rw [Sample.ofModule, ← hpath.joined, String.toList_intercalate]
  exact hkeys.symm.trans (congrArg _ hsplit.symm)

namespace Sample

/-! ## Settings -/

/-- The sample after some settings. -/
def setAll (sample : Sample) (settings : Entries Scalar) : Sample :=
  settings.foldl (fun sample (key, value) => sample.set key value) sample

theorem path_setAll (sample : Sample) (settings : Entries Scalar) :
    (sample.setAll settings).path = sample.path := by
  induction settings generalizing sample with
  | nil => rfl
  | cons setting rest ih => exact ih (sample.set setting.1 setting.2)

theorem values_setAll (sample : Sample) (settings : Entries Scalar) :
    (sample.setAll settings).values =
      settings.foldl (fun values setting => Keyed.put Prod.fst setting values) sample.values := by
  induction settings generalizing sample with
  | nil => rfl
  | cons setting rest ih =>
      refine (ih (sample.set setting.1 setting.2)).trans ?_
      rw [List.foldl_cons, set, Toml.put_eq]

/-- The values of a sample are those of its settings. -/
theorem holds_setAll (name : String) (settings : Entries Scalar) :
    Keyed.Holds Prod.fst ((ofModule name).setAll settings).values settings := by
  rw [values_setAll]
  exact Keyed.holds_foldl Prod.fst settings

/-- A value is the last that was set for its key. -/
theorem value?_setAll (name : String) (settings : Entries Scalar) (key : String) :
    ((ofModule name).setAll settings).value? key = settings.reverse.lookup key := by
  rw [value?, Keyed.lookup_eq_find, Keyed.lookup_eq_find, (holds_setAll name settings).lookup]

/-- Settings with different keys are the values of the sample. -/
theorem setAll_of_nodup (name : String) {settings : Entries Scalar}
    (hdistinct : (settings.map Prod.fst).Nodup) :
    (ofModule name).setAll settings = ⟨(ofModule name).path, settings⟩ := by
  calc (ofModule name).setAll settings
      = ⟨((ofModule name).setAll settings).path, ((ofModule name).setAll settings).values⟩ := rfl
    _ = ⟨(ofModule name).path, settings⟩ := by
      rw [path_setAll, values_setAll]
      exact congrArg _ (Keyed.foldl_put_of_nodup hdistinct)

/-! ## Documents -/

/-- The document of a sample is a chain of tables around its values. -/
theorem chain_toTable (sample : Sample) :
    Toml.Chain sample.values sample.path sample.toTable.document :=
  Toml.chain_document sample.path sample.values

/-- **The document of a sample determines its module and its values.**  The keys of a sample
are those that were set, in the order in which they were first set, and under each key is the
value that was last set.  The document is a chain of tables along the name of the module, and
the innermost has exactly these keys and values in this order.  So two samples with the same
document have the same name and the same values in the same order. -/
theorem document_determines_sample (name : String) (settings : Entries Scalar) :
    let sample := (ofModule name).setAll settings
    sample.keys.Nodup ∧
    sample.keys = (settings.map Prod.fst).eraseDups ∧
    (∀ key, sample.value? key = settings.reverse.lookup key) ∧
    (∃ path, IsPathOf path name ∧
      Toml.Chain (sample.keys.filterMap fun key => (sample.value? key).map fun value => (key, value))
        path sample.toTable.document) ∧
    ∀ otherName otherSettings,
      let other := (ofModule otherName).setAll otherSettings
      other.toTable.document = sample.toTable.document ↔
        otherName = name ∧ other.values = sample.values := by
  intro sample
  have hholds : Keyed.Holds Prod.fst sample.values settings := holds_setAll name settings
  have hpath (name : String) (settings : Entries Scalar) :
      IsPathOf ((ofModule name).setAll settings).path name := by
    rw [path_setAll]
    exact isPathOf_ofModule name
  refine ⟨hholds.distinct, hholds.order, value?_setAll name settings,
    ⟨sample.path, hpath name settings, ?chain⟩, ?same⟩
  case chain =>
    have hvalues := Keyed.eq_filterMap_lookup hholds.distinct
    have hchain := chain_toTable sample
    rw [hvalues] at hchain
    exact hchain
  case same =>
    intro otherName otherSettings other
    constructor
    · -- a document is a chain of tables in one way only
      intro hdocument
      have hchain := chain_toTable other
      rw [hdocument] at hchain
      obtain ⟨hsame, hvalues⟩ := hchain.unique (chain_toTable sample)
      refine ⟨?_, hvalues⟩
      rw [← (hpath otherName otherSettings).joined, ← (hpath name settings).joined]
      exact congrArg _ hsame
    · rintro ⟨rfl, hvalues⟩
      have hsame : other.path = sample.path := by rw [path_setAll, path_setAll]
      rw [toTable, toTable, hsame, hvalues]

/-- The key that is set again keeps its place, and a name with two dots in a row has an empty
part. -/
example :
    ((ofModule "org..hr").setAll
        [("port", .integer 3306), ("host", .string "db"), ("port", .string "any")]).toTable =
      .nested "org" (.nested "" (.nested "hr"
        (.scalars [("port", .string "any"), ("host", .string "db")]))) := by
  decide

end Sample

/-! ## The samples that are written -/

theorem nodup_sampleValues (defaults : ConnectionDefaults) :
    ((sampleValues defaults).map Prod.fst).Nodup := by
  cases defaults with
  | network host port user => simp [sampleValues]
  | url url => simp [sampleValues]

/-- **The sample for a module holds the values of the connection.**  There is one exactly when
the name of the module is not blank. -/
theorem sample_eq_ok_iff {moduleName : String} {datasource : Datasource} {result : Sample} :
    sample moduleName datasource = .ok result ↔
      Text.allBlank moduleName.toList = false ∧ IsPathOf result.path moduleName ∧
        result.values = sampleValues datasource.policy.defaults := by
  have hsettings := Sample.setAll_of_nodup moduleName
    (nodup_sampleValues datasource.policy.defaults)
  rw [Sample.setAll] at hsettings
  rw [sample, hsettings]
  constructor
  · intro hresult
    split_ifs at hresult with hblank
    cases hresult
    exact ⟨by simpa using hblank, isPathOf_ofModule moduleName, rfl⟩
  · rintro ⟨hblank, hpath, hvalues⟩
    rw [if_neg (by simp [hblank]), ← hpath.eq_path, ← hvalues]

end PersistLayer.Config
