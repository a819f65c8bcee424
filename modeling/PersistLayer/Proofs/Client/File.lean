import PersistLayer.Client.Generate
import PersistLayer.Proofs.Client.Functions

/-!
# The class of a client can be built

The fields and functions of a client make up its class, and the class stands in the
file behind the imports and constants.  For an offered kind of client all of it can
be built, and the file that comes of it has no fault.
-/

namespace PersistLayer.Client

open Schema Syntax

/-! ## Offered clients -/

/-- The kinds of client that are offered: those of a database under some name, and the
one for tests. -/
inductive Flavour.IsOffered : Flavour → Prop where
  | database (datasource : Datasource) {className : String} (hname : IsName className) :
      IsOffered (Flavour.database datasource className)
  | test : IsOffered Flavour.test

/-- An offered client follows the policy of one database. -/
theorem Flavour.IsOffered.policy {flavour : Flavour} (hoffered : flavour.IsOffered) :
    ∃ datasource : Datasource,
      flavour.policy = datasource.policy ∧ flavour.initPolicy = datasource.policy := by
  cases hoffered with
  | database datasource => exact ⟨datasource, rfl, rfl⟩
  | test => exact ⟨.h2, rfl, rfl⟩

theorem Flavour.IsOffered.className {flavour : Flavour} (hoffered : flavour.IsOffered) :
    IsFitName flavour.className := by
  cases hoffered with
  | database _ hname => exact isFitName_of_isName hname
  | test => exact isFitName_of_plain (by rfl)

theorem Flavour.IsOffered.initParams {flavour : Flavour} (hoffered : flavour.IsOffered) :
    ∀ param ∈ flavour.initParams, param.Meets clientVocabulary := by
  cases hoffered with
  | database => simp [Flavour.database]
  | test =>
      have hstring : (TypeDesc.plain "string").Names IsFitName :=
        names_plain (isFitName_of_plain (by rfl))
      have hoptions : (TypeDesc.qualified "jdbc" "Options").Names IsFitName :=
        names_qualified (isFitName_of_plain (by rfl)) (isFitName_of_plain (by rfl))
      simp only [Flavour.test, List.forall_mem_cons]
      exact ⟨meets_param hstring (isFitName_of_plain (by rfl)),
        meets_defaultParam (names_optional hstring) (isFitName_of_plain (by rfl)) rfl rfl,
        meets_defaultParam (names_optional hstring) (isFitName_of_plain (by rfl)) rfl rfl,
        meets_defaultParam (names_optional hoptions) (isFitName_of_plain (by rfl)) rfl rfl, by simp⟩

/-! ## Fields -/

theorem exists_dbField (datasource : Datasource) :
    ∃ snippet, memberIn ("private final " ++ datasource.policy.clientType ++ " dbClient;") =
      .ok snippet := by
  cases datasource <;> exact exists_of_isOk (by decide +kernel)

/-- The fields of the class can be read if the metadata can. -/
theorem exists_fields_of_metadata (datasource : Datasource) {entities : List Entity}
    {metadata : Snippet}
    (hmetadata : memberIn (metadataText (entities.map (describe entities))) = .ok metadata) :
    ∃ inclusion connection clients,
      fields datasource.policy entities = .ok [inclusion, connection, clients, metadata] ∧
      ∀ snippet ∈ [inclusion, connection, clients, metadata], snippet.IsRead := by
  obtain ⟨inclusion, hinclusion⟩ : ∃ snippet,
      memberIn "*persist:AbstractPersistClient;" = .ok snippet :=
    exists_of_isOk (by decide +kernel)
  obtain ⟨connection, hconnection⟩ := exists_dbField datasource
  obtain ⟨clients, hclients⟩ : ∃ snippet,
      memberIn "private final map<psql:SQLClient> persistClients;" = .ok snippet :=
    exists_of_isOk (by decide +kernel)
  refine ⟨inclusion, connection, clients, ?_, ?_⟩
  · simp only [fields, readFragment, hinclusion, hconnection, hclients, hmetadata]
    rfl
  · simp only [List.forall_mem_cons]
    exact ⟨.member hinclusion, .member hconnection, .member hclients, .member hmetadata, by simp⟩

/-- The fields of the class can be read. -/
theorem exists_fields (datasource : Datasource) {entities : List Entity}
    (hentities : ∀ entity ∈ entities, NamedEntity entity) :
    ∃ snippets, fields datasource.policy entities = .ok snippets ∧
      ∀ snippet ∈ snippets, snippet.IsRead := by
  obtain ⟨metadata, hmetadata⟩ := exists_metadata
    (namedDescriptions fun entity hentity => (hentities entity hentity).described)
  obtain ⟨inclusion, connection, clients, hfields, hread⟩ :=
    exists_fields_of_metadata datasource hmetadata
  exact ⟨_, hfields, hread⟩

/-! ## The class -/

/-- The class of a client can be built. -/
theorem exists_clientClass {flavour : Flavour} (hoffered : flavour.IsOffered)
    {entities : List Entity} (hentities : ∀ entity ∈ entities, NamedEntity entity) :
    ∃ definition, clientClass flavour entities = .ok definition ∧
      (ModuleMember.classDef definition).Meets clientVocabulary := by
  obtain ⟨datasource, hpolicy, hinitPolicy⟩ := hoffered.policy
  obtain ⟨snippets, hsnippets, hread⟩ := exists_fields datasource hentities
  obtain ⟨opening, hopening, hopeningMeets⟩ :=
    builds_init datasource hoffered.initParams hentities
  obtain ⟨query, hquery, hqueryMeets⟩ := builds_queryNativeSql datasource
  obtain ⟨execute, hexecute, hexecuteMeets⟩ := builds_executeNativeSql datasource
  obtain ⟨closing, hclosing, hclosingMeets⟩ := builds_close
  obtain ⟨resources, hresources, hresourcesMeet⟩ := exists_mapM_of_forall fun entity h =>
    exists_resourceFunctions (hentities entity h) datasource
  refine ⟨⟨flavour.className, [.exposed, .isolated, .client], snippets.map .field ++
    (opening :: resources.flatten ++ [query, execute, closing]).map .function⟩, ?_,
    hoffered.className, ?_⟩
  · rw [clientClass, hpolicy, hinitPolicy, hsnippets, hopening]
    simp only [bind, Except.bind, hresources, hquery, hexecute, hclosing]
    rfl
  · -- the fields are snippets that were read, and the functions are built to be written
    intro member hmember
    rcases List.mem_append.mp hmember with hfield | hfunction
    · obtain ⟨snippet, hsnippet, rfl⟩ := List.mem_map.mp hfield
      exact hread snippet hsnippet
    · obtain ⟨function, hmem, rfl⟩ := List.mem_map.mp hfunction
      rw [List.cons_append, List.mem_cons, List.mem_append] at hmem
      rcases hmem with rfl | hmem | hmem
      · exact hopeningMeets
      · obtain ⟨functions, hfunctions, hin⟩ := List.mem_flatten.mp hmem
        exact hresourcesMeet functions hfunctions function hin
      · simp only [List.mem_cons, List.not_mem_nil, or_false] at hmem
        rcases hmem with rfl | rfl | rfl
        · exact hqueryMeets
        · exact hexecuteMeets
        · exact hclosingMeets

/-! ## The file -/

/-- The imports hold names. -/
theorem meets_imports (datasource : Datasource) :
    ∀ entry ∈ imports datasource.policy, entry.Meets clientVocabulary := by
  have hplain : (Comment.autogenerated (some "model")).Plain := by
    simp only [Comment.Plain, Comment.autogenerated, List.forall_mem_cons]
    decide
  have horg : IsFitName "ballerina" := isFitName_of_plain (by rfl)
  have hconnectors : IsFitName "ballerinax" := isFitName_of_plain (by rfl)
  have hmodules : IsFitName datasource.policy.connectorModule ∧
      IsFitName datasource.policy.driverModule := by
    cases datasource <;> exact ⟨isFitName_of_plain (by rfl), isFitName_of_plain (by rfl)⟩
  have hanonymous : IsFitName "_" := isFitName_of_plain (by rfl)
  have hpsql : IsFitName "psql" := isFitName_of_plain (by rfl)
  refine List.forall_mem_append.mpr ⟨?_, ?_⟩
  · simp only [List.forall_mem_cons]
    refine ⟨⟨horg, isFitName_of_plain (by rfl), by simp, ?_⟩,
      ⟨horg, isFitName_of_plain (by rfl), by simp, by simp⟩,
      ⟨horg, isFitName_of_plain (by rfl), by simp, by simp⟩, by simp⟩
    rintro _ ⟨rfl⟩
    exact hplain
  · simp only [List.mem_mergeSort, List.forall_mem_cons]
    exact ⟨⟨hconnectors, hmodules.1, by simp, by simp⟩,
      ⟨hconnectors, hmodules.2, by rintro _ ⟨rfl⟩; exact hanonymous, by simp⟩,
      ⟨hconnectors, isFitName_of_plain (by rfl), by rintro _ ⟨rfl⟩; exact hpsql, by simp⟩, by simp⟩

theorem meets_constants {entities : List Entity}
    (hentities : ∀ entity ∈ entities, NamedEntity entity) :
    ∀ member ∈ constants entities, member.Meets clientVocabulary := by
  intro member hmember
  obtain ⟨entity, hentity, rfl⟩ := List.mem_map.mp hmember
  exact isFitName_constantName (hentities entity hentity).name

/-- The class can be built, and the file around it holds nothing but what a client may. -/
theorem exists_meets_file {flavour : Flavour} (hoffered : flavour.IsOffered)
    {entities : List Entity} (hentities : ∀ entity ∈ entities, NamedEntity entity) :
    ∃ definition, clientClass flavour entities = .ok definition ∧
      (SourceFile.mk (imports flavour.policy) none
        (constants entities ++ [.classDef definition])).Meets clientVocabulary := by
  obtain ⟨datasource, hpolicy, -⟩ := hoffered.policy
  obtain ⟨definition, hdefinition, hclass⟩ := exists_clientClass hoffered hentities
  refine ⟨definition, hdefinition, ?_, by simp, ?_⟩
  · rw [hpolicy]
    exact meets_imports datasource
  · rw [List.forall_mem_append, List.forall_mem_singleton]
    exact ⟨meets_constants hentities, hclass⟩

/-- **The class can be built, and the file around it has no fault.** -/
theorem exists_faultless_file {flavour : Flavour} (hoffered : flavour.IsOffered)
    {entities : List Entity} (hentities : ∀ entity ∈ entities, NamedEntity entity) :
    ∃ definition, clientClass flavour entities = .ok definition ∧
      faults (SourceFile.mk (imports flavour.policy) none
        (constants entities ++ [.classDef definition])).render = [] := by
  obtain ⟨definition, hdefinition, hmeets⟩ := exists_meets_file hoffered hentities
  refine ⟨definition, hdefinition, ?_⟩
  obtain ⟨hpart, -⟩ := SourceFile.wordsOf_render clientVocabulary_harmless hmeets
  obtain ⟨scanned, hscanned, -⟩ := hpart.tokenize_eq
  rw [faults, errorsIn_eq_nil_iff]
  exact (tokenize_eq_ok_iff.mp hscanned).1

end PersistLayer.Client
