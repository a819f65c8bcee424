import PersistLayer.Proofs.Client.Outcome
import PersistLayer.Proofs.Client.Scopes

/-!
# The scopes that a client imports

Every client imports the same few modules, whatever its entities are.  Between them they
bind all scopes in its fields, statements and annotations and in the types of its own
functions.  The types of its keys are another matter: they come from the data model, and
those of the `time` module have a scope that no client imports.  So a client names a scope
that nothing binds exactly when it covers an entity with such a key
(`scopes_are_bound_iff`).
-/

namespace PersistLayer.Syntax

/-- The scope that an import binds: the name that it gives, or else the last segment of the
name of the module. -/
def Import.bound (entry : Import) : String :=
  entry.boundTo.getD (Policy.lastSegment entry.moduleName)

/-- Some import of the file binds the scope. -/
def SourceFile.Binds (file : SourceFile) (scope : String) : Prop :=
  ∃ entry ∈ file.imports, entry.bound = scope

instance (file : SourceFile) (scope : String) : Decidable (file.Binds scope) :=
  inferInstanceAs (Decidable (∃ entry ∈ file.imports, entry.bound = scope))

end PersistLayer.Syntax

namespace PersistLayer.Client

open Schema Syntax

/-! ## Scopes of keys -/

/-- The scopes that the types of keys are written with. -/
def keyScopes (keys : List Field) : List String := keys.flatMap fun key => key.type.typeDesc.scopes

theorem scopes_typeDesc (type : FieldType) :
    type.typeDesc.scopes = if type.isTime then ["time"] else [] := by
  cases type <;> rfl

theorem mem_keyScopes_iff {keys : List Field} {scope : String} :
    scope ∈ keyScopes keys ↔ scope = "time" ∧ ∃ key ∈ keys, key.type.isTime = true := by
  simp only [keyScopes, List.mem_flatMap, scopes_typeDesc]
  constructor
  · rintro ⟨key, hkey, hscope⟩
    split_ifs at hscope with htime
    · exact ⟨List.mem_singleton.mp hscope, key, hkey, htime⟩
    · cases hscope
  · rintro ⟨rfl, key, hkey, htime⟩
    exact ⟨key, hkey, by simp [htime]⟩

theorem scopes_keyPath (keys : List Field) :
    (Key.path keys).flatMap PathSegment.scopes = keyScopes keys := by
  rw [Key.path, List.flatMap_map]
  rfl

theorem scopes_keyType (keys : List Field) : (Key.type keys).scopes = keyScopes keys := by
  unfold Key.type
  split
  · simp [keyScopes]
  · rw [TypeDesc.scopes, TypeDesc.scopesAll_eq, List.flatMap_map]
    rfl

/-! ## Scopes of functions -/

/-- The scopes that a client names besides those of its keys. -/
def ownScopes (policy : Policy) : List String :=
  ["java", "persist", "sql", "psql", policy.connectorPrefix]

/-- The scopes that the functions of an entity name. -/
def entityScopes (policy : Policy) (entity : Entity) : List String :=
  ownScopes policy ++ keyScopes entity.keyFields

theorem keyScopes_subset (policy : Policy) (entity : Entity) :
    keyScopes entity.keyFields ⊆ entityScopes policy entity :=
  List.subset_append_right _ _

/-- The function that a step gives names no other scopes than those given. -/
def StepNames (scopes : List String) (step : Except GenerationError FunctionDef) : Prop :=
  ∀ function, step = .ok function → function.scopes ⊆ scopes

section Steps

variable {scopes : List String} {function built : FunctionDef} {policy : Policy}
  {method : Option String}

theorem stepNames_withBody {fragment text : String} (hhead : function.headScopes ⊆ scopes)
    (hbody : function.body = .block []) (htext : NamesOnly true scopes text) :
    StepNames scopes (withBody fragment text function) := by
  intro built hbuilt
  obtain ⟨statements, hread, hpure⟩ := bind_eq_ok_iff.mp hbuilt
  obtain rfl : function.withStatements statements = built := by simpa using hpure
  have hfunction : function.scopes ⊆ scopes := by
    rw [FunctionDef.scopes, hbody]
    exact List.append_subset.mpr ⟨hhead, List.nil_subset _⟩
  have hstatements : statements.flatMap Snippet.scopes ⊆ scopes := by
    intro scope hscope
    obtain ⟨statement, hstatement, hmem⟩ := List.mem_flatMap.mp hscope
    have hsubset := scopes_of_statementsIn (readFragment_eq_ok_iff.mp hread) statement hstatement
    exact htext (hsubset hmem)
  calc (function.withStatements statements).scopes
      ⊆ function.scopes ++ statements.flatMap Snippet.scopes :=
        function.scopes_withStatements statements
    _ ⊆ scopes := List.append_subset.mpr ⟨hfunction, hstatements⟩

/-- An external function is its head and an annotation. -/
theorem exists_marking_of_external (hbuilt : external policy method function = .ok built) :
    ∃ marking, annotationIn (Body.external policy.processorClass method) = .ok marking ∧
      built.scopes = function.headScopes ++ marking.scopes := by
  obtain ⟨marking, hread, hpure⟩ := bind_eq_ok_iff.mp hbuilt
  obtain rfl : function.withExternal marking = built := by simpa using hpure
  exact ⟨marking, readFragment_eq_ok_iff.mp hread, rfl⟩

theorem stepNames_external (datasource : Datasource) (hmethod : ∀ name ∈ method, IsFitName name)
    (hhead : function.headScopes ⊆ scopes) (hjava : "java" ∈ scopes) :
    StepNames scopes (external datasource.policy method function) := by
  intro built hbuilt
  obtain ⟨marking, hread, hscopes⟩ := exists_marking_of_external hbuilt
  have hprocessor : IsFitName datasource.policy.processorClass := by
    cases datasource <;> exact isFitName_of_plain (by rfl)
  have hmarking : marking.scopes ⊆ scopes :=
    calc marking.scopes
        ⊆ scopesOf (Body.external datasource.policy.processorClass method) :=
          scopes_of_annotationIn hread
      _ ⊆ ["java"] := namesOnly_external hprocessor hmethod
      _ ⊆ scopes := by simpa using hjava
  rw [hscopes]
  exact List.append_subset.mpr ⟨hhead, hmarking⟩

end Steps

/-! ## Resource functions -/

section Resources

variable {entity : Entity}

/-- A function on the path of a record names the scopes of the key in its path. -/
theorem headScopes_record (accessor : String) (type : TypeDesc) (params : List Param) :
    ((FunctionDef.resource accessor (recordPath entity) resourceQualifiers
      (some type)).withParams params).headScopes =
        keyScopes entity.keyFields ++ params.flatMap Param.scopes ++ type.scopes := by
  rw [← scopes_keyPath]
  rfl

theorem headScopes_collection (accessor : String) (type : TypeDesc) (params : List Param) :
    ((FunctionDef.resource accessor (collectionPath entity) resourceQualifiers
      (some type)).withParams params).headScopes =
        params.flatMap Param.scopes ++ type.scopes :=
  rfl

theorem scopes_orError (type : TypeDesc) (hsingle : type.isUnion = false) :
    (type.or persistError).scopes = type.scopes ++ ["persist"] := by
  have hor : type.or persistError = .union [type, persistError] := by
    cases type with
    | union members => cases hsingle
    | _ => rfl
  rw [hor, TypeDesc.scopes, TypeDesc.scopesAll_eq]
  rfl

variable (datasource : Datasource)

theorem stepNames_getAll :
    StepNames (entityScopes datasource.policy entity) (getAll datasource.policy entity) := by
  have hmethod : IsFitName "query" := isFitName_of_plain (by rfl)
  have hparams : (targetParam entity :: clauseParams).flatMap Param.scopes =
      ["sql", "sql", "sql", "sql"] := rfl
  have htype : (streamOf targetType).scopes = ["persist"] := rfl
  refine stepNames_external datasource (by simpa using hmethod) ?_ (by simp [entityScopes, ownScopes])
  rw [headScopes_collection, hparams, htype]
  simp [entityScopes, ownScopes]

theorem stepNames_getOne :
    StepNames (entityScopes datasource.policy entity) (getOne datasource.policy entity) := by
  have hmethod : IsFitName "queryOne" := isFitName_of_plain (by rfl)
  have hparams : [targetParam entity].flatMap Param.scopes = [] := rfl
  have htype : (targetType.or persistError).scopes = ["persist"] := rfl
  refine stepNames_external datasource (by simpa using hmethod) ?_ (by simp [entityScopes, ownScopes])
  rw [headScopes_record, hparams, htype, List.append_nil]
  exact List.append_subset.mpr ⟨keyScopes_subset _ _, by simp [entityScopes, ownScopes]⟩

/-- Reading one record names every scope of its key. -/
theorem keyScopes_subset_getOne {policy : Policy} {function : FunctionDef}
    (hfunction : getOne policy entity = .ok function) :
    keyScopes entity.keyFields ⊆ function.scopes := by
  obtain ⟨marking, -, hscopes⟩ := exists_marking_of_external hfunction
  rw [hscopes, headScopes_record, List.append_assoc, List.append_assoc]
  exact List.subset_append_left _ _

variable (hentity : NamedEntity entity)

include hentity

theorem stepNames_post : StepNames (entityScopes datasource.policy entity) (post entity) := by
  have hkeys := hentity.keys
  have hinsert : IsFitName (DataTypes.insertName entity.name) :=
    (isFitName_of_isName hentity.name).append (isFitName_of_plain (by rfl))
  have htext := namesOnly_post (isFitName_constantName hentity.name) hinsert
    (reads_projection fun key h => (hkeys key h).1)
  have hreturn : (TypeDesc.array (Key.type entity.keyFields)).scopes = keyScopes entity.keyFields := by
    rw [TypeDesc.scopes, scopes_keyType]
  refine stepNames_withBody ?_ rfl (htext.mono (by simp [entityScopes, ownScopes]))
  rw [headScopes_collection, scopes_orError _ rfl, hreturn]
  refine List.append_subset.mpr ⟨?_, List.append_subset.mpr ⟨keyScopes_subset _ _, ?_⟩⟩
  · exact List.nil_subset _
  · simp [entityScopes, ownScopes]

theorem stepNames_put : StepNames (entityScopes datasource.policy entity) (put entity) := by
  have htext := namesOnly_put (isFitName_constantName hentity.name)
    (isFitName_resourceName hentity.name) fun key h => (hentity.keys key h).1
  have hparams (type : TypeDesc) (hplain : type.scopes = []) :
      ([⟨type, "value", none⟩] : List Param).flatMap Param.scopes = [] := by
    simp [Param.scopes, hplain]
  refine stepNames_withBody ?_ rfl (htext.mono (by simp [entityScopes, ownScopes]))
  rw [headScopes_record, scopes_orError _ rfl, hparams _ rfl, List.append_nil]
  refine List.append_subset.mpr ⟨keyScopes_subset _ _, ?_⟩
  simp [TypeDesc.plain, TypeDesc.scopes, entityScopes, ownScopes]

theorem stepNames_delete : StepNames (entityScopes datasource.policy entity) (delete entity) := by
  have htext := namesOnly_delete (isFitName_constantName hentity.name)
    (isFitName_resourceName hentity.name) (fun key h => (hentity.keys key h).1)
    (isFitName_of_isName hentity.name)
  have hhead : (FunctionDef.resource "delete" (recordPath entity) resourceQualifiers
      (some ((TypeDesc.plain entity.name).or persistError))).headScopes =
        keyScopes entity.keyFields ++ ((TypeDesc.plain entity.name).or persistError).scopes := by
    rw [← List.append_nil (keyScopes _)]
    exact headScopes_record _ _ []
  refine stepNames_withBody ?_ rfl (htext.mono (by simp [entityScopes, ownScopes]))
  rw [hhead, scopes_orError _ rfl]
  refine List.append_subset.mpr ⟨keyScopes_subset _ _, ?_⟩
  simp [TypeDesc.plain, TypeDesc.scopes, entityScopes, ownScopes]

/-- The functions of an entity name the scopes of its key, and besides them only those that
every client names. -/
theorem scopes_resourceFunctions {functions : List FunctionDef}
    (hfunctions : resourceFunctions datasource.policy entity = .ok functions) :
    (∀ function ∈ functions, function.scopes ⊆ entityScopes datasource.policy entity) ∧
      keyScopes entity.keyFields ⊆ functions.flatMap FunctionDef.scopes := by
  simp only [resourceFunctions, bind_eq_ok_iff, pure_eq_ok_iff] at hfunctions
  obtain ⟨all, hall, one, hone, created, hcreated, updated, hupdated, deleted, hdeleted, rfl⟩ :=
    hfunctions
  refine ⟨?_, ?_⟩
  · simp only [List.forall_mem_cons]
    exact ⟨stepNames_getAll datasource _ hall, stepNames_getOne datasource _ hone,
      stepNames_post datasource hentity _ hcreated, stepNames_put datasource hentity _ hupdated,
      stepNames_delete datasource hentity _ hdeleted, by simp⟩
  · intro scope hscope
    have hmem : one ∈ [all, one, created, updated, deleted] := by simp
    exact List.mem_flatMap.mpr ⟨one, hmem, keyScopes_subset_getOne hone hscope⟩

end Resources

/-! ## The class -/

theorem stepNames_queryNativeSql (datasource : Datasource) :
    StepNames (ownScopes datasource.policy) (queryNativeSql datasource.policy) := by
  have hhead : ((FunctionDef.named "queryNativeSQL" remoteQualifiers
      (some (streamOf (.plain "rowType")))).withParams
        [⟨parameterizedQuery, "sqlQuery", none⟩,
          ⟨.typedesc .openRecord, "rowType", some "<>"⟩]).headScopes = ["sql", "persist"] := rfl
  refine stepNames_external datasource (by simp) ?_ (by simp [ownScopes])
  rw [hhead]
  simp [ownScopes]

theorem stepNames_executeNativeSql (datasource : Datasource) :
    StepNames (ownScopes datasource.policy) (executeNativeSql datasource.policy) := by
  have hhead : ((FunctionDef.named "executeNativeSQL" remoteQualifiers
      (some ((TypeDesc.qualified "psql" "ExecutionResult").or persistError))).withParams
        [⟨parameterizedQuery, "sqlQuery", none⟩]).headScopes = ["sql", "psql", "persist"] := rfl
  refine stepNames_external datasource (by simp) ?_ (by simp [ownScopes])
  rw [hhead]
  simp [ownScopes]

theorem stepNames_close (policy : Policy) : StepNames (ownScopes policy) close := by
  have hhead : (FunctionDef.named "close" publicQualifiers
      (some (.optional persistError))).headScopes = ["persist"] := rfl
  refine stepNames_withBody ?_ rfl (namesOnly_close.mono (by simp [ownScopes]))
  rw [hhead]
  simp [ownScopes]

/-- The parameters of `init` name no scope, or that of the connector. -/
theorem Flavour.IsOffered.scopes_initParams {flavour : Flavour} (hoffered : flavour.IsOffered) :
    flavour.initParams.flatMap Param.scopes ⊆ ownScopes flavour.policy := by
  cases hoffered with
  | database datasource => exact List.nil_subset _
  | test =>
      have hscopes : Flavour.test.initParams.flatMap Param.scopes = ["jdbc"] := rfl
      have hprefix : Flavour.test.policy.connectorPrefix = "jdbc" := rfl
      rw [hscopes, ownScopes, hprefix]
      simp

theorem stepNames_init (datasource : Datasource) {params : List Param}
    (hparams : params.flatMap Param.scopes ⊆ ownScopes datasource.policy) {entities : List Entity}
    (hentities : ∀ entity ∈ entities, NamedEntity entity) :
    StepNames (ownScopes datasource.policy) (init datasource.policy params entities) := by
  have hconstants : ∀ constant ∈ entities.map Entity.constantName, IsFitName constant := by
    intro constant hconstant
    obtain ⟨entity, hentity, rfl⟩ := List.mem_map.mp hconstant
    exact isFitName_constantName (hentities entity hentity).name
  have htext := namesOnly_init datasource hconstants
  rw [List.map_map] at htext
  have hhead : ((FunctionDef.named "init" publicQualifiers
      (some (.optional persistError))).withParams params).headScopes =
        params.flatMap Param.scopes ++ ["persist"] := rfl
  refine stepNames_withBody ?_ rfl (htext.mono (by simp [ownScopes]))
  rw [hhead]
  exact List.append_subset.mpr ⟨hparams, by simp [ownScopes]⟩

theorem scopes_fields (datasource : Datasource) {entities : List Entity}
    (hentities : ∀ entity ∈ entities, NamedEntity entity) {snippets : List Snippet}
    (hsnippets : fields datasource.policy entities = .ok snippets) :
    ∀ snippet ∈ snippets, snippet.scopes ⊆ ownScopes datasource.policy := by
  simp only [fields, bind_eq_ok_iff, pure_eq_ok_iff, readFragment_eq_ok_iff] at hsnippets
  obtain ⟨inclusion, hinclusion, connection, hconnection, clients, hclients, metadata, hmetadata,
    rfl⟩ := hsnippets
  have hinclusionScopes : inclusion.scopes ⊆ ownScopes datasource.policy :=
    calc inclusion.scopes
        ⊆ scopesOf "*persist:AbstractPersistClient;" := scopes_of_memberIn hinclusion
      _ = ["persist"] := rfl
      _ ⊆ ownScopes datasource.policy := by simp [ownScopes]
  have hconnectionScopes : connection.scopes ⊆ ownScopes datasource.policy :=
    calc connection.scopes
        ⊆ scopesOf ("private final " ++ datasource.policy.clientType ++ " dbClient;") :=
          scopes_of_memberIn hconnection
      _ = [datasource.policy.connectorPrefix] := by cases datasource <;> rfl
      _ ⊆ ownScopes datasource.policy := by simp [ownScopes]
  have hclientsScopes : clients.scopes ⊆ ownScopes datasource.policy :=
    calc clients.scopes
        ⊆ scopesOf "private final map<psql:SQLClient> persistClients;" :=
          scopes_of_memberIn hclients
      _ = ["psql"] := rfl
      _ ⊆ ownScopes datasource.policy := by simp [ownScopes]
  have hmetadataScopes : metadata.scopes ⊆ ownScopes datasource.policy :=
    calc metadata.scopes
        ⊆ scopesOf (metadataText (entities.map (describe entities))) :=
          scopes_of_memberIn hmetadata
      _ ⊆ ["psql"] := namesOnly_metadata
          (namedDescriptions fun entity hentity => (hentities entity hentity).described)
      _ ⊆ ownScopes datasource.policy := by simp [ownScopes]
  simp only [List.forall_mem_cons]
  exact ⟨hinclusionScopes, hconnectionScopes, hclientsScopes, hmetadataScopes, by simp⟩

/-- The scopes of all keys. -/
def allKeyScopes (entities : List Entity) : List String :=
  entities.flatMap fun entity => keyScopes entity.keyFields

theorem mem_allKeyScopes_iff {entities : List Entity} {scope : String} :
    scope ∈ allKeyScopes entities ↔
      scope = "time" ∧ ∃ entity ∈ entities, ∃ key ∈ entity.keyFields, key.type.isTime = true := by
  simp only [allKeyScopes, List.mem_flatMap, mem_keyScopes_iff]
  constructor
  · rintro ⟨entity, hentity, rfl, hkey⟩
    exact ⟨rfl, entity, hentity, hkey⟩
  · rintro ⟨rfl, entity, hentity, hkey⟩
    exact ⟨entity, hentity, rfl, hkey⟩

section Resources

variable (datasource : Datasource) {entities : List Entity}
  (hentities : ∀ entity ∈ entities, NamedEntity entity) {resources : List (List FunctionDef)}
  (hresources : entities.mapM (resourceFunctions datasource.policy) = .ok resources)

include hentities hresources

/-- The resource functions of all entities name the scopes of all keys, and besides them
only those that every client names. -/
theorem scopes_resources :
    (∀ function ∈ resources.flatten,
      function.scopes ⊆ ownScopes datasource.policy ++ allKeyScopes entities) ∧
      allKeyScopes entities ⊆ resources.flatten.flatMap FunctionDef.scopes := by
  obtain ⟨hback, hforth⟩ := mem_of_mapM_eq_ok hresources
  refine ⟨?_, ?_⟩
  · intro function hfunction
    obtain ⟨functions, hfunctions, hmem⟩ := List.mem_flatten.mp hfunction
    obtain ⟨entity, hentity, hok⟩ := hback functions hfunctions
    obtain ⟨hscopes, -⟩ := scopes_resourceFunctions datasource (hentities entity hentity) hok
    have hkeys : keyScopes entity.keyFields ⊆ allKeyScopes entities := fun scope hscope =>
      List.mem_flatMap.mpr ⟨entity, hentity, hscope⟩
    calc function.scopes
        ⊆ ownScopes datasource.policy ++ keyScopes entity.keyFields := hscopes function hmem
      _ ⊆ ownScopes datasource.policy ++ allKeyScopes entities :=
          List.append_subset.mpr
            ⟨List.subset_append_left _ _, List.subset_append_of_subset_right _ hkeys⟩
  · intro scope hscope
    obtain ⟨entity, hentity, hkey⟩ := List.mem_flatMap.mp hscope
    obtain ⟨functions, hfunctions, hok⟩ := hforth entity hentity
    obtain ⟨-, hkeys⟩ := scopes_resourceFunctions datasource (hentities entity hentity) hok
    obtain ⟨function, hmem, hfound⟩ := List.mem_flatMap.mp (hkeys hkey)
    exact List.mem_flatMap.mpr ⟨function, List.mem_flatten.mpr ⟨functions, hfunctions, hmem⟩, hfound⟩

end Resources

/-- The class of a client names the scopes of all keys, and besides them only those that
every client names. -/
theorem scopes_clientClass {flavour : Flavour} (hoffered : flavour.IsOffered)
    {entities : List Entity} (hentities : ∀ entity ∈ entities, NamedEntity entity)
    {definition : ClassDef} (hdefinition : clientClass flavour entities = .ok definition) :
    (∀ member ∈ definition.members,
      member.scopes ⊆ ownScopes flavour.policy ++ allKeyScopes entities) ∧
      allKeyScopes entities ⊆ definition.members.flatMap ClassMember.scopes := by
  obtain ⟨datasource, hpolicy, hinitPolicy⟩ := hoffered.policy
  have hinitParams := hoffered.scopes_initParams
  rw [hpolicy] at hinitParams ⊢
  simp only [clientClass, hpolicy, hinitPolicy, bind_eq_ok_iff, pure_eq_ok_iff] at hdefinition
  obtain ⟨snippets, hsnippets, opening, hopening, resources, hresources, query, hquery, execute,
    hexecute, closing, hclosing, rfl⟩ := hdefinition
  obtain ⟨hresourceScopes, hkeys⟩ := scopes_resources datasource hentities hresources
  have hown : ∀ function ∈ [opening, query, execute, closing],
      function.scopes ⊆ ownScopes datasource.policy := by
    simp only [List.forall_mem_cons]
    exact ⟨stepNames_init datasource hinitParams hentities _ hopening,
      stepNames_queryNativeSql datasource _ hquery,
      stepNames_executeNativeSql datasource _ hexecute,
      stepNames_close datasource.policy _ hclosing, by simp⟩
  refine ⟨?_, ?_⟩
  · -- a member is a field, a function on records or one of the four others
    intro member hmember
    rcases List.mem_append.mp hmember with hfield | hfunction
    · obtain ⟨snippet, hsnippet, rfl⟩ := List.mem_map.mp hfield
      exact List.subset_append_of_subset_left _
        (scopes_fields datasource hentities hsnippets snippet hsnippet)
    · obtain ⟨function, hmem, rfl⟩ := List.mem_map.mp hfunction
      have hsplit : function ∈ resources.flatten ∨
          function ∈ [opening, query, execute, closing] := by
        simp only [List.cons_append, List.mem_cons, List.mem_append, List.not_mem_nil,
          or_false] at hmem
        rcases hmem with rfl | hresource | rfl | rfl | rfl
        · simp
        · exact .inl hresource
        all_goals simp
      rcases hsplit with hresource | hother
      · exact hresourceScopes function hresource
      · exact List.subset_append_of_subset_left _ (hown function hother)
  · -- the scope of a key stands in the path of a function on records
    intro scope hscope
    obtain ⟨function, hmem, hfound⟩ := List.mem_flatMap.mp (hkeys hscope)
    refine List.mem_flatMap.mpr ⟨.function function, ?_, hfound⟩
    refine List.mem_append_right _ (List.mem_map_of_mem ?_)
    exact List.mem_append_left _ (List.mem_cons_of_mem _ hmem)

/-! ## The file -/

/-- The imports and constants of a client name nothing. -/
theorem scopes_imports (policy : Policy) : (imports policy).flatMap Import.scopes = [] := by
  have hcomment : (Comment.autogenerated (some "model")).scopes = [] := by
    refine List.flatMap_eq_nil_iff.mpr ?_
    simp only [Comment.autogenerated, List.forall_mem_cons]
    exact ⟨scopes_of_fixed_no_colon rfl, scopes_of_fixed_no_colon rfl,
      scopes_of_fixed_no_colon rfl, scopes_of_fixed_no_colon rfl, by simp⟩
  refine List.flatMap_eq_nil_iff.mpr (List.forall_mem_append.mpr ⟨?_, ?_⟩)
  · simp only [List.forall_mem_cons, Import.scopes, Option.elim_some, Option.elim_none]
    exact ⟨hcomment, trivial, trivial, by simp⟩
  · simp only [List.mem_mergeSort, List.forall_mem_cons]
    exact ⟨rfl, rfl, rfl, by simp⟩

theorem scopes_constants (entities : List Entity) :
    (constants entities).flatMap ModuleMember.scopes = [] := by
  refine List.flatMap_eq_nil_iff.mpr ?_
  intro member hmember
  obtain ⟨entity, -, rfl⟩ := List.mem_map.mp hmember
  rfl

section Generated

variable {flavour : Flavour} {model : DataModel} {client : ClientFile}
  (hclient : generate flavour model = .ok client)

include hclient

/-- What the imports of a client bind. -/
theorem binds_iff {scope : String} : client.source.Binds scope ↔
    scope = "_" ∨ scope ∈ ownScopes flavour.policy := by
  obtain ⟨definition, -, hsource⟩ := exists_class_of_generate hclient
  have hjava : Policy.lastSegment "jballerina.java" = "java" := by decide
  have hpersist : Policy.lastSegment "persist" = "persist" := by decide
  have hsql : Policy.lastSegment "sql" = "sql" := by decide
  simp only [SourceFile.Binds, hsource, imports, List.mem_append, List.mem_mergeSort,
    List.mem_cons, List.not_mem_nil, or_false, or_and_right, exists_or, exists_eq_left,
    Import.bound, Option.getD_none, Option.getD_some, hjava, hpersist, hsql, ownScopes,
    Policy.connectorPrefix]
  constructor
  · rintro ((rfl | rfl | rfl) | (rfl | rfl | rfl)) <;> simp
  · rintro (rfl | rfl | rfl | rfl | rfl | rfl) <;> simp

/-- No client binds the scope of the `time` module. -/
theorem not_binds_time (hoffered : flavour.IsOffered) : ¬ client.source.Binds "time" := by
  obtain ⟨datasource, hpolicy, -⟩ := hoffered.policy
  have hconnector : datasource.policy.connectorPrefix ≠ "time" := by
    cases datasource <;> decide
  rw [binds_iff hclient, hpolicy]
  simp [ownScopes, hconnector.symm]

/-- The scopes in the text of a client are those of its keys and some that it binds. -/
theorem scopesOf_client (hoffered : flavour.IsOffered)
    (hnamed : ∀ entity ∈ covered model, NamedEntity entity) :
    scopesOf client.source.render ⊆ ownScopes flavour.policy ++ allKeyScopes (covered model) ∧
      allKeyScopes (covered model) ⊆ scopesOf client.source.render := by
  obtain ⟨definition, hdefinition, hsource⟩ := exists_class_of_generate hclient
  obtain ⟨built, hbuilt, hmeets⟩ := exists_meets_file hoffered hnamed
  obtain rfl : definition = built := Except.ok.inj (hdefinition.symm.trans hbuilt)
  obtain ⟨hmembers, hkeys⟩ := scopes_clientClass hoffered hnamed hdefinition
  have htext : scopesOf client.source.render =
      definition.members.flatMap ClassMember.scopes := by
    have himports : (imports flavour.policy).isEmpty = false := rfl
    -- neither the imports nor the constants name a scope
    calc scopesOf client.source.render = client.source.scopes := by
          rw [hsource, SourceFile.scopesOf_render clientVocabulary_legible hmeets]
      _ = definition.members.flatMap ClassMember.scopes := by
          rw [hsource, SourceFile.scopes, himports, if_neg (by simp), scopes_imports,
            List.flatMap_append, scopes_constants, List.flatMap_singleton]
          rfl
  rw [htext]
  refine ⟨?_, hkeys⟩
  intro scope hscope
  obtain ⟨member, hmember, hfound⟩ := List.mem_flatMap.mp hscope
  exact hmembers member hmember hfound

/-- **A client binds every scope it names but one, and names that one for keys of the `time`
module.**  So it imports all it refers to exactly when no entity that it covers has such a
key. -/
theorem scopes_are_bound_iff (hoffered : flavour.IsOffered)
    (hnamed : ∀ entity ∈ covered model, NamedEntity entity) :
    ((∀ scope ∈ scopesOf client.source.render, client.source.Binds scope) ↔
      ∀ entity ∈ covered model, ∀ key ∈ entity.keyFields, key.type.isTime = false) ∧
    ∀ scope ∈ scopesOf client.source.render, client.source.Binds scope ∨ scope = "time" := by
  obtain ⟨hown, hkeys⟩ := scopesOf_client hclient hoffered hnamed
  have hbound : ∀ scope ∈ scopesOf client.source.render, client.source.Binds scope ∨
      scope ∈ allKeyScopes (covered model) := by
    intro scope hscope
    rcases List.mem_append.mp (hown hscope) with hscope | hscope
    · exact .inl ((binds_iff hclient).mpr (.inr hscope))
    · exact .inr hscope
  refine ⟨⟨?_, ?_⟩, ?_⟩
  · intro hall entity hentity key hkey
    by_contra htime
    have hmem : "time" ∈ allKeyScopes (covered model) :=
      mem_allKeyScopes_iff.mpr ⟨rfl, entity, hentity, key, hkey, by simpa using htime⟩
    exact not_binds_time hclient hoffered (hall "time" (hkeys hmem))
  · intro hnone scope hscope
    refine (hbound scope hscope).resolve_right ?_
    intro hmem
    obtain ⟨-, entity, hentity, key, hkey, htime⟩ := mem_allKeyScopes_iff.mp hmem
    rw [hnone entity hentity key hkey] at htime
    cases htime
  · intro scope hscope
    exact (hbound scope hscope).imp_right fun hmem => (mem_allKeyScopes_iff.mp hmem).1

end Generated

/-- An entity with two keys, one with a date outside its key, and one with a relation. -/
def rosterModel : DataModel where
  name := "roster"
  entities :=
    [⟨"Shift", none, [⟨"ward", .int, true, false, true⟩, ⟨"label", .string, true, false, true⟩], []⟩,
      ⟨"Leave", none, [⟨"id", .int, true, false, true⟩, ⟨"day", .date, false, true, true⟩], []⟩,
      ⟨"Nurse", none, [⟨"name", .string, true, false, true⟩],
        [⟨"shift", "Shift", .many, true, [⟨"shiftWard", "ward"⟩]⟩]⟩]
  enumerations := []

theorem scopes_rosterModel : ∃ client, generate .test rosterModel = .ok client ∧
    ∀ scope ∈ scopesOf client.source.render, client.source.Binds scope := by
  have hnamed : ∀ entity ∈ rosterModel.entities, NamedEntity entity := by decide +kernel
  have hkeys : ∀ entity, ¬ FirstKeyless rosterModel entity :=
    find_keyless_eq_none_iff.mp (by decide)
  have hdistinct : ¬ Collide (covered rosterModel) :=
    firstCollision_takenNames_eq_none_iff.mp (by decide +kernel)
  obtain ⟨client, hclient, -⟩ := exists_generate (by simp [rosterModel]) hkeys .test hnamed hdistinct
  have hcovered : ∀ entity ∈ covered rosterModel, NamedEntity entity := fun entity h =>
    hnamed entity (List.mem_filter.mp h).1
  obtain ⟨hiff, -⟩ := scopes_are_bound_iff hclient .test hcovered
  exact ⟨client, hclient, hiff.mpr (by decide)⟩

/-- An entity that is found by a date. -/
def dateModel : DataModel where
  name := "m"
  entities := [⟨"E", none, [⟨"d", .date, true, false, true⟩], []⟩]
  enumerations := []

/-- A client with a date for a key names the scope of the `time` module, which none of its
imports binds. -/
theorem time_is_unbound_in_dateModel :
    ∃ client, generate (.database .mysql "Client") dateModel = .ok client ∧
      "time" ∈ scopesOf client.source.render ∧ ¬ client.source.Binds "time" := by
  have hoffered : (Flavour.database .mysql "Client").IsOffered := .database .mysql (by decide +kernel)
  have hnamed : ∀ entity ∈ dateModel.entities, NamedEntity entity := by decide +kernel
  have hkeys : ∀ entity, ¬ FirstKeyless dateModel entity :=
    find_keyless_eq_none_iff.mp (by decide)
  have hdistinct : ¬ Collide (covered dateModel) :=
    firstCollision_takenNames_eq_none_iff.mp (by decide +kernel)
  obtain ⟨client, hclient, -⟩ :=
    exists_generate (by simp [dateModel]) hkeys hoffered hnamed hdistinct
  have hcovered : ∀ entity ∈ covered dateModel, NamedEntity entity := fun entity h =>
    hnamed entity (List.mem_filter.mp h).1
  obtain ⟨-, hscopes⟩ := scopesOf_client hclient hoffered hcovered
  have htime : "time" ∈ allKeyScopes (covered dateModel) := by
    rw [mem_allKeyScopes_iff]
    decide
  exact ⟨client, hclient, hscopes htime, not_binds_time hclient hoffered⟩

end PersistLayer.Client
