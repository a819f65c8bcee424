import PersistLayer.Client.Flavour
import PersistLayer.Proofs.Client.Bodies
import PersistLayer.Proofs.Client.Metadata
import PersistLayer.Proofs.Render.Trees
import PersistLayer.Proofs.Scopes.Trees

/-!
# The functions of a client can be built

Every function of a client has a text to be read: the statements of its body, or
the annotation that marks it as external.  For an offered database and an entity
whose names are names, the text can always be read, and the function holds nothing
that could leave something open in the file.
-/

namespace PersistLayer.Client

open Schema Syntax

/-- A default value is complete, and nothing in it goes on behind it. -/
structure IsDefault (value : String) : Prop where
  whole : Whole value
  reads : Reads false .idle .loose value (scopesOf value)

/-- What the names, values and snippets of a client are. -/
def clientVocabulary : Vocabulary where
  name := IsFitName
  moduleName := IsFitName
  value := IsDefault
  snippet := Snippet.IsRead

theorem clientVocabulary_harmless : clientVocabulary.Harmless where
  name _ hname := hname.isInert
  moduleName _ hname := hname.isInert
  value _ hvalue := hvalue.whole
  snippet _ hread := hread.neutral
  inline _ hread := hread.whole_inline

theorem clientVocabulary_legible : clientVocabulary.Legible where
  name _ hname := hname.isPlain
  moduleName _ hname := hname.isPlain
  value _ hvalue := hvalue.reads

/-- The characters that fixed names are written with. -/
def isPlainChar (c : Char) : Bool := c.isAlphanum || c == '.' || c == '_'

/-- A fixed name is fit, as can be seen from its characters. -/
theorem isFitName_of_plain {name : String}
    (hplain : (!name.toList.isEmpty && name.toList.all isPlainChar) = true) :
    IsFitName name := by
  simp only [Bool.and_eq_true, Bool.not_eq_true', List.isEmpty_eq_false_iff, ne_eq,
    String.toList_eq_nil_iff, List.all_eq_true] at hplain
  obtain ⟨hne, hchars⟩ := hplain
  refine ⟨hne, ?_⟩
  intro c hc hunfit
  have hclass : unfitCodes.any (fun code => isPlainChar (Char.ofNat code)) = false := by
    decide +kernel
  have hfalse := List.any_eq_false.mp hclass _ hunfit
  rw [Char.ofNat_toNat] at hfalse
  exact hfalse (hchars c hc)

/-! ## Types -/

theorem names_persistError : persistError.Names IsFitName :=
  names_qualified (isFitName_of_plain (by rfl))
    (isFitName_of_plain (by rfl))

theorem names_streamOf {row : TypeDesc} (hrow : row.Names IsFitName) :
    (streamOf row).Names IsFitName := by
  simp only [streamOf, TypeDesc.Names]
  exact ⟨hrow, names_persistError⟩

theorem names_targetType : targetType.Names IsFitName :=
  names_plain (isFitName_of_plain (by rfl))

theorem names_parameterizedQuery : parameterizedQuery.Names IsFitName :=
  names_qualified (isFitName_of_plain (by rfl))
    (isFitName_of_plain (by rfl))

/-- The type of a field is written with names. -/
theorem names_typeDesc {type : FieldType} (htype : NamedType type) :
    type.typeDesc.Names IsFitName := by
  cases type with
  | enumeration name => exact names_plain (isFitName_of_isName htype)
  | other name => exact names_plain (isFitName_of_isName htype)
  | byteArray =>
      exact names_array (names_plain (isFitName_of_plain (by rfl)))
  | date | timeOfDay | utc | civil =>
      exact names_qualified (isFitName_of_plain (by rfl))
        (isFitName_of_plain (by rfl))
  | int | string | boolean | float | decimal =>
      exact names_plain (isFitName_of_plain (by rfl))

theorem names_keyType {keys : List Field} (hkeys : ∀ key ∈ keys, NamedType key.type) :
    (Key.type keys).Names IsFitName := by
  unfold Key.type
  split
  · exact names_typeDesc (hkeys _ List.mem_cons_self)
  · simp only [TypeDesc.Names, namesAll_iff]
    intro type htype
    obtain ⟨key, hkey, rfl⟩ := List.mem_map.mp htype
    exact names_typeDesc (hkeys key hkey)

/-! ## Putting functions together -/

/-- A step gives a function that can stand in a client. -/
def Builds (step : Except GenerationError FunctionDef) : Prop :=
  ∃ function, step = .ok function ∧ function.Meets clientVocabulary

theorem withBody_eq {text : String} {snippets : List Snippet}
    (hread : statementsIn text = .ok snippets) (fragment : String) (function : FunctionDef) :
    withBody fragment text function = .ok (function.withStatements snippets) := by
  rw [withBody, bind_eq_ok_iff]
  exact ⟨snippets, readFragment_eq_ok_iff.mpr hread, rfl⟩

/-- The statements of a text can be made the body of a function. -/
theorem exists_withBody {text : String} (htext : IsStatements text) (fragment : String)
    (function : FunctionDef) :
    ∃ snippets, statementsIn text = .ok snippets ∧
      withBody fragment text function = .ok (function.withStatements snippets) := by
  obtain ⟨snippets, hread, -⟩ := htext.exists_statementsIn
  exact ⟨snippets, hread, withBody_eq hread fragment function⟩

theorem builds_withBody {fragment text : String} {function : FunctionDef}
    (hfunction : function.Meets clientVocabulary) (htext : IsStatements text) :
    Builds (withBody fragment text function) := by
  obtain ⟨snippets, hread, hbuilt⟩ := exists_withBody htext fragment function
  exact ⟨_, hbuilt, hfunction.withStatements fun statement hmem => .oneOf hread hmem⟩

theorem exists_marking (datasource : Datasource) {method : Option String}
    (hmethod : ∀ name ∈ method, IsName name) :
    ∃ marking, annotationIn (Body.external datasource.policy.processorClass method) =
      .ok marking := by
  have hopen : Fits [] [.bracket '{'] "@java:Method \x7b" := fits_of_run rfl rfl
  have hclose : Fits [.bracket '{'] [] "\x7d" := fits_of_run rfl rfl
  have hprocessor : IsFitName datasource.policy.processorClass :=
    (isFitName_of_plain (by rfl) : IsFitName "io.ballerina.stdlib.persist.sql.datastore.").append
      (by cases datasource <;> exact isFitName_of_plain (by rfl))
  cases method with
  | none =>
      have hclass : Fits [] [] ("    'class: \"" ++ datasource.policy.processorClass ++ "\"") :=
        fits_quoted hprocessor (fun _ => rfl) (fun _ => rfl) rfl rfl
      have hlines := LinesFit.opens hopen (.keep hclass (.closes hclose (.nil [])))
      exact exists_annotationIn (head?_textOfLines rfl) hlines.fits.turns hlines.fits.spaced
  | some name =>
      have hclass : Fits [] [] ("    'class: \"" ++ datasource.policy.processorClass ++ "\",") :=
        fits_quoted hprocessor (fun _ => rfl) (fun _ => rfl) rfl rfl
      have hname : Fits [] [] ("    name: \"" ++ name ++ "\"") :=
        fits_quoted (isFitName_of_isName (hmethod name rfl)) (fun _ => rfl) (fun _ => rfl) rfl rfl
      have hlines := LinesFit.opens hopen (.keep hclass (.keep hname (.closes hclose (.nil []))))
      exact exists_annotationIn (head?_textOfLines rfl) hlines.fits.turns hlines.fits.spaced

/-- A function can be marked as external. -/
theorem exists_external (datasource : Datasource) {method : Option String}
    (hmethod : ∀ name ∈ method, IsName name) (function : FunctionDef) :
    ∃ marking, marking.IsRead ∧
      external datasource.policy method function = .ok (function.withExternal marking) := by
  obtain ⟨marking, hread⟩ := exists_marking datasource hmethod
  refine ⟨marking, .marking hread, ?_⟩
  rw [external, bind_eq_ok_iff]
  exact ⟨marking, readFragment_eq_ok_iff.mpr hread, rfl⟩

theorem builds_external (datasource : Datasource) {method : Option String}
    (hmethod : ∀ name ∈ method, IsName name) {function : FunctionDef}
    (hfunction : function.Meets clientVocabulary) :
    Builds (external datasource.policy method function) := by
  obtain ⟨marking, hmarking, hbuilt⟩ := exists_external datasource hmethod function
  exact ⟨_, hbuilt, hfunction.withExternal hmarking⟩

section Params

variable {type : TypeDesc} {name value : String} (htype : type.Names IsFitName)
  (hname : IsFitName name)

include htype hname

theorem meets_param : (⟨type, name, none⟩ : Param).Meets clientVocabulary :=
  ⟨htype, hname, by simp⟩

theorem meets_defaultParam (hvalue : Outline.run .initial value.toList = some .initial)
    (hreads : readsFixed false .idle .loose value (scopesOf value) = true) :
    (⟨type, name, some value⟩ : Param).Meets clientVocabulary := by
  refine ⟨htype, hname, ?_⟩
  rintro _ ⟨rfl⟩
  exact ⟨(neutral_of_run hvalue).whole, reads_of_fixed hreads⟩

end Params

/-! ## Resource functions -/

theorem meets_clauseParams : ∀ param ∈ clauseParams, param.Meets clientVocabulary := by
  intro param hparam
  obtain ⟨name, hname, rfl⟩ := List.mem_map.mp hparam
  refine meets_defaultParam names_parameterizedQuery ?_ rfl rfl
  simp only [List.mem_cons, List.not_mem_nil, or_false] at hname
  rcases hname with rfl | rfl | rfl | rfl <;>
    exact isFitName_of_plain (by rfl)

section Entity

variable {entity : Entity} (hentity : NamedEntity entity)

include hentity

/-- The name of a type that is derived from the entity. -/
theorem names_derived {suffix : String} (hsuffix : IsFitName suffix) :
    (TypeDesc.plain (entity.name ++ suffix)).Names IsFitName :=
  names_plain ((isFitName_of_isName hentity.name).append hsuffix)

theorem meets_collectionPath :
    ∀ segment ∈ collectionPath entity, segment.Meets clientVocabulary := by
  intro segment hsegment
  rw [List.mem_singleton.mp hsegment]
  exact isFitName_resourceName hentity.name

theorem meets_recordPath : ∀ segment ∈ recordPath entity, segment.Meets clientVocabulary := by
  intro segment hsegment
  rcases List.mem_append.mp hsegment with hsegment | hsegment
  · exact meets_collectionPath hentity segment hsegment
  · obtain ⟨key, hkey, rfl⟩ := List.mem_map.mp hsegment
    obtain ⟨hname, htype⟩ := hentity.keys key hkey
    exact ⟨names_typeDesc htype, isFitName_of_isName hname⟩

theorem meets_targetParam : (targetParam entity).Meets clientVocabulary := by
  refine meets_defaultParam (names_derived hentity ?_) ?_ rfl rfl
  · exact isFitName_of_plain (by rfl)
  · exact isFitName_of_plain (by rfl)

theorem builds_getAll (datasource : Datasource) : Builds (getAll datasource.policy entity) := by
  have hmethod : IsName "query" := ⟨by decide, List.all_eq_true.mp rfl⟩
  refine builds_external datasource (by simpa using hmethod) (.withParams ?_ ?_)
  · exact meets_resource (isFitName_of_plain (by rfl))
      (meets_collectionPath hentity) (names_streamOf names_targetType)
  · rw [List.forall_mem_cons]
    exact ⟨meets_targetParam hentity, meets_clauseParams⟩

theorem builds_getOne (datasource : Datasource) : Builds (getOne datasource.policy entity) := by
  have hmethod : IsName "queryOne" := ⟨by decide, List.all_eq_true.mp rfl⟩
  refine builds_external datasource (by simpa using hmethod) (.withParams ?_ ?_)
  · exact meets_resource (isFitName_of_plain (by rfl))
      (meets_recordPath hentity) (names_or names_targetType names_persistError)
  · rw [List.forall_mem_singleton]
    exact meets_targetParam hentity

theorem builds_post : Builds (post entity) := by
  have hinsert : IsFitName "Insert" := isFitName_of_plain (by rfl)
  have hkeys := hentity.keys
  refine builds_withBody (.withParams ?_ ?_) ?_
  · exact meets_resource (isFitName_of_plain (by rfl))
      (meets_collectionPath hentity)
      (names_or (names_array (names_keyType fun key h => (hkeys key h).2)) names_persistError)
  · rw [List.forall_mem_singleton]
    exact meets_param (names_array (names_derived hentity hinsert))
      (isFitName_of_plain (by rfl))
  · exact isStatements_post (isFitName_constantName hentity.name)
      ((isFitName_of_isName hentity.name).append hinsert)
      (fits_projection fun key h => (hkeys key h).1)

theorem builds_put : Builds (put entity) := by
  have hkeys := hentity.keys
  refine builds_withBody (.withParams ?_ ?_) ?_
  · exact meets_resource (isFitName_of_plain (by rfl))
      (meets_recordPath hentity)
      (names_or (names_plain (isFitName_of_isName hentity.name)) names_persistError)
  · rw [List.forall_mem_singleton]
    exact meets_param (names_derived hentity (isFitName_of_plain (by rfl)))
      (isFitName_of_plain (by rfl))
  · exact isStatements_put (isFitName_constantName hentity.name)
      (isFitName_resourceName hentity.name) (fun key h => (hkeys key h).1)

theorem builds_delete : Builds (delete entity) := by
  have hkeys := hentity.keys
  refine builds_withBody ?_ ?_
  · exact meets_resource (isFitName_of_plain (by rfl))
      (meets_recordPath hentity)
      (names_or (names_plain (isFitName_of_isName hentity.name)) names_persistError)
  · exact isStatements_delete (isFitName_constantName hentity.name)
      (isFitName_resourceName hentity.name) (fun key h => (hkeys key h).1)
      (isFitName_of_isName hentity.name)

omit hentity in
theorem resourceFunctions_eq {policy : Policy} {all one created updated deleted : FunctionDef}
    (hall : getAll policy entity = .ok all) (hone : getOne policy entity = .ok one)
    (hcreated : post entity = .ok created) (hupdated : put entity = .ok updated)
    (hdeleted : delete entity = .ok deleted) :
    resourceFunctions policy entity = .ok [all, one, created, updated, deleted] := by
  rw [resourceFunctions, hall, hone, hcreated, hupdated, hdeleted]
  rfl

/-- The five functions of an entity can be built. -/
theorem exists_resourceFunctions (datasource : Datasource) :
    ∃ functions, resourceFunctions datasource.policy entity = .ok functions ∧
      ∀ function ∈ functions, function.Meets clientVocabulary := by
  obtain ⟨all, hall, hallMeets⟩ := builds_getAll hentity datasource
  obtain ⟨one, hone, honeMeets⟩ := builds_getOne hentity datasource
  obtain ⟨created, hcreated, hcreatedMeets⟩ := builds_post hentity
  obtain ⟨updated, hupdated, hupdatedMeets⟩ := builds_put hentity
  obtain ⟨deleted, hdeleted, hdeletedMeets⟩ := builds_delete hentity
  refine ⟨_, resourceFunctions_eq hall hone hcreated hupdated hdeleted, ?_⟩
  simp only [List.forall_mem_cons]
  exact ⟨hallMeets, honeMeets, hcreatedMeets, hupdatedMeets, hdeletedMeets, by simp⟩

end Entity

/-! ## Functions of the client itself -/

theorem builds_queryNativeSql (datasource : Datasource) :
    Builds (queryNativeSql datasource.policy) := by
  have hrow : (TypeDesc.plain "rowType").Names IsFitName :=
    names_plain (isFitName_of_plain (by rfl))
  have hrecord : (TypeDesc.typedesc .openRecord).Names IsFitName := by
    simp only [TypeDesc.Names]
  refine builds_external datasource (by simp) (.withParams ?_ ?_)
  · exact meets_named (isFitName_of_plain (by rfl)) (names_streamOf hrow)
  · simp only [List.forall_mem_cons]
    exact ⟨meets_param names_parameterizedQuery (isFitName_of_plain (by rfl)),
      meets_defaultParam hrecord (isFitName_of_plain (by rfl)) rfl rfl, by simp⟩

theorem builds_executeNativeSql (datasource : Datasource) :
    Builds (executeNativeSql datasource.policy) := by
  have hresult : (TypeDesc.qualified "psql" "ExecutionResult").Names IsFitName :=
    names_qualified (isFitName_of_plain (by rfl))
      (isFitName_of_plain (by rfl))
  refine builds_external datasource (by simp) (.withParams ?_ ?_)
  · exact meets_named (isFitName_of_plain (by rfl))
      (names_or hresult names_persistError)
  · rw [List.forall_mem_singleton]
    exact meets_param names_parameterizedQuery (isFitName_of_plain (by rfl))

theorem builds_close : Builds close :=
  builds_withBody (meets_named (isFitName_of_plain (by rfl))
    (names_optional names_persistError)) isStatements_close

/-- The body of `init` can be read, whatever entities there are. -/
theorem isStatements_init_of_names (datasource : Datasource) {entities : List Entity}
    (hnames : ∀ entity ∈ entities, IsName entity.name) :
    IsStatements (Body.init datasource.policy.clientType (connectArguments datasource.policy.access)
      (withCommas (entities.map fun entity => Body.registration datasource.policy.sqlSpecifics
        datasource.policy.hasCustomSchema entity.constantName))) := by
  have hclientType : Fits [] [] datasource.policy.clientType := by
    cases datasource <;> exact fits_neutral rfl rfl
  have hconnect : Fits [] [] (connectArguments datasource.policy.access) := by
    cases datasource.policy.access <;> exact fits_neutral (by decide +kernel) (by decide +kernel)
  have hspecifics : Fits [] [] datasource.policy.sqlSpecifics := by
    cases datasource <;> exact fits_neutral rfl rfl
  refine isStatements_init hclientType hconnect (List.forall_mem_map.mpr fun entity hentity => ?_)
  exact fits_registration hspecifics (isFitName_constantName (hnames entity hentity)) _

theorem builds_init (datasource : Datasource) {params : List Param}
    (hparams : ∀ param ∈ params, param.Meets clientVocabulary) {entities : List Entity}
    (hentities : ∀ entity ∈ entities, NamedEntity entity) :
    Builds (init datasource.policy params entities) := by
  refine builds_withBody (.withParams ?_ hparams) (isStatements_init_of_names datasource
    fun entity hentity => (hentities entity hentity).name)
  exact meets_named (isFitName_of_plain (by rfl)) (names_optional names_persistError)

end PersistLayer.Client
