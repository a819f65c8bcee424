import PersistLayer.Proofs.Client.Addresses
import PersistLayer.Proofs.Client.LocalTypes
import PersistLayer.Proofs.Client.Relations
import PersistLayer.Proofs.DataTypes.References

/-!
# The types that a client refers to

A client is written against the file of data types: its functions take and return records
of the entities, two bodies name such a record, and so do the joins in the metadata.  No
generator sees the file of the other, so the names agree only because both put the same
suffixes to the name of an entity.

In the heads of the functions every name stands in a type descriptor.  Besides the types of
an entity these are the types of its key, as the data model gives them, the parameters that
say what a query is asked for, and the types that the connection is configured with
(`Accounted`).  In the bodies that insert and delete records the types stand in front of the
variables, and in the metadata in the entries of the joins.

Together with what the definitions themselves mention, nothing that the generators put in
is missing from the file of data types (`dataTypes_are_complete_and_closed`).
-/

namespace PersistLayer.Syntax

/-! ## Heads of functions -/

/-- The named types in a segment of a path. -/
def PathSegment.mentions : PathSegment → List (Option String × String)
  | .name _ => []
  | .param type _ => type.mentions

/-- The named types in the path of a function. -/
def FunctionKind.mentions : FunctionKind → List (Option String × String)
  | .named _ => []
  | .resource _ path => path.flatMap PathSegment.mentions

/-- The named types in the head of a function: in its path, among its parameters and in what
it returns. -/
def FunctionDef.mentions (function : FunctionDef) : List (Option String × String) :=
  function.kind.mentions ++ function.params.flatMap (fun param => param.type.mentions) ++
    function.returns.elim [] TypeDesc.mentions

namespace TypeDesc

theorem mentionsAll_eq (types : List TypeDesc) : mentionsAll types = types.flatMap mentions := by
  induction types with
  | nil => rfl
  | cons type rest ih => rw [mentionsAll, ih, List.flatMap_cons]

@[simp]
theorem mentions_or (type other : TypeDesc) :
    (type.or other).mentions = type.mentions ++ other.mentions := by
  cases type <;> simp [TypeDesc.or, mentions, mentionsAll_eq]

end TypeDesc

end PersistLayer.Syntax

namespace PersistLayer.Client

open Schema Syntax DataTypes

/-! ## Resource functions -/

/-- The named types of some keys. -/
def keyMentions (keys : List Field) : List (Option String × String) :=
  keys.flatMap fun key => key.type.typeDesc.mentions

/-- The types of an entity that its functions refer to. -/
def typeNames (entity : Entity) : List String :=
  [entity.name, entity.name ++ "TargetType", entity.name ++ "Insert", entity.name ++ "Update"]

theorem mentions_keyType (keys : List Field) : (Key.type keys).mentions = keyMentions keys := by
  unfold Key.type
  split
  · simp [keyMentions]
  · rw [TypeDesc.mentions, TypeDesc.mentionsAll_eq, List.flatMap_map]
    rfl

@[simp]
theorem mentions_persistError : persistError.mentions = [(some "persist", "Error")] := by
  simp [persistError, TypeDesc.qualified, TypeDesc.mentions]

@[simp]
theorem mentions_parameterizedQuery :
    parameterizedQuery.mentions = [(some "sql", "ParameterizedQuery")] := by
  simp [parameterizedQuery, TypeDesc.qualified, TypeDesc.mentions]

@[simp]
theorem mentions_streamOf (row : TypeDesc) :
    (streamOf row).mentions = row.mentions ++ [(some "persist", "Error")] := by
  simp [streamOf, TypeDesc.mentions]

section Built

variable {policy : Policy} {entity : Entity} {function built : FunctionDef} {text fragment : String}

/-- The body has no part in the head. -/
theorem mentions_withBody (hbuilt : withBody fragment text function = .ok built) :
    built.mentions = function.mentions := by
  obtain ⟨_, rfl⟩ := exists_body_of_withBody hbuilt
  rfl

theorem mentions_external {method : Option String}
    (hbuilt : external policy method function = .ok built) :
    built.mentions = function.mentions ∧ built.params = function.params := by
  obtain ⟨_, rfl⟩ := exists_body_of_external hbuilt
  exact ⟨rfl, rfl⟩

theorem mentions_path (entity : Entity) :
    (recordPath entity).flatMap PathSegment.mentions = keyMentions entity.keyFields := by
  rw [recordPath, List.flatMap_append, Key.path, List.flatMap_map]
  rfl

theorem mentions_getAll (hbuilt : getAll policy entity = .ok built) :
    built.mentions = (none, entity.name ++ "TargetType") ::
      List.replicate 4 (some "sql", "ParameterizedQuery") ++
        [(none, "targetType"), (some "persist", "Error")] := by
  rw [(mentions_external hbuilt).1]
  simp [FunctionDef.mentions, FunctionDef.resource, FunctionDef.withParams, FunctionKind.mentions,
    collectionPath, PathSegment.mentions, targetParam, targetTypeName, clauseParams, targetType]

theorem mentions_getOne (hbuilt : getOne policy entity = .ok built) :
    built.mentions = keyMentions entity.keyFields ++ [(none, entity.name ++ "TargetType"),
      (none, "targetType"), (some "persist", "Error")] := by
  rw [(mentions_external hbuilt).1]
  simp [FunctionDef.mentions, FunctionDef.resource, FunctionDef.withParams, FunctionKind.mentions,
    mentions_path, targetParam, targetTypeName, targetType]

theorem mentions_post (hbuilt : post entity = .ok built) :
    built.mentions = (none, entity.name ++ "Insert") :: keyMentions entity.keyFields ++
      [(some "persist", "Error")] := by
  rw [mentions_withBody hbuilt]
  simp [FunctionDef.mentions, FunctionDef.resource, FunctionDef.withParams, FunctionKind.mentions,
    collectionPath, PathSegment.mentions, insertName, mentions_keyType]

theorem mentions_put (hbuilt : put entity = .ok built) :
    built.mentions = keyMentions entity.keyFields ++ [(none, entity.name ++ "Update"),
      (none, entity.name), (some "persist", "Error")] := by
  rw [mentions_withBody hbuilt]
  simp [FunctionDef.mentions, FunctionDef.resource, FunctionDef.withParams, FunctionKind.mentions,
    mentions_path, updateName]

theorem mentions_delete (hbuilt : delete entity = .ok built) :
    built.mentions = keyMentions entity.keyFields ++ [(none, entity.name),
      (some "persist", "Error")] := by
  rw [mentions_withBody hbuilt]
  simp [FunctionDef.mentions, FunctionDef.resource, FunctionKind.mentions, mentions_path]

end Built

/-! ## What a client writes -/

/-- What an unqualified type name in the head of a function can be: a type that the file
defines, a parameter of the function, a part of the type of a key, or a type that the
connection is configured with. -/
inductive Accounted (file : SourceFile) (flavour : Flavour) (entities : List Entity)
    (function : FunctionDef) (name : String) : Prop
  | declared (hdeclared : name ∈ file.declaredNames)
  | param (hparam : name ∈ function.params.map Param.name)
  | key (entity : Entity) (hentity : entity ∈ entities)
      (hkey : (none, name) ∈ keyMentions entity.keyFields)
  | connection (param : Param) (hparam : param ∈ flavour.initParams)
      (htype : (none, name) ∈ param.type.mentions)

/-- What a client writes for an entity refers to types by the names under which the file declares
them: the queries to the target type, an insertion and an update to their payloads, an update
and a deletion to the record that they return, and the joins to the entities that they lead to.
Of the bodies, those of the insertion and of the deletion declare a variable with a type of the
entity, and beside these there are the SQL clients only. -/
structure RefersTo (file : SourceFile) (functions : List FunctionDef) (entities : List Entity)
    (entity : Entity) : Prop where
  declared : ∀ name ∈ typeNames entity, name ∈ file.declaredNames
  getAll : ∃ all ∈ functions, all.kind = .resource "get" (collectionPath entity) ∧
    (none, entity.name ++ "TargetType") ∈ all.mentions
  getOne : ∃ one ∈ functions, one.kind = .resource "get" (recordPath entity) ∧
    (none, entity.name ++ "TargetType") ∈ one.mentions
  post : ∃ created ∈ functions, created.kind = .resource "post" (collectionPath entity) ∧
    (none, entity.name ++ "Insert") ∈ created.mentions ∧
    statementsIn (Body.post entity.constantName (entity.name ++ "Insert")
      (Key.projection entity.keyFields)) = .ok created.statements ∧
    (NamedEntity entity → HasLocals created
      [("psql:SQLClient", "sqlClient"), (entity.name ++ "Insert", "inserted")])
  put : ∃ updated ∈ functions, updated.kind = .resource "put" (recordPath entity) ∧
    (none, entity.name ++ "Update") ∈ updated.mentions ∧
    (none, entity.name) ∈ updated.mentions ∧
    statementsIn (Body.put entity.constantName entity.resourceName
      (Key.argument entity.keyFields) (Key.clientPath entity.keyFields)) = .ok updated.statements ∧
    (NamedEntity entity → HasLocals updated [("psql:SQLClient", "sqlClient")])
  delete : ∃ deleted ∈ functions, deleted.kind = .resource "delete" (recordPath entity) ∧
    (none, entity.name) ∈ deleted.mentions ∧
    statementsIn (Body.delete entity.name entity.constantName entity.resourceName
      (Key.argument entity.keyFields) (Key.clientPath entity.keyFields)) = .ok deleted.statements ∧
    (NamedEntity entity → HasLocals deleted
      [(entity.name, "result"), ("psql:SQLClient", "sqlClient")])
  joins : ∃ entries, (describe entities entity).text = textOfLines
      ((describe entities entity).linesToKey ++ joinBlock entries ++ ["    \x7d"]) ∧
    List.Forall₂ (fun join line => IsJoinEntry join.relation join.target line ∧
      join.target ∈ file.declaredNames) (describe entities entity).joins entries

theorem declared_typeNames {model : DataModel} {file : SourceFile}
    (hmembers : file.members = members model) {entity : Entity}
    (hentity : entity ∈ model.entities) :
    ∀ name ∈ typeNames entity, name ∈ file.declaredNames := by
  have hsuffixed : [entity.name ++ "TargetType", entity.name ++ "Insert", entity.name ++ "Update"] ⊆
      derivedNames model entity := List.subset_append_right _ _
  rw [typeNames, List.forall_mem_cons]
  exact ⟨mem_declaredNames hmembers hentity (.inl rfl),
    fun name hname => mem_declaredNames hmembers hentity (.inr (hsuffixed hname))⟩

/-- The targets of the joins are entities, so the file declares them. -/
theorem exists_joinEntries {file : SourceFile} {entities : List Entity}
    (hdeclared : ∀ target ∈ entities, target.name ∈ file.declaredNames) (entity : Entity) :
    ∃ entries, (describe entities entity).text = textOfLines
        ((describe entities entity).linesToKey ++ joinBlock entries ++ ["    \x7d"]) ∧
      List.Forall₂ (fun join line => IsJoinEntry join.relation join.target line ∧
        join.target ∈ file.declaredNames) (describe entities entity).joins entries := by
  obtain ⟨entries, htext, hentries⟩ := exists_entries_of_joins (describe entities entity)
  have htargets : ∀ join ∈ (describe entities entity).joins, join.target ∈ file.declaredNames := by
    intro join hjoin
    obtain ⟨⟨relation, target⟩, hpair, rfl⟩ := List.mem_map.mp hjoin
    exact hdeclared target (mem_coveredRelations hpair).2
  refine ⟨entries, htext, ?_⟩
  have hall := (List.forall₂_and_left _ _).mpr ⟨htargets, hentries⟩
  exact hall.imp fun join line ⟨htarget, hentry⟩ => ⟨hentry, htarget⟩

section Resources

variable {flavour : Flavour} {file : SourceFile} {entity : Entity} {functions : List FunctionDef}
  (hfunctions : resourceFunctions flavour.policy entity = .ok functions)
  (hdeclared : ∀ name ∈ typeNames entity, name ∈ file.declaredNames)

include hfunctions hdeclared

theorem refersTo_of_resourceFunctions {others : List FunctionDef} (hothers : functions ⊆ others)
    {entities : List Entity}
    (hentities : ∀ target ∈ entities, target.name ∈ file.declaredNames)
    (hkeyed : entity.keyFields ≠ []) : RefersTo file others entities entity := by
  simp only [resourceFunctions, bind_eq_ok_iff, pure_eq_ok_iff] at hfunctions
  obtain ⟨all, hall, one, hone, created, hcreated, updated, hupdated, deleted, hdeleted, rfl⟩ :=
    hfunctions
  have hkeys : NamedEntity entity → ∀ key ∈ entity.keyFields, IsName key.name :=
    fun hnamed key hkey => (hnamed.fields key (List.mem_filter.mp hkey).1).1
  refine ⟨hdeclared, ⟨all, hothers (by simp), kind_external hall, ?_⟩,
    ⟨one, hothers (by simp), kind_external hone, ?_⟩,
    ⟨created, hothers (by simp), kind_withBody hcreated, ?_, statements_withBody hcreated rfl,
      fun hnamed => hasLocals_post hnamed.name (hkeys hnamed) hkeyed hcreated⟩,
    ⟨updated, hothers (by simp), kind_withBody hupdated, ?_, ?_, statements_withBody hupdated rfl,
      fun hnamed => hasLocals_put hnamed.name (hkeys hnamed) hkeyed hupdated⟩,
    ⟨deleted, hothers (by simp), kind_withBody hdeleted, ?_, statements_withBody hdeleted rfl,
      fun hnamed => hasLocals_delete hnamed.name (hkeys hnamed) hkeyed hdeleted⟩,
    exists_joinEntries hentities entity⟩
  · simp [mentions_getAll hall]
  · simp [mentions_getOne hone]
  · simp [mentions_post hcreated]
  · simp [mentions_put hupdated]
  · simp [mentions_put hupdated]
  · simp [mentions_delete hdeleted]

/-- Every name in the head of a function of an entity can be accounted for. -/
theorem accounted_of_resourceFunctions {entities : List Entity} (hentity : entity ∈ entities) :
    ∀ function ∈ functions, ∀ name, (none, name) ∈ function.mentions →
      Accounted file flavour entities function name := by
  have haccounted : ∀ {function : FunctionDef},
      (∀ name, (none, name) ∈ function.mentions → name ∈ typeNames entity ∨
        (none, name) ∈ keyMentions entity.keyFields ∨ name ∈ function.params.map Param.name) →
      ∀ name, (none, name) ∈ function.mentions → Accounted file flavour entities function name := by
    intro function hnames name hname
    rcases hnames name hname with htype | hkey | hparam
    · exact .declared (hdeclared name htype)
    · exact .key entity hentity hkey
    · exact .param hparam
  simp only [resourceFunctions, bind_eq_ok_iff, pure_eq_ok_iff] at hfunctions
  obtain ⟨all, hall, one, hone, created, hcreated, updated, hupdated, deleted, hdeleted, rfl⟩ :=
    hfunctions
  -- the two functions that read are told the type of their results
  have hparams : "targetType" ∈ all.params.map Param.name ∧
      "targetType" ∈ one.params.map Param.name := by
    rw [(mentions_external hall).2, (mentions_external hone).2]
    exact ⟨List.mem_cons_self, List.mem_cons_self⟩
  simp only [List.forall_mem_cons]
  refine ⟨haccounted ?_, haccounted ?_, haccounted ?_, haccounted ?_, haccounted ?_, by simp⟩
  · grind [mentions_getAll hall, typeNames]
  · grind [mentions_getOne hone, typeNames]
  · grind [mentions_post hcreated, typeNames]
  · grind [mentions_put hupdated, typeNames]
  · grind [mentions_delete hdeleted, typeNames]

end Resources

/-! ## The class -/

section Own

variable {file : SourceFile} {flavour : Flavour} {entities : List Entity} {built : FunctionDef}
  {name : String}

theorem accounted_of_queryNativeSql (hbuilt : queryNativeSql flavour.policy = .ok built)
    (hname : (none, name) ∈ built.mentions) : Accounted file flavour entities built name := by
  obtain ⟨hmentions, hparams⟩ := mentions_external hbuilt
  have hrow : name = "rowType" := by
    rw [hmentions] at hname
    simpa [FunctionDef.mentions, FunctionDef.named, FunctionDef.withParams, FunctionKind.mentions,
      TypeDesc.mentions] using hname
  refine .param ?_
  rw [hparams, hrow]
  exact List.mem_cons_of_mem _ List.mem_cons_self

theorem accounted_of_executeNativeSql (hbuilt : executeNativeSql flavour.policy = .ok built)
    (hname : (none, name) ∈ built.mentions) : Accounted file flavour entities built name := by
  rw [(mentions_external hbuilt).1] at hname
  simp [FunctionDef.mentions, FunctionDef.named, FunctionDef.withParams, FunctionKind.mentions,
    TypeDesc.qualified, TypeDesc.mentions] at hname

theorem accounted_of_close (hbuilt : close = .ok built) (hname : (none, name) ∈ built.mentions) :
    Accounted file flavour entities built name := by
  rw [mentions_withBody hbuilt] at hname
  simp [FunctionDef.mentions, FunctionDef.named, FunctionKind.mentions] at hname

/-- The head of `init` holds the types that it is configured with. -/
theorem accounted_of_init {own : List Entity}
    (hbuilt : init flavour.initPolicy flavour.initParams own = .ok built)
    (hname : (none, name) ∈ built.mentions) : Accounted file flavour entities built name := by
  rw [mentions_withBody hbuilt] at hname
  simp only [FunctionDef.mentions, FunctionDef.named, FunctionDef.withParams,
    FunctionKind.mentions, List.nil_append, Option.elim_some, TypeDesc.mentions_optional,
    mentions_persistError, List.mem_append, List.mem_flatMap, List.mem_singleton, Prod.mk.injEq,
    reduceCtorEq, false_and, or_false] at hname
  obtain ⟨param, hparam, htype⟩ := hname
  exact .connection param hparam htype

/-- **What a client refers to.**  Every name in the head of a function of a client can be
accounted for, and the functions of each entity refer to its types. -/
theorem accounted_of_clientClass {model : DataModel} (hmembers : file.members = members model)
    (hentities : ∀ entity ∈ entities, entity ∈ model.entities)
    (hkeyed : ∀ entity ∈ entities, entity.keyFields ≠ []) {definition : ClassDef}
    (hdefinition : clientClass flavour entities = .ok definition) :
    (∀ function ∈ definition.functions, ∀ name, (none, name) ∈ function.mentions →
      Accounted file flavour entities function name) ∧
      ∀ entity ∈ entities, RefersTo file definition.functions entities entity := by
  obtain ⟨opening, resources, query, execute, closing, hopening, hresources, hquery, hexecute,
    hclosing, hfunctions⟩ := functions_of_clientClass hdefinition
  obtain ⟨hback, hforth⟩ := mem_of_mapM_eq_ok hresources
  have hdeclared : ∀ entity ∈ entities, ∀ name ∈ typeNames entity, name ∈ file.declaredNames :=
    fun entity hentity => declared_typeNames hmembers (hentities entity hentity)
  rw [hfunctions]
  -- the functions are those of the client itself and, between them, those of each entity
  refine ⟨?_, ?_⟩
  · simp only [List.cons_append, List.forall_mem_cons, List.forall_mem_append]
    refine ⟨fun _ => accounted_of_init hopening, ?_, fun _ => accounted_of_queryNativeSql hquery,
      fun _ => accounted_of_executeNativeSql hexecute, fun _ => accounted_of_close hclosing,
      by simp⟩
    intro function hmem
    obtain ⟨functions, hbuilt, hfunction⟩ := List.mem_flatten.mp hmem
    obtain ⟨entity, hentity, hok⟩ := hback functions hbuilt
    exact accounted_of_resourceFunctions hok (hdeclared entity hentity) hentity function hfunction
  · intro entity hentity
    obtain ⟨functions, hbuilt, hok⟩ := hforth entity hentity
    refine refersTo_of_resourceFunctions hok (hdeclared entity hentity) ?_
      (fun target htarget => hdeclared target htarget _ List.mem_cons_self) (hkeyed entity hentity)
    intro function hfunction
    exact List.mem_append_left _
      (List.mem_cons_of_mem _ (List.mem_flatten.mpr ⟨functions, hbuilt, hfunction⟩))

end Own

/-! ## Both files -/

/-- **The file of data types is complete and closed.**  A data model with entities has a file
that defines every type of every entity.  What its definitions mention is defined in it, but
for the types that the data model gives to fields, and it imports the `time` module exactly
when one of them mentions it.  So are the types that a client of the data model refers to,
whatever its flavour. -/
theorem dataTypes_are_complete_and_closed {model : DataModel} (hne : model.entities ≠ []) :
    ∃ file, DataTypes.generate model = some file ∧
      (∀ entity ∈ model.entities, Defines file model entity) ∧
      (∀ name body, .type name body ∈ file.members →
        HoldsFields model body ∨ MentionsDeclared file body) ∧
      (ImportsTime file ↔ ∃ name body, .type name body ∈ file.members ∧
        ∃ type, (some "time", type) ∈ body.mentions) ∧
      ∀ flavour client, generate flavour model = .ok client →
        ∃ definition metadata,
          client.source.members = constants (covered model) ++ [.classDef definition] ∧
          ClassMember.field metadata ∈ definition.members ∧
          memberIn (metadataText ((covered model).map (describe (covered model)))) = .ok metadata ∧
          (∀ function ∈ definition.functions, ∀ name, (none, name) ∈ function.mentions →
            Accounted file flavour (covered model) function name) ∧
          ∀ entity ∈ covered model,
            RefersTo file definition.functions (covered model) entity := by
  obtain ⟨file, hfile, hmembers⟩ := exists_file_of_ne_nil hne
  refine ⟨file, hfile, fun entity => defines_of_mem hmembers,
    fun name body => mentions_of_member hmembers, imports_time_iff hfile hmembers, ?_⟩
  intro flavour client hclient
  obtain ⟨definition, hdefinition, hsource⟩ := exists_class_of_generate hclient
  -- a client is written for some of the entities, the file of data types for all
  have hentities : ∀ entity ∈ covered model, entity ∈ model.entities :=
    fun entity hentity => (List.mem_filter.mp hentity).1
  obtain ⟨metadata, hfield, hmetadata⟩ := exists_metadata_of_clientClass hdefinition
  exact ⟨definition, metadata, by rw [hsource], hfield, hmetadata, accounted_of_clientClass
    hmembers hentities (keyed_of_generate hclient) hdefinition⟩

/-- Employees with a manager, with desks that lead back to them and with a badge that is
missing, where a date is part of the key of a desk and photos are not covered. -/
def guildModel : DataModel where
  name := "guild"
  entities :=
    [⟨"Employee", none,
        [⟨"id", .int, true, false, true⟩, ⟨"rank", .enumeration "Rank", false, true, true⟩],
        [⟨"manager", "Employee", .one, true, [⟨"managerId", "id"⟩]⟩,
          ⟨"badge", "Badge", .one, true, [⟨"badgeId", "id"⟩]⟩,
          ⟨"desks", "Desk", .many, false, [⟨"ownerId", "id"⟩]⟩]⟩,
      ⟨"Desk", none, [⟨"room", .string, true, false, true⟩, ⟨"since", .date, true, false, true⟩],
        [⟨"owner", "Employee", .one, true, [⟨"ownerId", "id"⟩]⟩]⟩,
      ⟨"Photo", none, [⟨"content", .other "Blob", false, false, false⟩],
        [⟨"album", "Album", .one, true, []⟩]⟩]
  enumerations := [⟨"Rank", ["JUNIOR", "SENIOR"]⟩]

theorem dataTypes_are_complete_and_closed_guildModel :
    guildModel.entities ≠ [] ∧ ∃ types client,
      DataTypes.generate guildModel = some types ∧
      generate (.database .mysql "Client") guildModel = .ok client ∧
      ImportsTime types ∧
      .type "EmployeeWithRelations" (.record
        [.inclusion (.plain "EmployeeOptionalized"),
          .field false (.plain "EmployeeOptionalized") "manager" true,
          .field false (.array (.plain "DeskOptionalized")) "desks" true]) ∈ types.members ∧
      .type "PhotoTargetType" (.synonym (.typedesc (.plain "PhotoOptionalized"))) ∈ types.members ∧
      "DeskTargetType" ∈ types.declaredNames ∧
      ∃ definition, .classDef definition ∈ client.source.members ∧
        ∃ created ∈ definition.functions, (none, "DeskInsert") ∈ created.mentions ∧
          HasLocals created [("psql:SQLClient", "sqlClient"), ("DeskInsert", "inserted")] := by
  have hne : guildModel.entities ≠ [] := by decide
  obtain ⟨client, hclient⟩ : ∃ client,
      generate (.database .mysql "Client") guildModel = .ok client :=
    exists_client_of_checks hne (by decide +kernel) (by decide) (by decide +kernel)
  obtain ⟨types, htypes, hdefines, -, htime, hclients⟩ := dataTypes_are_complete_and_closed hne
  obtain ⟨definition, -, hclass, -, -, -, hrefers⟩ := hclients _ client hclient
  have hemployee := hdefines guildModel.entities[0] (by decide)
  have hdesk := hdefines guildModel.entities[1] (by decide)
  have hphoto := hdefines guildModel.entities[2] (by decide)
  have hrefersDesk := hrefers guildModel.entities[1] (by decide)
  obtain ⟨created, hcreated, -, hinsert, -, hlocals⟩ := hrefersDesk.post
  have hdate : ImportsTime types :=
    htime.mpr ⟨_, _, hdesk.stored, "Date", by decide +kernel⟩
  refine ⟨hne, types, client, htypes, hclient, hdate, (hemployee.related (by decide)).1,
    hphoto.unrelated (by decide), hrefersDesk.declared _ (by decide), definition, ?_, created,
    hcreated, hinsert, hlocals (by decide +kernel)⟩
  rw [hclass]
  simp

end PersistLayer.Client
