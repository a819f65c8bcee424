import PersistLayer.Proofs.Client.Outcome

/-!
# The functions of a client and how they are addressed

A client has one function to open the connection, five for each entity that it covers,
two for queries of the user and one to close the connection, in this order and no others.
The functions of an entity stand on its resource, and a caller tells them apart by an
accessor and by the number of segments in the path.

Within one entity the numbers differ where the accessors do not, since every covered
entity has a key.  Two entities differ in their resources, since a client is refused
otherwise.  So no two functions have one address (`client_is_unambiguous`).
-/

namespace PersistLayer.Client

open Schema Syntax

/-! ## Addresses -/

/-- What a caller gives to reach a function: a name, or an accessor with the resource and the
number of segments of a path. -/
inductive Address where
  | named (name : String)
  | resource (accessor : String) (resource : Option String) (segments : Nat)
  deriving DecidableEq

/-- The name in a segment of a path. -/
def segmentName? : PathSegment → Option String
  | .name name => some name
  | .param .. => none

/-- The address under which a function is reached. -/
def addressOf : FunctionKind → Address
  | .named name => .named name
  | .resource accessor path => .resource accessor (path.head?.bind segmentName?) path.length

/-- How the functions of an entity are called. -/
def entityKinds (entity : Entity) : List FunctionKind :=
  [.resource "get" (collectionPath entity), .resource "get" (recordPath entity),
    .resource "post" (collectionPath entity), .resource "put" (recordPath entity),
    .resource "delete" (recordPath entity)]

/-- How the functions of a client are called. -/
def clientKinds (entities : List Entity) : List FunctionKind :=
  .named "init" :: entities.flatMap entityKinds ++
    [.named "queryNativeSQL", .named "executeNativeSQL", .named "close"]

section Entity

variable {entity other : Entity}

theorem addresses_entityKinds : (entityKinds entity).map addressOf =
    [.resource "get" (some entity.resourceName) 1,
      .resource "get" (some entity.resourceName) (entity.keyFields.length + 1),
      .resource "post" (some entity.resourceName) 1,
      .resource "put" (some entity.resourceName) (entity.keyFields.length + 1),
      .resource "delete" (some entity.resourceName) (entity.keyFields.length + 1)] := by
  simp [entityKinds, addressOf, collectionPath, recordPath, Key.path, segmentName?]

/-- The functions of an entity with a key have different addresses. -/
theorem nodup_addresses_entity (hkeyed : entity.keyFields ≠ []) :
    ((entityKinds entity).map addressOf).Nodup := by
  rw [addresses_entityKinds]
  -- only the first two functions have one accessor, and a key makes the second path longer
  simp [hkeyed]

/-- The resource is part of the address. -/
theorem exists_of_mem_entityKinds {address : Address}
    (haddress : address ∈ (entityKinds entity).map addressOf) :
    ∃ accessor segments, address = .resource accessor (some entity.resourceName) segments := by
  rw [addresses_entityKinds] at haddress
  simp only [List.mem_cons, List.not_mem_nil, or_false] at haddress
  rcases haddress with rfl | rfl | rfl | rfl | rfl <;> exact ⟨_, _, rfl⟩

/-- Entities with different resources share no address. -/
theorem disjoint_addresses (hresources : entity.resourceName ≠ other.resourceName) :
    List.Disjoint ((entityKinds entity).map addressOf) ((entityKinds other).map addressOf) := by
  intro address hone hother
  obtain ⟨accessor, segments, rfl⟩ := exists_of_mem_entityKinds hone
  obtain ⟨_, _, hsame⟩ := exists_of_mem_entityKinds hother
  rw [Address.resource.injEq, Option.some.injEq] at hsame
  exact hresources hsame.2.1

end Entity

/-- **No two functions of a client have one address** when all entities have keys and
different resources. -/
theorem nodup_addresses {entities : List Entity}
    (hkeyed : ∀ entity ∈ entities, entity.keyFields ≠ [])
    (hresources : entities.Pairwise fun first second =>
      first.resourceName ≠ second.resourceName) :
    ((clientKinds entities).map addressOf).Nodup := by
  have hentities : ((entities.flatMap entityKinds).map addressOf).Nodup := by
    rw [List.map_flatMap, List.nodup_flatMap]
    exact ⟨fun entity hentity => nodup_addresses_entity (hkeyed entity hentity),
      hresources.imp disjoint_addresses⟩
  have hnamed : ∀ name, Address.named name ∉ (entities.flatMap entityKinds).map addressOf := by
    intro name hname
    rw [List.map_flatMap, List.mem_flatMap] at hname
    obtain ⟨entity, -, hmem⟩ := hname
    obtain ⟨_, _, hsame⟩ := exists_of_mem_entityKinds hmem
    cases hsame
  have haddresses : (clientKinds entities).map addressOf =
      .named "init" :: ((entities.flatMap entityKinds).map addressOf ++
        [.named "queryNativeSQL", .named "executeNativeSQL", .named "close"]) := by
    rw [clientKinds, List.map_append, List.map_cons, List.cons_append]
    rfl
  rw [haddresses, List.nodup_cons, List.mem_append, not_or]
  -- the functions of the client itself have names, those of the entities have paths
  refine ⟨⟨hnamed "init", by decide⟩, List.nodup_append.mpr ⟨hentities, by decide, ?_⟩⟩
  rintro address hentity _ hmem rfl
  simp only [List.mem_cons, List.not_mem_nil, or_false] at hmem
  rcases hmem with rfl | rfl | rfl <;> exact hnamed _ hentity

/-! ## The functions of a class -/

section Built

variable {function built : FunctionDef} {policy : Policy} {entity : Entity}

/-- Statements change nothing but the body of a function. -/
theorem exists_body_of_withStatements (statements : List Snippet) :
    ∃ body, function.withStatements statements = { function with body } := by
  unfold FunctionDef.withStatements
  induction statements generalizing function with
  | nil => exact ⟨function.body, rfl⟩
  | cons statement rest ih =>
      obtain ⟨body, hbody⟩ := @ih (function.push statement)
      exact ⟨body, hbody⟩

theorem exists_body_of_withBody {fragment text : String}
    (hbuilt : withBody fragment text function = .ok built) :
    ∃ body, built = { function with body } := by
  simp only [withBody, bind_eq_ok_iff, pure_eq_ok_iff] at hbuilt
  obtain ⟨statements, -, rfl⟩ := hbuilt
  exact exists_body_of_withStatements statements

theorem exists_body_of_external {method : Option String}
    (hbuilt : external policy method function = .ok built) :
    ∃ body, built = { function with body } := by
  simp only [external, bind_eq_ok_iff, pure_eq_ok_iff] at hbuilt
  obtain ⟨marking, -, rfl⟩ := hbuilt
  exact ⟨_, rfl⟩

theorem kind_withBody {fragment text : String}
    (hbuilt : withBody fragment text function = .ok built) : built.kind = function.kind := by
  obtain ⟨_, rfl⟩ := exists_body_of_withBody hbuilt
  rfl

theorem kind_external {method : Option String}
    (hbuilt : external policy method function = .ok built) : built.kind = function.kind := by
  obtain ⟨_, rfl⟩ := exists_body_of_external hbuilt
  rfl

theorem kinds_resourceFunctions {functions : List FunctionDef}
    (hfunctions : resourceFunctions policy entity = .ok functions) :
    functions.map FunctionDef.kind = entityKinds entity := by
  simp only [resourceFunctions, bind_eq_ok_iff, pure_eq_ok_iff] at hfunctions
  obtain ⟨all, hall, one, hone, created, hcreated, updated, hupdated, deleted, hdeleted, rfl⟩ :=
    hfunctions
  simp only [List.map_cons, List.map_nil, kind_external hall, kind_external hone,
    kind_withBody hcreated, kind_withBody hupdated, kind_withBody hdeleted]
  rfl

theorem kinds_resources {entities : List Entity} {resources : List (List FunctionDef)}
    (hresources : entities.mapM (resourceFunctions policy) = .ok resources) :
    resources.flatten.map FunctionDef.kind = entities.flatMap entityKinds := by
  rw [mapM_eq_ok_iff] at hresources
  induction hresources with
  | nil => rfl
  | @cons entity functions entities resources hfunctions _ ih =>
      calc (functions :: resources).flatten.map FunctionDef.kind
          = functions.map FunctionDef.kind ++ resources.flatten.map FunctionDef.kind := by
            rw [List.flatten_cons, List.map_append]
        _ = entityKinds entity ++ entities.flatMap entityKinds := by
            rw [kinds_resourceFunctions hfunctions, ih]
        _ = (entity :: entities).flatMap entityKinds := List.flatMap_cons.symm

end Built

/-- The functions of the class of a client: those of the entities between the one that opens
the connection and those of the client itself. -/
theorem functions_of_clientClass {flavour : Flavour} {entities : List Entity}
    {definition : ClassDef} (hdefinition : clientClass flavour entities = .ok definition) :
    ∃ opening resources query execute closing,
      init flavour.initPolicy flavour.initParams entities = .ok opening ∧
      entities.mapM (resourceFunctions flavour.policy) = .ok resources ∧
      queryNativeSql flavour.policy = .ok query ∧ executeNativeSql flavour.policy = .ok execute ∧
      close = .ok closing ∧
      definition.functions = opening :: resources.flatten ++ [query, execute, closing] := by
  simp only [clientClass, bind_eq_ok_iff, pure_eq_ok_iff] at hdefinition
  obtain ⟨fields, -, opening, hopening, resources, hresources, query, hquery, execute, hexecute,
    closing, hclosing, rfl⟩ := hdefinition
  have hfields : (fields.map ClassMember.field).filterMap ClassMember.function? = [] := by
    rw [List.filterMap_eq_nil_iff]
    intro member hmember
    obtain ⟨declaration, -, rfl⟩ := List.mem_map.mp hmember
    rfl
  have hfunctions : ∀ functions : List FunctionDef,
      (functions.map ClassMember.function).filterMap ClassMember.function? = functions := by
    intro functions
    rw [List.filterMap_map]
    exact List.filterMap_some
  refine ⟨opening, resources, query, execute, closing, hopening, hresources, hquery, hexecute,
    hclosing, ?_⟩
  rw [ClassDef.functions, List.filterMap_append, hfields, hfunctions, List.nil_append]

/-- How the functions of the class of a client are called, in order. -/
theorem kinds_clientClass {flavour : Flavour} {entities : List Entity} {definition : ClassDef}
    (hdefinition : clientClass flavour entities = .ok definition) :
    definition.functions.map FunctionDef.kind = clientKinds entities := by
  obtain ⟨opening, resources, query, execute, closing, hopening, hresources, hquery, hexecute,
    hclosing, hfunctions⟩ := functions_of_clientClass hdefinition
  rw [hfunctions, List.map_append, List.map_cons, kinds_resources hresources,
    kind_withBody hopening]
  simp only [List.map_cons, List.map_nil, kind_external hquery, kind_external hexecute,
    kind_withBody hclosing]
  rfl

/-! ## Clients -/

/-- **A client has the full set of functions, and no two of them have one address.**  Its
file holds one constant for each covered entity and the class, its constants have different
names, and its functions are those of the covered entities, in their order, between the one
that opens the connection and those of the client itself. -/
theorem client_is_unambiguous {flavour : Flavour} {model : DataModel} {client : ClientFile}
    (hclient : generate flavour model = .ok client) :
    ∃ definition,
      client.source.members =
        (covered model).map (fun entity => .const entity.constantName entity.resourceName) ++
          [.classDef definition] ∧
      ((covered model).map Entity.constantName).Nodup ∧
      definition.functions.map FunctionDef.kind = clientKinds (covered model) ∧
      (definition.functions.map fun function => addressOf function.kind).Nodup := by
  obtain ⟨definition, hdefinition, hsource⟩ := exists_class_of_generate hclient
  have hkinds := kinds_clientClass hdefinition
  have hdistinct := not_collide_iff.mp (not_collide_of_generate hclient)
  refine ⟨definition, by rw [hsource]; rfl, nodup_constantNames hclient, hkinds, ?_⟩
  have haddresses := nodup_addresses (keyed_of_generate hclient) (hdistinct.imp And.left)
  rwa [← hkinds, List.map_map] at haddresses

/-- The client of two entities with the names of keywords, one of which has two keys. -/
theorem addresses_keywordModel : ∃ client definition,
    generate (.database .mysql "Client") keywordModel = .ok client ∧
      ModuleMember.classDef definition ∈ client.source.members ∧
      definition.functions.map (fun function => addressOf function.kind) =
        [.named "init", .resource "get" (some "classs") 1, .resource "get" (some "classs") 3,
          .resource "post" (some "classs") 1, .resource "put" (some "classs") 3,
          .resource "delete" (some "classs") 3, .resource "get" (some "matchs") 1,
          .resource "get" (some "matchs") 2, .resource "post" (some "matchs") 1,
          .resource "put" (some "matchs") 2, .resource "delete" (some "matchs") 2,
          .named "queryNativeSQL", .named "executeNativeSQL", .named "close"] := by
  obtain ⟨client, hclient⟩ : ∃ client,
      generate (.database .mysql "Client") keywordModel = .ok client :=
    exists_client_of_checks (by decide) (by decide +kernel) (by decide) (by decide +kernel)
  obtain ⟨definition, hmembers, -, hkinds, -⟩ := client_is_unambiguous hclient
  have haddresses : definition.functions.map (fun function => addressOf function.kind) =
      (clientKinds (covered keywordModel)).map addressOf := by
    rw [← hkinds, List.map_map]
    rfl
  refine ⟨client, definition, hclient, by rw [hmembers]; simp, haddresses.trans ?_⟩
  decide +kernel

end PersistLayer.Client
