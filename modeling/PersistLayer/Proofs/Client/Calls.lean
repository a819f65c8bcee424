import PersistLayer.Proofs.Client.Statements

/-!
# The path that a client declares and the one it calls

The functions that update and delete a record read it, too: by a call of the client
itself on the path of the record.  That path is written twice.  Where it is declared it is
a list of segments, whose names are quoted when they are written; where it is called it is
put into the text of a body, with the names of the keys quoted and the resource as it is.

So both hold the same identifiers in the same order, with the same quotes, exactly when the
resource is no reserved word (`calls_agree_iff`).
-/

namespace PersistLayer.Client

open Schema Syntax

/-! ## Both paths -/

/-- The path of a record as it is declared: the resource, and each key with its type. -/
def declaredPath (entity : Entity) : String :=
  "/".intercalate (quotedName entity.resourceName :: entity.keyFields.map fun key =>
    "[" ++ key.type.typeDesc.text ++ " " ++ quotedName key.name ++ "]")

theorem render_recordPath (accessor : String) (entity : Entity) :
    (FunctionKind.resource accessor (recordPath entity)).render =
      accessor ++ " " ++ declaredPath entity := by
  have hpath : (recordPath entity).map PathSegment.render = quotedName entity.resourceName ::
      entity.keyFields.map fun key =>
        "[" ++ key.type.typeDesc.text ++ " " ++ quotedName key.name ++ "]" := by
    simp [recordPath, collectionPath, Key.path, PathSegment.render]
  rw [FunctionKind.render, hpath, declaredPath]

/-- The declared path without the types of the keys. -/
def untypedPath (entity : Entity) : String :=
  "/".intercalate (quotedName entity.resourceName ::
    entity.keyFields.map fun key => "[" ++ quotedName key.name ++ "]")

/-- The identifiers of a text, in order and with their quotes. -/
def identifiersIn (text : String) : List String :=
  (wordsOf text).filterMap fun word => if word.1 = .identifier then some word.2 else none

/-- A reserved word and its quoted form are two identifiers. -/
theorem identifiersIn_reserved {word : String} (hword : word ∈ reservedWords) :
    identifiersIn word ≠ identifiersIn (quotedName word) := by
  have hall : reservedWords.all
      (fun word => identifiersIn word != identifiersIn (quotedName word)) = true := by
    decide +kernel
  simpa using List.all_eq_true.mp hall word hword

/-- Slashes between segments are no identifiers. -/
theorem identifiersIn_intercalate_slash {segment : String} {rest : List String}
    (hsegments : ∀ other ∈ segment :: rest, Neutral other ∧ BeginsOther other) :
    identifiersIn ("/".intercalate (segment :: rest)) =
      identifiersIn segment ++ rest.flatMap identifiersIn := by
  rw [identifiersIn, wordsOf_intercalate_slash hsegments, List.filterMap_append,
    List.filterMap_flatMap]
  rfl

/-- **The identifiers of both paths** are the same unless the resource is a reserved word. -/
theorem identifiersIn_calledPath_eq_iff {entity : Entity} (hname : IsName entity.name)
    (hkeys : ∀ key ∈ entity.keyFields, IsName key.name) :
    identifiersIn (calledPath entity) = identifiersIn (untypedPath entity) ↔
      entity.resourceName ∉ reservedWords := by
  have hresource := isFitName_resourceName hname
  have hsegments : ∀ resource, IsFitName resource → ∀ segment ∈ resource ::
      entity.keyFields.map fun key => "[" ++ quotedName key.name ++ "]",
        Neutral segment ∧ BeginsOther segment := by
    intro resource hfit
    rw [List.forall_mem_cons]
    refine ⟨⟨hfit.isInert.neutral, hfit.isInert.beginsOther⟩, ?_⟩
    intro segment hsegment
    obtain ⟨hfits, hbegins⟩ := fits_segment hkeys segment hsegment
    exact ⟨hfits.turns, hbegins⟩
  rw [calledPath, untypedPath, identifiersIn_intercalate_slash (hsegments _ hresource),
    identifiersIn_intercalate_slash (hsegments _ hresource.quotedName), List.append_left_inj]
  constructor
  · intro hsame hreserved
    exact identifiersIn_reserved hreserved hsame
  · intro hplain
    rw [quotedName, if_neg (by simpa using hplain)]

/-! ## The call in a body -/

section Call

variable {entity : Entity} (hname : IsName entity.name)
  (hkeys : ∀ key ∈ entity.keyFields, IsName key.name) (hkeyed : entity.keyFields ≠ [])

include hname hkeys hkeyed

/-- The update of a record ends with the call that returns it. -/
theorem exists_put : ∃ updated, put entity = .ok updated ∧ updated.statements.getLast? =
    some ⟨[⟨"return self->/" ++ calledPath entity ++ ".get();", false⟩]⟩ := by
  exact ⟨_, put_eq hname hkeys hkeyed, rfl⟩

/-- The deletion of a record begins with the call that reads it. -/
theorem exists_delete : ∃ deleted, delete entity = .ok deleted ∧ deleted.statements.head? =
    some ⟨[⟨entity.name ++ " result = check self->/" ++ calledPath entity ++ ".get();",
      false⟩]⟩ := by
  exact ⟨_, delete_eq hname hkeys hkeyed, rfl⟩

end Call

/-! ## Agreement -/

/-- The path that is declared where a record is read. -/
theorem exists_getOne (datasource : Datasource) (entity : Entity) :
    ∃ read, getOne datasource.policy entity = .ok read ∧
      read.kind.render = "get " ++ declaredPath entity := by
  obtain ⟨marking, hbuilt⟩ := exists_getOne_eq datasource entity
  exact ⟨_, hbuilt, render_recordPath "get" entity⟩

/-- **The client calls the path that it declares** unless the resource is a reserved word. -/
theorem calls_agree_iff (datasource : Datasource) {entity : Entity} (hname : IsName entity.name)
    (hkeys : ∀ key ∈ entity.keyFields, IsName key.name) (hkeyed : entity.keyFields ≠ []) :
    ∃ read updated deleted,
      getOne datasource.policy entity = .ok read ∧ put entity = .ok updated ∧
      delete entity = .ok deleted ∧
      read.kind.render = "get " ++ declaredPath entity ∧
      updated.statements.getLast? =
        some ⟨[⟨"return self->/" ++ calledPath entity ++ ".get();", false⟩]⟩ ∧
      deleted.statements.head? =
        some ⟨[⟨entity.name ++ " result = check self->/" ++ calledPath entity ++ ".get();",
          false⟩]⟩ ∧
      (identifiersIn (calledPath entity) = identifiersIn (untypedPath entity) ↔
        entity.resourceName ∉ reservedWords) := by
  obtain ⟨read, hread, hpath⟩ := exists_getOne datasource entity
  obtain ⟨updated, hupdated, hlast⟩ := exists_put hname hkeys hkeyed
  obtain ⟨deleted, hdeleted, hfirst⟩ := exists_delete hname hkeys hkeyed
  exact ⟨read, updated, deleted, hread, hupdated, hdeleted, hpath, hlast, hfirst,
    identifiersIn_calledPath_eq_iff hname hkeys⟩

/-- An entity with two keys, of which one is named by a reserved word. -/
def orderItem : Entity :=
  ⟨"OrderItem", none,
    [⟨"order", .int, true, false, true⟩, ⟨"position", .int, true, false, true⟩], []⟩

/-- An entity whose resource is a reserved word. -/
def returnEntity : Entity := ⟨"Return", none, [⟨"id", .int, true, false, true⟩], []⟩

theorem calls_agree_orderItem : ∃ read updated,
    getOne Datasource.mysql.policy orderItem = .ok read ∧ put orderItem = .ok updated ∧
      read.kind.render = "get orderitems/[int 'order]/[int position]" ∧
      updated.statements.getLast? =
        some ⟨[⟨"return self->/orderitems/['order]/[position].get();", false⟩]⟩ ∧
      identifiersIn (untypedPath orderItem) = ["orderitems", "'order", "position"] ∧
      identifiersIn (calledPath orderItem) = ["orderitems", "'order", "position"] := by
  obtain ⟨read, updated, -, hread, hupdated, -, hpath, hlast, -, hagree⟩ :=
    calls_agree_iff .mysql (show IsName orderItem.name by decide +kernel)
      (show ∀ key ∈ orderItem.keyFields, IsName key.name by decide +kernel) (by decide)
  have hdeclared : "get " ++ declaredPath orderItem =
      "get orderitems/[int 'order]/[int position]" := by
    decide +kernel
  have hcalled : "return self->/" ++ calledPath orderItem ++ ".get();" =
      "return self->/orderitems/['order]/[position].get();" := by
    decide +kernel
  have hnames : identifiersIn (untypedPath orderItem) = ["orderitems", "'order", "position"] := by
    decide +kernel
  rw [hcalled] at hlast
  exact ⟨read, updated, hread, hupdated, hpath.trans hdeclared, hlast, hnames,
    (hagree.mpr (by decide +kernel)).trans hnames⟩

/-- A resource that is a reserved word is declared with a quote and called without one. -/
theorem returns_is_called_unquoted : ∃ read updated deleted,
    getOne Datasource.mysql.policy returnEntity = .ok read ∧ put returnEntity = .ok updated ∧
      delete returnEntity = .ok deleted ∧
      read.kind.render = "get 'returns/[int id]" ∧
      updated.statements.getLast? = some ⟨[⟨"return self->/returns/[id].get();", false⟩]⟩ ∧
      deleted.statements.head? =
        some ⟨[⟨"Return result = check self->/returns/[id].get();", false⟩]⟩ ∧
      identifiersIn (untypedPath returnEntity) = ["'returns", "id"] ∧
      identifiersIn (calledPath returnEntity) = ["returns", "id"] := by
  have hname : IsName returnEntity.name := by decide +kernel
  have hkeys : ∀ key ∈ returnEntity.keyFields, IsName key.name := by decide +kernel
  have hkeyed : returnEntity.keyFields ≠ [] := by decide
  obtain ⟨read, hread, hpath⟩ := exists_getOne .mysql returnEntity
  obtain ⟨updated, hupdated, hlast⟩ := exists_put hname hkeys hkeyed
  obtain ⟨deleted, hdeleted, hfirst⟩ := exists_delete hname hkeys hkeyed
  have hdeclared : "get " ++ declaredPath returnEntity = "get 'returns/[int id]" := by
    decide +kernel
  have hcalled : calledPath returnEntity = "returns/[id]" := by decide +kernel
  rw [hcalled] at hlast hfirst
  exact ⟨read, updated, deleted, hread, hupdated, hdeleted, hpath.trans hdeclared, hlast, hfirst,
    by decide +kernel, by decide +kernel⟩

end PersistLayer.Client
