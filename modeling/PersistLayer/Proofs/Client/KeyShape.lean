import PersistLayer.Proofs.Client.Calls

/-!
# The shape of a key in all functions

The key of an entity is written in six places: as parameters of the paths on one record, in the
paths that bodies call, as the argument that identifies a record, and as the type and the
projection of the keys that the creation of records returns.  A key of one field is written as
that field everywhere but in paths.  The fields of a key of several are listed in the same
order, which is the order of the entity (`key_has_one_shape`).
-/

namespace PersistLayer.Client

open Schema Syntax

/-- How a key is written as an argument, as a type and as what is selected of a record. -/
inductive KeyShape : List Field → String → TypeDesc → String → Prop where
  /-- One field stands for itself. -/
  | one (key : Field) :
      KeyShape [key] (quotedName key.name) key.type.typeDesc ("inserted." ++ quotedName key.name)
  /-- Several fields are a mapping, a tuple type and a tuple. -/
  | several (keys : List Field) (hseveral : 2 ≤ keys.length) :
      KeyShape keys
        ("\x7b" ++ ", ".intercalate (keys.map fun key =>
          "\"" ++ key.name ++ "\": " ++ quotedName key.name) ++ "\x7d")
        (.tuple (keys.map fun key => key.type.typeDesc))
        ("[" ++ ", ".intercalate (keys.map fun key => "inserted." ++ quotedName key.name) ++ "]")

/-- The type of a key is no union, so it is written in front of brackets as it is. -/
theorem KeyShape.text_array {keys : List Field} {argument projection : String} {type : TypeDesc}
    (hshape : KeyShape keys argument type projection) :
    (TypeDesc.array type).text = type.text ++ "[]" := by
  have hunion : type.isUnion = false := by
    cases hshape with
    | one key => cases key.type <;> rfl
    | several => rfl
  rw [TypeDesc.text, TypeDesc.operand, hunion, if_neg Bool.false_ne_true]

/-- The renderings of a key have its shape. -/
theorem keyShape {keys : List Field} (hkeys : ∀ key ∈ keys, IsName key.name) (hkeyed : keys ≠ []) :
    KeyShape keys (Key.argument keys) (Key.type keys) (Key.projection keys) := by
  obtain ⟨key, rest, rfl⟩ := List.exists_cons_of_ne_nil hkeyed
  cases rest with
  | nil => exact .one key
  | cons next others =>
      have hliterals : ((key :: next :: others).map fun other =>
          "\"" ++ other.name ++ "\": " ++ quotedName other.name) =
            (key :: next :: others).map fun other =>
              stringLiteral other.name ++ ": " ++ quotedName other.name := by
        apply List.map_congr_left
        intro other hother
        rw [(isFitName_of_isName (hkeys other hother)).stringLiteral_eq]
        simp [String.append_assoc]
      have hshape := KeyShape.several (key :: next :: others) (by simp)
      rw [hliterals] at hshape
      exact hshape

/-- **The key has one shape in all functions.**  The functions on one record have the resource
and each key with its type in their paths.  The bodies call the path with the same keys, and they
identify a record and select the keys of created records in the shape that the number of keys
decides.  The keys are the key fields of the entity in all of these, in their order. -/
theorem key_has_one_shape (datasource : Datasource) {entity : Entity} (hname : IsName entity.name)
    (hkeys : ∀ key ∈ entity.keyFields, IsName key.name) (hkeyed : entity.keyFields ≠ []) :
    ∃ argument type projection, KeyShape entity.keyFields argument type projection ∧
    ∃ all read created updated deleted,
      resourceFunctions datasource.policy entity = .ok [all, read, created, updated, deleted] ∧
      (∀ accessor function,
        (accessor, function) ∈ [("get", read), ("put", updated), ("delete", deleted)] →
          function.kind = .resource accessor (.name entity.resourceName ::
            entity.keyFields.map fun key => .param key.type.typeDesc key.name) ∧
          function.kind.render = accessor ++ " " ++ declaredPath entity) ∧
      created.returns = some (.union [.array type, persistError]) ∧
      created.returns.map TypeDesc.text = some (type.text ++ "[]|persist:Error") ∧
      created.statements = (sqlClientSentences entity.constantName ++
        [["_ = check sqlClient.runBatchInsertQuery(data);"],
          ["return from " ++ DataTypes.insertName entity.name ++ " inserted in data",
            "    select " ++ projection ++ ";"]]).map Snippet.ofLines ∧
      updated.statements = (sqlClientSentences entity.constantName ++
        [["_ = check sqlClient.runUpdateQuery(" ++ argument ++ ", value);"],
          ["return self->/" ++ calledPath entity ++ ".get();"]]).map Snippet.ofLines ∧
      deleted.statements =
        ([[entity.name ++ " result = check self->/" ++ calledPath entity ++ ".get();"]] ++
          sqlClientSentences entity.constantName ++
          [["_ = check sqlClient.runDeleteQuery(" ++ argument ++ ");"],
            ["return result;"]]).map Snippet.ofLines := by
  have hshape := keyShape hkeys hkeyed
  obtain ⟨listing, hall⟩ := exists_getAll_eq datasource entity
  obtain ⟨marking, hread⟩ := exists_getOne_eq datasource entity
  have hfunctions := resourceFunctions_eq hall hread (post_eq hname hkeys)
    (put_eq hname hkeys hkeyed) (delete_eq hname hkeys hkeyed)
  refine ⟨_, _, _, hshape, _, _, _, _, _, hfunctions, ?_, rfl, ?_, rfl, rfl, rfl⟩
  · intro accessor function hmem
    have hkind : function.kind = .resource accessor (recordPath entity) := by
      simp only [List.mem_cons, Prod.mk.injEq, List.not_mem_nil, or_false] at hmem
      rcases hmem with ⟨rfl, rfl⟩ | ⟨rfl, rfl⟩ | ⟨rfl, rfl⟩ <;> rfl
    rw [hkind]
    exact ⟨rfl, render_recordPath accessor entity⟩
  · have htext : ((TypeDesc.array (Key.type entity.keyFields)).or persistError).text =
        (TypeDesc.array (Key.type entity.keyFields)).text ++ "|" ++ "persist:Error" := rfl
    rw [Option.map_some, htext, hshape.text_array, String.append_assoc, String.append_assoc]
    rfl

/-- An entity whose key is the first and the last of three fields. -/
def reservation : Entity :=
  ⟨"Reservation", none,
    [⟨"day", .int, true, false, true⟩, ⟨"note", .string, false, true, true⟩,
      ⟨"order", .string, true, false, true⟩], []⟩

theorem key_shape_reservation : ∃ all read created updated deleted,
    resourceFunctions Datasource.mysql.policy reservation =
      .ok [all, read, created, updated, deleted] ∧
    read.kind.render = "get reservations/[int day]/[string 'order]" ∧
    created.returns.map TypeDesc.text = some "[int, string][]|persist:Error" ∧
    created.statements.getLast? = some (Snippet.ofLines
      ["return from ReservationInsert inserted in data",
        "    select [inserted.day, inserted.'order];"]) ∧
    updated.statements.drop 2 =
      [Snippet.ofLines ["_ = check sqlClient.runUpdateQuery(\x7b\"day\": day, \"order\": " ++
        "'order\x7d, value);"],
        Snippet.ofLines ["return self->/reservations/[day]/['order].get();"]] ∧
    deleted.statements.drop 3 =
      [Snippet.ofLines ["_ = check sqlClient.runDeleteQuery(\x7b\"day\": day, \"order\": " ++
        "'order\x7d);"],
        Snippet.ofLines ["return result;"]] := by
  obtain ⟨argument, type, projection, hshape, all, read, created, updated, deleted, hfunctions,
    hpaths, -, htext, hcreated, hupdated, hdeleted⟩ :=
      key_has_one_shape .mysql (show IsName reservation.name by decide +kernel)
        (show ∀ key ∈ reservation.keyFields, IsName key.name by decide +kernel) (by decide)
  have hkeys : reservation.keyFields =
      [⟨"day", .int, true, false, true⟩, ⟨"order", .string, true, false, true⟩] := rfl
  have hpath := (hpaths "get" read List.mem_cons_self).2
  rw [hkeys] at hshape
  cases hshape
  refine ⟨all, read, created, updated, deleted, hfunctions, ?_, ?_, ?_, ?_, ?_⟩
  · rw [hpath]
    decide +kernel
  · rw [htext]
    decide +kernel
  · rw [hcreated]
    decide +kernel
  · rw [hupdated]
    decide +kernel
  · rw [hdeleted]
    decide +kernel

end PersistLayer.Client
