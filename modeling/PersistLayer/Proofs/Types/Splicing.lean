import PersistLayer.Proofs.Render.Trees
import PersistLayer.Proofs.Scopes.Trees

/-!
# Unions that are members of unions

A union is written without parentheses where it is a member of another one, so its members
cannot be told from those of the outer union.  Splicing puts them there, everywhere in a type.
The written form stays the same (`text_spliced`), provided that no union is empty.
-/

namespace PersistLayer.Syntax.TypeDesc

/-! ## Induction over types -/

section Induction

variable {motive : TypeDesc → Prop}

/-- What holds of a type when it holds of the types that it is made of holds of all types. -/
theorem induction (named : ∀ scope name, motive (.named scope name))
    (optional : ∀ inner, motive inner → motive (.optional inner))
    (array : ∀ inner, motive inner → motive (.array inner))
    (union : ∀ members, (∀ member ∈ members, motive member) → motive (.union members))
    (tuple : ∀ members, (∀ member ∈ members, motive member) → motive (.tuple members))
    (stream : ∀ row completion, motive row → motive completion → motive (.stream row completion))
    (typedesc : ∀ inner, motive inner → motive (.typedesc inner))
    (openRecord : motive .openRecord) (type : TypeDesc) : motive type := by
  refine TypeDesc.rec (motive_2 := fun types => ∀ type ∈ types, motive type)
    named optional array union tuple stream typedesc openRecord ?_ ?_ type
  · simp
  · intro first rest hfirst hrest
    rw [List.forall_mem_cons]
    exact ⟨hfirst, hrest⟩

end Induction

/-! ## Splicing -/

/-- The members of a union.  Another type stands for itself. -/
def members : TypeDesc → List TypeDesc
  | union members => members
  | single => [single]

/-- The choice among some types: a union, unless there is one type only. -/
def choice : List TypeDesc → TypeDesc
  | [single] => single
  | members => union members

mutual

/-- Every union in the type has at least two members. -/
def Chooses : TypeDesc → Prop
  | named _ _ => True
  | optional inner => inner.Chooses
  | array inner => inner.Chooses
  | union members => 2 ≤ members.length ∧ ChoosesAll members
  | tuple members => ChoosesAll members
  | stream row completion => row.Chooses ∧ completion.Chooses
  | typedesc inner => inner.Chooses
  | openRecord => True

/-- Every union in several types has at least two members. -/
def ChoosesAll : List TypeDesc → Prop
  | [] => True
  | type :: rest => type.Chooses ∧ ChoosesAll rest

end

mutual

/-- The type with the members of every union that is a member of a union in its place. -/
def spliced : TypeDesc → TypeDesc
  | named scope name => named scope name
  | optional inner => optional inner.spliced
  | array inner => array inner.spliced
  | union members => union (splicedMembers members)
  | tuple members => tuple (splicedAll members)
  | stream row completion => stream row.spliced completion.spliced
  | typedesc inner => typedesc inner.spliced
  | openRecord => openRecord

/-- The members of a union, with the members of a union in its place. -/
def splicedMembers : List TypeDesc → List TypeDesc
  | [] => []
  | type :: rest => type.spliced.members ++ splicedMembers rest

/-- Several types, each spliced. -/
def splicedAll : List TypeDesc → List TypeDesc
  | [] => []
  | type :: rest => type.spliced :: splicedAll rest

end

theorem choosesAll_iff {types : List TypeDesc} :
    ChoosesAll types ↔ ∀ type ∈ types, type.Chooses := by
  induction types with
  | nil => simp [ChoosesAll]
  | cons type rest ih => simp [ChoosesAll, ih]

theorem splicedAll_eq (types : List TypeDesc) : splicedAll types = types.map spliced := by
  induction types with
  | nil => rfl
  | cons type rest ih => rw [splicedAll, ih, List.map_cons]

theorem isUnion_spliced (type : TypeDesc) : type.spliced.isUnion = type.isUnion := by
  cases type <;> rfl

/-! ## How many members there are -/

theorem length_le_splicedMembers {types : List TypeDesc}
    (hsome : ∀ type ∈ types, type.spliced.members ≠ []) :
    types.length ≤ (splicedMembers types).length := by
  induction types with
  | nil => exact Nat.le_refl _
  | cons type rest ih =>
      rw [List.forall_mem_cons] at hsome
      have hfirst := List.length_pos_of_ne_nil hsome.1
      have hrest := ih hsome.2
      rw [splicedMembers, List.length_append, List.length_cons]
      omega

/-- A spliced type has a member. -/
theorem members_spliced_ne_nil {type : TypeDesc} (hchooses : type.Chooses) :
    type.spliced.members ≠ [] := by
  induction type using induction with
  | union members ih =>
      obtain ⟨hlength, hall⟩ := hchooses
      rw [choosesAll_iff] at hall
      have hle := length_le_splicedMembers fun type hmem => ih type hmem (hall type hmem)
      have hpos : 0 < (splicedMembers members).length := by omega
      exact List.ne_nil_of_length_pos hpos
  | _ => exact List.cons_ne_nil _ _

theorem choice_of_length {types : List TypeDesc} (hlength : 2 ≤ types.length) :
    choice types = union types := by
  match types, hlength with
  | _ :: _ :: _, _ => rfl

/-- A spliced type is the choice among its members. -/
theorem choice_members_spliced {type : TypeDesc} (hchooses : type.Chooses) :
    choice type.spliced.members = type.spliced := by
  cases type with
  | union types =>
      obtain ⟨hlength, hall⟩ := hchooses
      rw [choosesAll_iff] at hall
      have hle := length_le_splicedMembers fun type hmem => members_spliced_ne_nil (hall type hmem)
      rw [spliced, members]
      exact choice_of_length (hlength.trans hle)
  | _ => rfl

/-! ## The written form -/

/-- A type is written as its members with bars between them. -/
theorem text_eq_intercalate_members (type : TypeDesc) :
    type.text = "|".intercalate (type.members.map text) := by
  cases type with
  | union members => rw [text, texts_eq]; rfl
  | _ => simp [members]

theorem intercalate_splicedMembers {types : List TypeDesc}
    (hsome : ∀ type ∈ types, type.spliced.members ≠ [])
    (htext : ∀ type ∈ types, type.spliced.text = type.text) :
    "|".intercalate ((splicedMembers types).map text) = "|".intercalate (types.map text) := by
  induction types with
  | nil => rfl
  | cons type rest ih =>
      rw [List.forall_mem_cons] at hsome htext
      have hrest := ih hsome.2 htext.2
      have hfirst := text_eq_intercalate_members type.spliced
      cases rest with
      | nil =>
          rw [splicedMembers, splicedMembers, List.append_nil, ← hfirst, htext.1]
          simp
      | cons next others =>
          have hle := length_le_splicedMembers hsome.2
          rw [List.length_cons] at hle
          have hback : (splicedMembers (next :: others)).map text ≠ [] := by
            rw [← List.length_pos_iff, List.length_map]
            omega
          have hfront : type.spliced.members.map text ≠ [] := by simpa using hsome.1
          calc "|".intercalate ((splicedMembers (type :: next :: others)).map text)
              = "|".intercalate (type.spliced.members.map text) ++ "|" ++
                  "|".intercalate ((splicedMembers (next :: others)).map text) := by
                rw [splicedMembers, List.map_append,
                  String.intercalate_append_of_ne_nil hfront hback]
            _ = type.text ++ "|" ++ "|".intercalate ((next :: others).map text) := by
                rw [← hfirst, htext.1, hrest]
            _ = _ := by simp only [List.map_cons, String.intercalate_cons_cons]

/-- **Splicing does not change how a type is written.** -/
theorem text_spliced {type : TypeDesc} (hchooses : type.Chooses) :
    type.spliced.text = type.text := by
  induction type using induction with
  | named scope name => rfl
  | optional inner ih => rw [spliced, text, text, ih hchooses, operand, operand, isUnion_spliced]
  | array inner ih => rw [spliced, text, text, ih hchooses, operand, operand, isUnion_spliced]
  | union members ih =>
      -- members that are unions are spliced in, and have a bar between as before
      obtain ⟨-, hall⟩ := hchooses
      rw [choosesAll_iff] at hall
      rw [spliced, text, text, texts_eq, texts_eq]
      apply intercalate_splicedMembers
      · exact fun type hmem => members_spliced_ne_nil (hall type hmem)
      · exact fun type hmem => ih type hmem (hall type hmem)
  | tuple members ih =>
      have hsame : (splicedAll members).map text = members.map text := by
        rw [splicedAll_eq, List.map_map]
        exact List.map_congr_left fun type hmem => ih type hmem (choosesAll_iff.mp hchooses type hmem)
      rw [spliced, text, text, texts_eq, texts_eq, hsame]
  | stream row completion ihRow ihCompletion =>
      rw [spliced, text, text, ihRow hchooses.1, ihCompletion hchooses.2]
  | typedesc inner ih => rw [spliced, text, text, ih hchooses]
  | openRecord => rfl

end PersistLayer.Syntax.TypeDesc
