import PersistLayer.Proofs.Keyed
import PersistLayer.Toml.Table

/-!
# Documents

In a document a table may hold scalars and further tables, in any order.  The tables that are
written are of one kind: they stand inside each other, each the only entry of the one around
it, and the innermost holds scalars (`chain_document`).  A document of this kind can be read
in one way only, because no scalar is a table (`Chain.unique`).
-/

namespace PersistLayer.Toml

/-- What stands under a key of a document. -/
inductive Value where
  | scalar (scalar : Scalar)
  | table (entries : List (String × Value))

/-- The entries of a document whose values are all scalars. -/
def ofScalars (entries : Entries Scalar) : Entries Value :=
  entries.map fun (key, scalar) => (key, .scalar scalar)

/-- The document that a table stands for: it is filled from the innermost table outwards, each
table being put into one without entries. -/
def Table.document : Table → Entries Value
  | scalars entries => ofScalars entries
  | nested key inner => put key (.table inner.document) []

/-- The document is a chain of tables around some scalars.  Each table of the chain has one
entry, and its key is the next one of the path. -/
inductive Chain (scalars : Entries Scalar) : List String → Entries Value → Prop
  | innermost : Chain scalars [] (ofScalars scalars)
  | around {path : List String} {document : Entries Value} (key : String)
      (hinner : Chain scalars path document) : Chain scalars (key :: path) [(key, .table document)]

theorem put_eq {α : Type} (key : String) (value : α) (entries : Entries α) :
    put key value entries = Keyed.put Prod.fst (key, value) entries := by
  induction entries with
  | nil => rfl
  | cons entry rest ih =>
      obtain ⟨known, old⟩ := entry
      rw [put, Keyed.put, ih]
      split_ifs with hsame
      · rw [hsame]
      · rfl

theorem ofScalars_injective : Function.Injective ofScalars := by
  apply List.map_injective_iff.mpr
  rintro ⟨key, scalar⟩ ⟨other, another⟩ hsame
  simpa using hsame

/-- The only entry of a table is no table, if all entries are scalars. -/
theorem ofScalars_ne_table (entries : Entries Scalar) (key : String) (document : Entries Value) :
    ofScalars entries ≠ [(key, .table document)] := by
  intro hsame
  obtain ⟨⟨other, scalar⟩, -, hentry⟩ := List.map_eq_singleton_iff.mp hsame
  simp at hentry

/-- The table under a path is a chain along the path. -/
theorem chain_document (path : List String) (entries : Entries Scalar) :
    Chain entries path (Table.ofPath path entries).document := by
  induction path with
  | nil => exact .innermost
  | cons key rest ih => exact .around key ih

/-- **A chain has one path and one innermost table.** -/
theorem Chain.unique {scalars others : Entries Scalar} {path way : List String}
    {document : Entries Value} (hchain : Chain scalars path document)
    (hother : Chain others way document) : path = way ∧ scalars = others := by
  induction hchain generalizing way with
  | innermost =>
      generalize hdocument : ofScalars scalars = document at hother
      cases hother with
      | innermost => exact ⟨rfl, ofScalars_injective hdocument⟩
      | around key hinner => exact absurd hdocument (ofScalars_ne_table _ _ _)
  | around key hinner ih =>
      rename_i inner
      generalize hdocument : [(key, Value.table inner)] = document at hother
      cases hother with
      | innermost => exact absurd hdocument.symm (ofScalars_ne_table _ _ _)
      | around key hinner =>
          simp only [List.cons.injEq, Prod.mk.injEq, Value.table.injEq, and_true] at hdocument
          obtain ⟨rfl, rfl⟩ := hdocument
          obtain ⟨rfl, rfl⟩ := ih hinner
          exact ⟨rfl, rfl⟩

end PersistLayer.Toml
