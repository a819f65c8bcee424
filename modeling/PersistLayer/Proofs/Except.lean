import Mathlib.Data.List.Forall2
import PersistLayer.Fragment

/-!
# Steps that may fail

A chain of steps succeeds when every step does, and a list is taken through a step
that may fail when each of its elements is.  Text that a reader takes is a fragment.
-/

namespace PersistLayer

variable {α β ε : Type}

/-- A chain of two steps succeeds when both do. -/
theorem bind_eq_ok_iff {x : Except ε α} {f : α → Except ε β} {b : β} :
    (x >>= f) = .ok b ↔ ∃ a, x = .ok a ∧ f a = .ok b := by
  cases x with
  | error e => simp [bind, Except.bind]
  | ok a => simp [bind, Except.bind]

/-- A chain of two steps fails as its first step does, or else as its second. -/
theorem bind_eq_error_iff {x : Except ε α} {f : α → Except ε β} {e : ε} :
    (x >>= f) = .error e ↔ x = .error e ∨ ∃ a, x = .ok a ∧ f a = .error e := by
  cases x with
  | error cause => simp [bind, Except.bind]
  | ok a => simp [bind, Except.bind]

@[simp] theorem pure_eq_ok_iff {a b : α} : (pure a : Except ε α) = .ok b ↔ a = b := by
  simp [pure, Except.pure]

theorem exists_of_isOk {x : Except ε α} (hok : x.isOk = true) : ∃ a, x = .ok a := by
  cases x with
  | error e => cases hok
  | ok a => exact ⟨a, rfl⟩

/-- A list is taken through a step exactly when each element is. -/
theorem mapM_eq_ok_iff {f : α → Except ε β} {list : List α} {results : List β} :
    list.mapM f = .ok results ↔ List.Forall₂ (fun a b => f a = .ok b) list results := by
  induction list generalizing results with
  | nil => rw [List.mapM_nil, pure_eq_ok_iff, List.forall₂_nil_left_iff, eq_comm]
  | cons a rest ih =>
      simp only [List.mapM_cons, bind_eq_ok_iff, ih, pure_eq_ok_iff]
      constructor
      · rintro ⟨b, hb, tail, htail, rfl⟩
        exact .cons hb htail
      · rintro (_ | ⟨hb, htail⟩)
        exact ⟨_, hb, _, htail, rfl⟩

/-- The error of a list is that of its first element that fails. -/
theorem mapM_eq_error_iff {f : α → Except ε β} {list : List α} {e : ε} :
    list.mapM f = .error e ↔ ∃ before a after, list = before ++ a :: after ∧
      (∀ other ∈ before, ∃ b, f other = .ok b) ∧ f a = .error e := by
  induction list with
  | nil => simp [pure, Except.pure]
  | cons a rest ih =>
      rw [List.mapM_cons, bind_eq_error_iff]
      constructor
      · rintro (hfirst | ⟨b, hb, hrest⟩)
        · exact ⟨[], a, rest, rfl, by simp, hfirst⟩
        · -- the first element does not fail, so the rest does
          have htail : rest.mapM f = .error e := by
            rw [bind_eq_error_iff] at hrest
            exact hrest.resolve_right (by simp [pure, Except.pure])
          obtain ⟨before, failing, after, rfl, hbefore, hfails⟩ := ih.mp htail
          exact ⟨a :: before, failing, after, rfl,
            List.forall_mem_cons.mpr ⟨⟨b, hb⟩, hbefore⟩, hfails⟩
      · rintro ⟨before, failing, after, hsplit, hbefore, hfails⟩
        cases before with
        | nil =>
            obtain ⟨rfl, rfl⟩ := List.cons.inj hsplit
            exact .inl hfails
        | cons first others =>
            obtain ⟨rfl, rfl⟩ := List.cons.inj hsplit
            obtain ⟨⟨b, hb⟩, hothers⟩ := List.forall_mem_cons.mp hbefore
            refine .inr ⟨b, hb, bind_eq_error_iff.mpr (.inl ?_)⟩
            exact ih.mpr ⟨others, failing, after, rfl, hothers, hfails⟩

/-- Every result comes from an element, and every element gives a result. -/
theorem mem_of_mapM_eq_ok {f : α → Except ε β} {list : List α} {results : List β}
    (hresults : list.mapM f = .ok results) :
    (∀ b ∈ results, ∃ a ∈ list, f a = .ok b) ∧ ∀ a ∈ list, ∃ b ∈ results, f a = .ok b := by
  rw [mapM_eq_ok_iff] at hresults
  induction hresults with
  | nil => simp
  | @cons a b rest tail hb _ ih =>
      obtain ⟨hback, hforth⟩ := ih
      refine ⟨?_, ?_⟩
      · rintro other (_ | ⟨_, hother⟩)
        · exact ⟨a, List.mem_cons_self, hb⟩
        · obtain ⟨source, hsource, hok⟩ := hback other hother
          exact ⟨source, List.mem_cons_of_mem _ hsource, hok⟩
      · rintro other (_ | ⟨_, hother⟩)
        · exact ⟨b, List.mem_cons_self, hb⟩
        · obtain ⟨result, hresult, hok⟩ := hforth other hother
          exact ⟨result, List.mem_cons_of_mem _ hresult, hok⟩

/-- A list can be taken through a step when each element can, and the results are as the
step makes them. -/
theorem exists_mapM_of_forall {f : α → Except ε β} {P : β → Prop} {list : List α}
    (hall : ∀ a ∈ list, ∃ b, f a = .ok b ∧ P b) :
    ∃ results, list.mapM f = .ok results ∧ ∀ b ∈ results, P b := by
  induction list with
  | nil => exact ⟨[], rfl, by simp⟩
  | cons a rest ih =>
      obtain ⟨b, hb, hP⟩ := hall a List.mem_cons_self
      obtain ⟨tail, htail, hrest⟩ := ih fun other h => hall other (List.mem_cons_of_mem _ h)
      refine ⟨b :: tail, ?_, List.forall_mem_cons.mpr ⟨hP, hrest⟩⟩
      rw [mapM_eq_ok_iff] at htail ⊢
      exact .cons hb htail

theorem exists_mapM_eq_ok {f : α → Except ε β} {list : List α}
    (hall : ∀ a ∈ list, ∃ b, f a = .ok b) : ∃ results, list.mapM f = .ok results := by
  have htrue : ∀ a ∈ list, ∃ b, f a = .ok b ∧ True := by simpa using hall
  obtain ⟨results, hresults, -⟩ := exists_mapM_of_forall htrue
  exact ⟨results, hresults⟩

/-- A fragment is read when its text is. -/
theorem readFragment_eq_ok_iff {name text : String}
    {read : String → Except Syntax.SyntaxError α} {a : α} :
    readFragment name read text = .ok a ↔ read text = .ok a := by
  unfold readFragment
  cases read text <;> simp [Except.mapError]

end PersistLayer
