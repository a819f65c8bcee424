import Mathlib.Data.List.Induction
import Mathlib.Data.List.Nodup

/-!
# Lists with one entry for each key

Entries are put into a list one after the other.  An entry takes the place of the one that
has its key, or else comes behind all others.  So the keys are different and stand in the
order in which they came first, and under each key is the entry that came last.

One entry keeps these facts (`Holds.put`), so that every list that is filled from the empty
one has them (`holds_foldl`).
-/

namespace PersistLayer.Keyed

variable {α β κ : Type} [DecidableEq κ]

/-- Puts an entry in the place of the one that has its key, or else at the end. -/
def put (key : α → κ) (entry : α) : List α → List α
  | [] => [entry]
  | known :: rest =>
    if key known = key entry then entry :: rest else known :: put key entry rest

/-! ## One entry -/

section Put

variable {key : α → κ} {entries : List α} {entry : α}

theorem put_of_not_mem (hnew : key entry ∉ entries.map key) :
    put key entry entries = entries ++ [entry] := by
  induction entries with
  | nil => rfl
  | cons known rest ih =>
      rw [List.map_cons, List.mem_cons, not_or] at hnew
      rw [put, if_neg (Ne.symm hnew.1), ih hnew.2, List.cons_append]

/-- An entry takes the place of the one that has its key, and all others stay. -/
theorem put_of_mem (hdistinct : (entries.map key).Nodup) (hknown : key entry ∈ entries.map key) :
    put key entry entries =
      entries.map fun known => if key known = key entry then entry else known := by
  induction entries with
  | nil => cases hknown
  | cons known rest ih =>
      rw [List.map_cons, List.nodup_cons] at hdistinct
      by_cases hsame : key known = key entry
      · -- no other entry has the key, so the rest is as it was
        have hrest : ∀ other ∈ rest, (if key other = key entry then entry else other) = other := by
          intro other hother
          apply if_neg
          intro hkey
          exact hdistinct.1 (hsame ▸ hkey ▸ List.mem_map_of_mem hother)
        calc put key entry (known :: rest) = entry :: rest := by rw [put, if_pos hsame]
          _ = (known :: rest).map fun other => if key other = key entry then entry else other := by
              rw [List.map_cons, if_pos hsame, List.map_congr_left hrest, List.map_id']
      · have hlater : key entry ∈ rest.map key := by
          rw [List.map_cons, List.mem_cons] at hknown
          exact hknown.resolve_left (Ne.symm hsame)
        rw [put, if_neg hsame, List.map_cons, if_neg hsame, ih hdistinct.2 hlater]

/-- Only a new key comes to the keys, and it comes behind them. -/
theorem map_put : (put key entry entries).map key =
    if key entry ∈ entries.map key then entries.map key else entries.map key ++ [key entry] := by
  induction entries with
  | nil => rfl
  | cons known rest ih =>
      by_cases hsame : key known = key entry
      · have hmem : key entry ∈ (known :: rest).map key := by simp [hsame]
        rw [if_pos hmem, put, if_pos hsame, List.map_cons, List.map_cons, hsame]
      · have hmem : key entry ∈ (known :: rest).map key ↔ key entry ∈ rest.map key := by
          rw [List.map_cons, List.mem_cons]
          exact or_iff_right (Ne.symm hsame)
        rw [put, if_neg hsame, List.map_cons, ih]
        by_cases hlater : key entry ∈ rest.map key
        · rw [if_pos hlater, if_pos (hmem.mpr hlater), List.map_cons]
        · rw [if_neg hlater, if_neg (mt hmem.mp hlater), List.map_cons, List.cons_append]

theorem map_subset_map_put : entries.map key ⊆ (put key entry entries).map key := by
  rw [map_put]
  split_ifs
  · exact List.Subset.refl _
  · exact List.subset_append_left _ _

/-- An entry is seen under its own key only. -/
theorem find_put (asked : κ) :
    (put key entry entries).find? (fun other => key other == asked) =
      if key entry = asked then some entry else entries.find? fun other => key other == asked := by
  induction entries with
  | nil => by_cases hkey : key entry = asked <;> simp [put, hkey]
  | cons known rest ih =>
      by_cases hsame : key known = key entry
      · rw [put, if_pos hsame, List.find?_cons, List.find?_cons, hsame]
        by_cases hkey : key entry = asked
        · rw [if_pos hkey, beq_iff_eq.mpr hkey]
        · rw [if_neg hkey, beq_eq_false_iff_ne.mpr hkey]
      · rw [put, if_neg hsame, List.find?_cons, List.find?_cons, ih]
        by_cases hkey : key known = asked
        · have hother : key entry ≠ asked := fun h => hsame (hkey.trans h.symm)
          simp only [beq_iff_eq.mpr hkey, if_neg hother]
        · rw [beq_eq_false_iff_ne.mpr hkey]

end Put

/-! ## Pairs of keys and values -/

section Pairs

variable {pairs : List (κ × β)}

theorem lookup_eq_find (pairs : List (κ × β)) (asked : κ) :
    pairs.lookup asked = (pairs.find? fun pair => pair.1 == asked).map Prod.snd := by
  induction pairs with
  | nil => rfl
  | cons pair rest ih =>
      obtain ⟨key, value⟩ := pair
      by_cases hkey : key = asked
      · simp [hkey]
      · rw [List.lookup_cons, beq_false_of_ne (Ne.symm hkey), List.find?_cons_of_neg (by simpa),
          ← ih]

/-- A value is seen under its own key only. -/
theorem lookup_put (key : κ) (value : β) (asked : κ) :
    (put Prod.fst (key, value) pairs).lookup asked =
      if key = asked then some value else pairs.lookup asked := by
  rw [lookup_eq_find, find_put, lookup_eq_find]
  split_ifs <;> rfl

/-- Pairs with different keys are their keys with the values found under them. -/
theorem eq_filterMap_lookup (hdistinct : (pairs.map Prod.fst).Nodup) :
    pairs = (pairs.map Prod.fst).filterMap fun key =>
      (pairs.lookup key).map fun value => (key, value) := by
  have hfound : ∀ pair ∈ pairs,
      (pairs.lookup pair.1).map (fun value => (pair.1, value)) = some pair := by
    intro pair hpair
    obtain ⟨front, back, rfl⟩ := List.append_of_mem hpair
    have hlookup : (front ++ pair :: back).lookup pair.1 = some pair.2 := by
      rw [List.lookup_eq_some_iff]
      refine ⟨front, back, rfl, ?_⟩
      intro other hother
      rw [List.map_append, List.map_cons, List.nodup_append] at hdistinct
      have hne := hdistinct.2.2 other.1 (List.mem_map_of_mem hother) pair.1 List.mem_cons_self
      simpa using Ne.symm hne
    rw [hlookup]
    rfl
  rw [List.filterMap_map]
  exact ((List.filterMap_congr hfound).trans List.filterMap_some).symm

end Pairs

/-! ## All entries -/

/-- A further key leaves the keys of a list without repetitions alone if it is among them,
and comes behind them if it is not. -/
theorem eraseDups_append_singleton (keys : List κ) (key : κ) :
    (keys ++ [key]).eraseDups =
      if key ∈ keys.eraseDups then keys.eraseDups else keys.eraseDups ++ [key] := by
  rw [List.eraseDups_append]
  by_cases hknown : key ∈ keys
  · have hgone : [key].removeAll keys = [] := by simp [List.removeAll, hknown]
    rw [if_pos (List.mem_eraseDups.mpr hknown), hgone, List.eraseDups_nil, List.append_nil]
  · have hstays : [key].removeAll keys = [key] := by simp [List.removeAll, hknown]
    rw [if_neg (mt List.mem_eraseDups.mp hknown), hstays, List.eraseDups_cons]
    rfl

/-- The list holds what was put into it: each key in the place of its first entry, with its
last entry. -/
structure Holds (key : α → κ) (entries given : List α) : Prop where
  distinct : (entries.map key).Nodup
  order : entries.map key = (given.map key).eraseDups
  lookup : ∀ asked, entries.find? (fun entry => key entry == asked) =
    given.reverse.find? fun entry => key entry == asked

theorem holds_nil (key : α → κ) : Holds key [] [] where
  distinct := List.nodup_nil
  order := rfl
  lookup _ := rfl

namespace Holds

variable {key : α → κ} {entries given : List α}

/-- One entry keeps a list true to what was put into it. -/
theorem put (hholds : Holds key entries given) (entry : α) :
    Holds key (put key entry entries) (given ++ [entry]) := by
  refine ⟨?distinct, ?order, ?lookup⟩
  case distinct =>
    rw [map_put]
    split_ifs with hknown
    · exact hholds.distinct
    · rw [← List.concat_eq_append]
      exact hholds.distinct.concat hknown
  case order =>
    rw [List.map_append, List.map_singleton, eraseDups_append_singleton, ← hholds.order]
    exact map_put
  case lookup =>
    intro asked
    -- the entry that was put in last is found first from behind
    rw [find_put, hholds.lookup, List.reverse_append, List.reverse_singleton,
      List.singleton_append, List.find?_cons]
    by_cases hkey : key entry = asked
    · rw [if_pos hkey, beq_iff_eq.mpr hkey]
    · rw [if_neg hkey, beq_eq_false_iff_ne.mpr hkey]

/-- Nothing is held if and only if nothing was put. -/
theorem eq_nil_iff (hholds : Holds key entries given) : entries = [] ↔ given = [] := by
  have hkeys := hholds.order
  constructor
  · rintro rfl
    apply List.eq_nil_iff_forall_not_mem.mpr
    intro entry hentry
    have hkey := List.mem_eraseDups.mpr (List.mem_map_of_mem (f := key) hentry)
    rw [← hkeys] at hkey
    exact List.not_mem_nil hkey
  · rintro rfl
    exact List.map_eq_nil_iff.mp hkeys

end Holds

/-- A list that is filled from the empty one holds what was put into it. -/
theorem holds_foldl (key : α → κ) (given : List α) :
    Holds key (given.foldl (fun entries entry => put key entry entries) []) given := by
  -- the last entry is put last, so the induction takes it off
  induction given using List.reverseRecOn with
  | nil => exact holds_nil key
  | append_singleton front last ih =>
      rw [List.foldl_append]
      exact ih.put last

/-- Entries with different keys stay as they are. -/
theorem foldl_put_of_nodup {key : α → κ} {given : List α} (hdistinct : (given.map key).Nodup) :
    given.foldl (fun entries entry => put key entry entries) [] = given := by
  induction given using List.reverseRecOn with
  | nil => rfl
  | append_singleton front last ih =>
      rw [List.map_append, List.map_singleton, List.nodup_append] at hdistinct
      obtain ⟨hfront, -, hother⟩ := hdistinct
      have hnew : key last ∉ front.map key := fun hmem =>
        hother _ hmem _ List.mem_cons_self rfl
      calc (front ++ [last]).foldl (fun entries entry => put key entry entries) []
          = put key last (front.foldl (fun entries entry => put key entry entries) []) :=
            List.foldl_append
        _ = put key last front := by rw [ih hfront]
        _ = front ++ [last] := put_of_not_mem hnew

end PersistLayer.Keyed
