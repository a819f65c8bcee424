import PersistLayer.Fragment
import Mathlib.Data.List.Basic

/-!
# Texts of lines

A text of lines is its lines with line feeds between them.  How it begins and ends is how its
first line begins and its last line ends, and lines that are put together in groups make the
text of the groups (`textOfLines_flatten`).  Where a text is split, the separator is in none of
its parts.
-/

namespace PersistLayer

/-- No part of a text that is split holds the character at which it is split. -/
theorem not_mem_of_mem_splitOn {text part : List Char} {c : Char} (hpart : part ∈ text.splitOn c) :
    c ∉ part := by
  induction text generalizing part with
  | nil =>
      obtain rfl : part = [] := by simpa using hpart
      exact List.not_mem_nil
  | cons d rest ih =>
      obtain ⟨first, others, hsplit⟩ := List.exists_cons_of_ne_nil (List.splitOn_ne_nil c rest)
      rw [hsplit] at ih
      rw [List.splitOn_cons_eq_if_modifyHead, hsplit] at hpart
      split_ifs at hpart with hd
      · rcases List.mem_cons.mp hpart with rfl | hlater
        · exact List.not_mem_nil
        · exact ih hlater
      · rcases List.mem_cons.mp hpart with rfl | hlater
        · rw [List.mem_cons, not_or]
          exact ⟨fun hsame => hd (by simp [hsame]), ih List.mem_cons_self⟩
        · exact ih (List.mem_cons_of_mem _ hlater)

/-- What holds of the empty text and of every part holds of the parts with separators between
them, if it stays true with a part and a separator put in front. -/
theorem intercalate_induction {motive : String → Prop} {separator : String} {texts : List String}
    (hempty : motive "") (hpart : ∀ text ∈ texts, motive text)
    (hfront : ∀ text ∈ texts, ∀ back, motive back → motive (text ++ separator ++ back)) :
    motive (separator.intercalate texts) := by
  induction texts with
  | nil => exact hempty
  | cons text rest ih =>
      obtain ⟨htext, hrest⟩ := List.forall_mem_cons.mp hpart
      cases rest with
      | nil => simpa using htext
      | cons next others =>
          rw [String.intercalate_cons_cons]
          exact hfront text List.mem_cons_self _
            (ih hrest fun other h => hfront other (List.mem_cons_of_mem _ h))

variable {lines : List String}

theorem getLast?_append_eq {front back : String} {c : Char}
    (hback : back.toList.getLast? = some c) : (front ++ back).toList.getLast? = some c := by
  rw [String.toList_append, List.getLast?_append, hback]
  rfl

theorem textOfLines_singleton (line : String) : textOfLines [line] = line := by
  simp [textOfLines]

theorem textOfLines_cons {line : String} {rest : List String} (hrest : rest ≠ []) :
    textOfLines (line :: rest) = line ++ "\n" ++ textOfLines rest :=
  String.intercalate_cons_of_ne_nil hrest

/-- The characters of a text of lines. -/
theorem toList_textOfLines (lines : List String) :
    (textOfLines lines).toList = ['\n'].intercalate (lines.map String.toList) :=
  String.toList_intercalate

theorem textOfLines_append {back : List String} (hlines : lines ≠ []) (hback : back ≠ []) :
    textOfLines (lines ++ back) = textOfLines lines ++ "\n" ++ textOfLines back :=
  String.intercalate_append_of_ne_nil hlines hback

theorem textOfLines_concat (lines : List String) (last : String) :
    textOfLines (lines ++ [last]) = String.join (lines.map (· ++ "\n")) ++ last := by
  induction lines with
  | nil => simp [textOfLines]
  | cons line rest ih =>
      rw [List.cons_append, textOfLines_cons (by simp), ih, List.map_cons, String.join_cons]
      simp only [String.append_assoc]

/-- Lines in groups, none of which is empty, are the lines of the texts of the groups. -/
theorem textOfLines_flatten {groups : List (List String)} (hgroups : ∀ group ∈ groups, group ≠ []) :
    textOfLines groups.flatten = textOfLines (groups.map textOfLines) := by
  induction groups with
  | nil => rfl
  | cons group rest ih =>
      obtain ⟨hgroup, hrest⟩ := List.forall_mem_cons.mp hgroups
      by_cases hnil : rest = []
      · subst hnil
        rw [List.flatten_singleton, List.map_singleton, textOfLines_singleton]
      · have hmap : rest.map textOfLines ≠ [] := by simpa using hnil
        have hflatten : rest.flatten ≠ [] := by
          obtain ⟨next, others, rfl⟩ := List.exists_cons_of_ne_nil hnil
          simp [hrest next List.mem_cons_self]
        calc textOfLines (group :: rest).flatten
            = textOfLines group ++ "\n" ++ textOfLines rest.flatten := by
              rw [List.flatten_cons, textOfLines_append hgroup hflatten]
          _ = textOfLines group ++ "\n" ++ textOfLines (rest.map textOfLines) := by rw [ih hrest]
          _ = textOfLines ((group :: rest).map textOfLines) := by
              rw [List.map_cons, textOfLines_cons hmap]

theorem not_mem_intercalate {separator : String} {texts : List String} {c : Char}
    (hseparator : c ∉ separator.toList) (htexts : ∀ text ∈ texts, c ∉ text.toList) :
    c ∉ (separator.intercalate texts).toList := by
  refine intercalate_induction (motive := fun text => c ∉ text.toList) (by simp) htexts ?_
  intro text hmem back hback
  rw [String.toList_append, String.toList_append]
  simp only [List.mem_append, not_or]
  exact ⟨⟨htexts text hmem, hseparator⟩, hback⟩

theorem head?_textOfLines {line : String} {rest : List String} {c : Char}
    (hc : line.toList.head? = some c) : (textOfLines (line :: rest)).toList.head? = some c := by
  by_cases hnil : rest = []
  · subst hnil
    simpa [textOfLines] using hc
  · rw [textOfLines_cons hnil, String.toList_append, String.toList_append, List.head?_append,
      List.head?_append, hc]
    rfl

theorem getLast?_textOfLines {last : String} {c : Char} (hlast : lines.getLast? = some last)
    (hc : last.toList.getLast? = some c) : (textOfLines lines).toList.getLast? = some c := by
  induction lines with
  | nil => cases hlast
  | cons line rest ih =>
      by_cases hnil : rest = []
      · subst hnil
        obtain rfl : line = last := by simpa using hlast
        simpa [textOfLines] using hc
      · rw [textOfLines_cons hnil]
        rw [List.getLast?_cons_of_ne_nil hnil] at hlast
        exact getLast?_append_eq (ih hlast)

end PersistLayer
