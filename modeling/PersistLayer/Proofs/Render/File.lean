import Mathlib.Data.List.Infix
import PersistLayer.Proofs.Render.Snippets
import PersistLayer.Proofs.Render.Words

/-!
# Source files are read part by part

A source file whose names are names, whose default values are complete and whose
snippets were read from some text has no fault, and its words are those of its
imports and members, each written alone.
-/

namespace PersistLayer.Syntax

/-! ## Hand-written trees -/

/-- A name: some identifier characters. -/
def IsName (name : String) : Prop :=
  name ≠ "" ∧ ∀ c ∈ name.toList, isIdentifierChar c = true

instance (name : String) : Decidable (IsName name) :=
  decidable_of_iff (name ≠ "" ∧ name.toList.all isIdentifierChar = true) (by simp [IsName])

/-- The name of a module: identifier characters and dots. -/
def IsModuleName (name : String) : Prop :=
  name ≠ "" ∧ ∀ c ∈ name.toList, (isIdentifierChar c || c == '.') = true

/-- Somewhere in the text a comment begins. -/
def HasComment (text : String) : Prop :=
  ∃ front, front <+: text.toList ∧ (Scanner.initial.run front).mode = .comment

/-- A text that can be scanned, without comments. -/
def IsValue (text : String) : Prop := (∃ scanned, tokenize text = .ok scanned) ∧ ¬ HasComment text

/-- What the names, values and snippets of a tree are when it is built by hand. -/
def sourceVocabulary : Vocabulary where
  name := IsName
  moduleName := IsModuleName
  value := IsValue
  snippet := Snippet.IsRead

theorem IsName.isInert {name : String} (hname : IsName name) : IsInertName name :=
  ⟨hname.1, fun c hc => isInert_of_isIdentifierChar (hname.2 c hc)⟩

theorem IsModuleName.isInert {name : String} (hname : IsModuleName name) : IsInertName name := by
  refine ⟨hname.1, ?_⟩
  intro c hc
  rcases Bool.or_eq_true_iff.mp (hname.2 c hc) with hchar | hdot
  · exact isInert_of_isIdentifierChar hchar
  · rw [beq_iff_eq.mp hdot]
    decide

/-- A value leaves nothing open behind it. -/
theorem IsValue.whole {value : String} (hvalue : IsValue value) : Whole value := by
  obtain ⟨⟨scanned, hscanned⟩, hcomment⟩ := hvalue
  obtain ⟨hflawless, -⟩ := tokenize_eq_ok_iff.mp hscanned
  rw [scan_eq_reports, Scanner.reports_eq_emits, flawless_append] at hflawless
  obtain ⟨hemits, hfinish⟩ := hflawless
  have hlive : Scanner.initial.Live := trivial
  obtain ⟨hlast, -⟩ := Scanner.outline_run hlive hemits
  obtain ⟨hframes, hcode⟩ :=
    Scanner.of_isClosed hlast ((Scanner.flawless_finish_iff hlast).mp hfinish)
  have hmode : (Scanner.initial.run value.toList).mode ≠ .comment := fun h =>
    hcomment ⟨_, List.prefix_rfl, h⟩
  have hwhole := @whole_of_run ⟨0, 0⟩ value.toList hemits hframes hcode hmode
  rwa [String.ofList_toList] at hwhole

theorem sourceVocabulary_harmless : sourceVocabulary.Harmless where
  name := fun _ hname => hname.isInert
  moduleName := fun _ hname => hname.isInert
  value := fun _ hvalue => hvalue.whole
  snippet := fun _ hread => hread.neutral
  inline := fun _ hread => hread.whole_inline

/-! ## Members and files -/

/-- The members behind a given one, as they are written, hold the words of each. -/
theorem wordsOf_renderBehind {members : List ModuleMember}
    (hmembers : ∀ member ∈ members, IsPart member.render) (previous : ModuleMember) :
    IsPart (renderBehind previous members) ∧
      wordsOf (renderBehind previous members) =
        members.flatMap fun member => wordsOf member.render := by
  induction members generalizing previous with
  | nil => exact ⟨isPart_empty, rfl⟩
  | cons member rest ih =>
      have hmember := hmembers member List.mem_cons_self
      obtain ⟨hrest, hwords⟩ := ih (fun other h => hmembers other (List.mem_cons_of_mem _ h)) member
      have hgap : IsPart (if previous.joins member then "" else "\n") ∧
          wordsOf (if previous.joins member then "" else "\n") = [] := by
        split_ifs
        · exact ⟨isPart_empty, rfl⟩
        · exact ⟨isPart_feed, rfl⟩
      obtain ⟨hgap, hnone⟩ := hgap
      refine ⟨(hgap.append hmember).append hrest, ?_⟩
      calc wordsOf (renderBehind previous (member :: rest))
          = wordsOf (if previous.joins member then "" else "\n") ++ wordsOf member.render ++
              wordsOf (renderBehind member rest) := by
            rw [renderBehind, wordsOf_append (hgap.append hmember) hrest,
              wordsOf_append hgap hmember]
        _ = wordsOf member.render ++ rest.flatMap fun member => wordsOf member.render := by
            rw [hnone, hwords]
            rfl

theorem wordsOf_renderMembers {members : List ModuleMember}
    (hmembers : ∀ member ∈ members, IsPart member.render) :
    IsPart (renderMembers members) ∧
      wordsOf (renderMembers members) = members.flatMap fun member => wordsOf member.render := by
  cases members with
  | nil => exact ⟨isPart_empty, rfl⟩
  | cons member rest =>
      have hmember := hmembers member List.mem_cons_self
      obtain ⟨hrest, hwords⟩ :=
        wordsOf_renderBehind (fun other h => hmembers other (List.mem_cons_of_mem _ h)) member
      refine ⟨hmember.append hrest, ?_⟩
      rw [renderMembers, wordsOf_append hmember hrest, hwords]
      rfl

/-- The texts of the imports and members of a file, each written alone. -/
def SourceFile.parts (file : SourceFile) : List String :=
  file.imports.map Import.render ++ file.members.map ModuleMember.render

section File

variable {vocabulary : Vocabulary} (harmless : vocabulary.Harmless) {file : SourceFile}
  (hmeets : file.Meets vocabulary)

include harmless hmeets

theorem SourceFile.isPart_of_mem_parts : ∀ part ∈ file.parts, IsPart part := by
  intro part hpart
  rcases List.mem_append.mp hpart with hpart | hpart
  · obtain ⟨entry, hentry, rfl⟩ := List.mem_map.mp hpart
    exact Import.isPart harmless (hmeets.imports entry hentry)
  · obtain ⟨member, hmember, rfl⟩ := List.mem_map.mp hpart
    exact ModuleMember.isPart harmless (hmeets.members member hmember)

/-- A file as it is written is one part, with the words of all its parts. -/
theorem SourceFile.wordsOf_render :
    IsPart file.render ∧ wordsOf file.render = file.parts.flatMap wordsOf := by
  obtain ⟨hmembers, hmemberWords⟩ := wordsOf_renderMembers fun member hmember =>
    ModuleMember.isPart harmless (hmeets.members member hmember)
  have hgap : IsPart (if file.imports.isEmpty || file.members.isEmpty then "" else "\n") ∧
      wordsOf (if file.imports.isEmpty || file.members.isEmpty then "" else "\n") = [] := by
    split_ifs
    · exact ⟨isPart_empty, rfl⟩
    · exact ⟨isPart_feed, rfl⟩
  obtain ⟨hgap, hnone⟩ := hgap
  -- only a file without imports has a comment of its own
  have hhead : IsPart (if file.imports.isEmpty then file.comment.elim "" Comment.render
        else String.join (file.imports.map Import.render)) ∧
      wordsOf (if file.imports.isEmpty then file.comment.elim "" Comment.render
        else String.join (file.imports.map Import.render)) =
        (file.imports.map Import.render).flatMap wordsOf := by
    split_ifs with hempty
    · rw [List.isEmpty_iff] at hempty
      rw [hempty]
      cases hcomment : file.comment with
      | none => exact ⟨isPart_empty, rfl⟩
      | some comment =>
          have hplain := hmeets.comment comment hcomment
          exact ⟨Comment.isPart hplain, wordsOf_comment hplain⟩
    · have himports : ∀ part ∈ file.imports.map Import.render, IsPart part := fun part hpart =>
        SourceFile.isPart_of_mem_parts harmless hmeets part (List.mem_append_left _ hpart)
      exact ⟨isPart_join himports, wordsOf_join himports⟩
  obtain ⟨hhead, hheadWords⟩ := hhead
  refine ⟨(hhead.append hgap).append hmembers, ?_⟩
  calc wordsOf file.render
      = (file.imports.map Import.render).flatMap wordsOf ++ [] ++
          (file.members.flatMap fun member => wordsOf member.render) := by
        rw [SourceFile.render, wordsOf_append (hhead.append hgap) hmembers,
          wordsOf_append hhead hgap, hnone, hheadWords, hmemberWords]
    _ = file.parts.flatMap wordsOf := by
        rw [SourceFile.parts, List.flatMap_append, List.append_nil,
          List.flatMap_map (f := ModuleMember.render)]

end File

/-- Parts can be scanned one by one. -/
theorem exists_scanned_of_parts {parts : List String} (hparts : ∀ part ∈ parts, IsPart part) :
    ∃ scanned, parts.mapM tokenize = .ok scanned ∧
      (scanned.flatMap Scanned.tokens).map Token.word = parts.flatMap wordsOf := by
  induction parts with
  | nil => exact ⟨[], rfl, rfl⟩
  | cons part rest ih =>
      obtain ⟨first, hfirst, hwords⟩ := (hparts part List.mem_cons_self).tokenize_eq
      obtain ⟨others, hothers, hrest⟩ := ih fun other h => hparts other (List.mem_cons_of_mem _ h)
      refine ⟨first :: others, ?_, ?_⟩
      · rw [mapM_eq_ok_iff] at hothers ⊢
        exact .cons hfirst hothers
      · rw [List.flatMap_cons, List.map_append, hwords, hrest, List.flatMap_cons]

/-- **A source file is read part by part.**  It has no fault, and its words are those
of its imports and members, each written alone, in order. -/
theorem SourceFile.render_reads_part_by_part {file : SourceFile}
    (hmeets : file.Meets sourceVocabulary) :
    faults file.render = [] ∧
      ∃ scanned parts, tokenize file.render = .ok scanned ∧
        file.parts.mapM tokenize = .ok parts ∧
        scanned.tokens.map Token.word = (parts.flatMap Scanned.tokens).map Token.word := by
  obtain ⟨hpart, hwords⟩ := SourceFile.wordsOf_render sourceVocabulary_harmless hmeets
  obtain ⟨scanned, hscanned, htokens⟩ := hpart.tokenize_eq
  obtain ⟨parts, hparts, hall⟩ := exists_scanned_of_parts
    (SourceFile.isPart_of_mem_parts sourceVocabulary_harmless hmeets)
  refine ⟨?_, scanned, parts, hscanned, hparts, ?_⟩
  · rw [faults, errorsIn_eq_nil_iff]
    exact (tokenize_eq_ok_iff.mp hscanned).1
  · rw [htokens, hall, hwords]

/-- A file with an import, a constant that looks like code, and a class. -/
def storeFile : SourceFile where
  imports := [⟨"ballerina", "sql.pool", some "pool", some ⟨["Edited by hand.", ""]⟩⟩]
  comment := none
  members :=
    [.const "SEPARATOR" "] // \"\n",
      .classDef ⟨"Store", [.exposed, .client],
        [.field ⟨[⟨"int[] sizes = [", false⟩, ⟨"    1, 2];", false⟩]⟩,
          .function ⟨[.isolated], .named "open", [⟨.optional (.plain "string"), "type", some "\"//\""⟩],
            none, .external ⟨[⟨"@java:Method \x7b\x7d", false⟩]⟩⟩]⟩]

theorem storeFile_reads_part_by_part :
    storeFile.Meets sourceVocabulary ∧ faults storeFile.render = [] ∧
      ∃ scanned parts, tokenize storeFile.render = .ok scanned ∧
        storeFile.parts.mapM tokenize = .ok parts ∧
        scanned.tokens.map Token.word = (parts.flatMap Scanned.tokens).map Token.word := by
  have hname : ∀ name ∈ ["ballerina", "pool", "SEPARATOR", "Store", "open", "string", "type"],
      IsName name := by
    decide +kernel
  simp only [List.forall_mem_cons] at hname
  obtain ⟨horg, hpool, hconst, hstore, hopen, hstring, hparam, -⟩ := hname
  have hmodule : IsModuleName "sql.pool" := by
    rw [IsModuleName, ← List.all_eq_true]
    exact ⟨by decide, rfl⟩
  have hvalue : IsValue "\"//\"" := by
    refine ⟨⟨⟨[⟨.string, "//", 0, 4, 0, 0⟩], []⟩, by decide +kernel⟩, ?_⟩
    rintro ⟨front, hfront, hmode⟩
    have hnone : ∀ front ∈ "\"//\"".toList.inits, (Scanner.initial.run front).mode ≠ .comment := by
      decide +kernel
    exact hnone front ((List.mem_inits _ _).mpr hfront) hmode
  have hfield : Snippet.IsRead ⟨[⟨"int[] sizes = [", false⟩, ⟨"    1, 2];", false⟩]⟩ :=
    @Snippet.IsRead.member _ "  int[] sizes = [\n      1, 2];" (by decide +kernel)
  have hmarking : Snippet.IsRead ⟨[⟨"@java:Method \x7b\x7d", false⟩]⟩ :=
    @Snippet.IsRead.marking _ " @java:Method \x7b\x7d " (by decide +kernel)
  have hmeets : storeFile.Meets sourceVocabulary := by
    refine ⟨?_, by simp [storeFile], ?_⟩
    · rintro _ (_ | ⟨_, ⟨⟩⟩)
      refine ⟨horg, hmodule, by rintro _ ⟨rfl⟩; exact hpool, ?_⟩
      rintro _ ⟨rfl⟩
      unfold Comment.Plain
      decide
    · simp only [storeFile, List.forall_mem_cons]
      refine ⟨hconst, ⟨hstore, ?_⟩, by simp⟩
      simp only [List.forall_mem_cons]
      refine ⟨hfield, ?_, by simp⟩
      refine ⟨hopen, ?_, by simp, hmarking⟩
      rintro _ (_ | ⟨_, ⟨⟩⟩)
      refine ⟨?_, hparam, by rintro _ ⟨rfl⟩; exact hvalue⟩
      simp only [TypeDesc.Names, TypeDesc.plain]
      exact hstring
  exact ⟨hmeets, SourceFile.render_reads_part_by_part hmeets⟩

end PersistLayer.Syntax
