import PersistLayer.Proofs.Render.File
import PersistLayer.Proofs.Scanner.Tokens
import PersistLayer.Proofs.Scopes.Reading
import PersistLayer.Proofs.Text.UpperSnake
import PersistLayer.Schema.Entity

/-!
# The names in a client

The resource and the constant of an entity are named by the lower and the upper
case of its name.  A change of case can lead out of the identifier characters, but
never to a blank, a colon, a bracket or a quote.  So both are fit to be written.  No upper
case holds a lower-case letter of ASCII, and so no constant is named as a resource, which
ends in `s`.
-/

namespace PersistLayer.Client

open Schema Syntax Text

/-! ## Characters that are fit for a name -/

/-- The code points of the blanks, of the colon and of the characters that open, close or
escape something. -/
def unfitCodes : List Nat := Text.blankCodes ++ (':' :: '\\' :: delimiters).map Char.toNat

/-- A character that is no blank and no colon and opens, closes and escapes nothing. -/
def IsFit (c : Char) : Prop := c.toNat ∉ unfitCodes

theorem IsFit.isInert {c : Char} (hc : IsFit c) : isInert c = true := by
  have hmem : c ∉ delimiters := fun h =>
    hc (List.mem_append_right _
      (List.mem_map_of_mem (List.mem_cons_of_mem _ (List.mem_cons_of_mem _ h))))
  simpa [Syntax.isInert] using hmem

theorem IsFit.isBlank {c : Char} (hc : IsFit c) : isBlank c = false := by
  by_contra hblank
  exact hc (List.mem_append_left _ (Text.mem_blankCodes_of_isBlank (by simpa using hblank)))

theorem isFit_of_isIdentifierChar {c : Char} (hc : isIdentifierChar c = true) : IsFit c := by
  intro hmem
  have hclass : unfitCodes.any (fun code => isIdentifierChar (Char.ofNat code)) = false := by
    decide +kernel
  have hfalse := List.any_eq_false.mp hclass _ hmem
  rw [Char.ofNat_toNat] at hfalse
  exact hfalse hc

theorem isFit_of_mem_upperForm {c d : Char} (hc : IsFit c) (hd : d ∈ upperForm c) : IsFit d := by
  have havoids : avoids unfitCodes longUpperForms upperShifts = true := by decide +kernel
  rcases mem_mapCase (by decide) havoids hd with hfit | ⟨rfl, -⟩
  · exact hfit
  · exact hc

theorem isFit_of_mem_lowerForm {c d : Char} (hc : IsFit c) (hd : d ∈ lowerForm c) : IsFit d := by
  have havoids : avoids unfitCodes longLowerForms lowerShifts = true := by decide +kernel
  rcases mem_mapCase (by decide) havoids hd with hfit | ⟨rfl, -⟩
  · exact hfit
  · exact hc

/-! ## Whole names -/

/-- A name that can be written in source: it is not empty and has neither blanks nor
colons nor characters that open, close or escape something. -/
def IsFitName (name : String) : Prop := name ≠ "" ∧ ∀ c ∈ name.toList, IsFit c

theorem IsFitName.isInert {name : String} (hname : IsFitName name) : IsInertName name :=
  ⟨hname.1, fun c hc => (hname.2 c hc).isInert⟩

/-- A fit name has neither a colon nor a quote in it. -/
theorem IsFitName.isPlain {name : String} (hname : IsFitName name) : IsPlain name := by
  intro c hc
  have hfit := hname.2 c hc
  refine ⟨?_, ?_⟩ <;>
    · rintro rfl
      revert hfit
      unfold IsFit
      decide

theorem isFitName_of_isName {name : String} (hname : IsName name) : IsFitName name :=
  ⟨hname.1, fun c hc => isFit_of_isIdentifierChar (hname.2 c hc)⟩

/-! ## The names of an entity -/

/-- The type of a field is built in, or named. -/
def NamedType : FieldType → Prop
  | .enumeration name | .other name => IsName name
  | _ => True

instance : (type : FieldType) → Decidable (NamedType type)
  | .enumeration name | .other name => inferInstanceAs (Decidable (IsName name))
  | .int | .string | .boolean | .float | .decimal | .byteArray | .date | .timeOfDay | .utc
  | .civil => .isTrue trivial

/-- All names in an entity are names.  The columns of its relations may be any text. -/
structure NamedEntity (entity : Entity) : Prop where
  name : IsName entity.name
  table : ∀ table ∈ entity.table, IsName table
  fields : ∀ field ∈ entity.fields, IsName field.name ∧ NamedType field.type
  relations : ∀ relation ∈ entity.relations, IsName relation.name

instance (entity : Entity) : Decidable (NamedEntity entity) :=
  decidable_of_iff
    (IsName entity.name ∧ (∀ table ∈ entity.table, IsName table) ∧
      (∀ field ∈ entity.fields, IsName field.name ∧ NamedType field.type) ∧
      ∀ relation ∈ entity.relations, IsName relation.name)
    ⟨fun ⟨hname, htable, hfields, hrelations⟩ => ⟨hname, htable, hfields, hrelations⟩,
      fun ⟨hname, htable, hfields, hrelations⟩ => ⟨hname, htable, hfields, hrelations⟩⟩

theorem NamedEntity.tableName {entity : Entity} (hentity : NamedEntity entity) :
    IsName entity.tableName := by
  unfold Entity.tableName
  cases htable : entity.table with
  | none => exact hentity.name
  | some table => exact hentity.table table htable

theorem NamedEntity.keys {entity : Entity} (hentity : NamedEntity entity) :
    ∀ key ∈ entity.keyFields, IsName key.name ∧ NamedType key.type :=
  fun key hkey => hentity.fields key (List.mem_filter.mp hkey).1

section Entity

variable {entity : Entity} (hname : IsName entity.name)

include hname

theorem isFitName_constantName : IsFitName entity.constantName := by
  obtain ⟨hne, hchars⟩ := hname
  refine ⟨?_, ?_⟩
  · -- the upper-case form of the first character has a character
    obtain ⟨c, rest, hsplit⟩ : ∃ c rest, entity.name.toList = c :: rest :=
      List.exists_cons_of_ne_nil (by simpa using hne)
    have hform := upperForm_ne_nil c
    rw [Entity.constantName, hsplit, upperSnake, upperSnakeAfter, ne_eq, ← String.toList_inj,
      String.toList_ofList]
    simp [hform]
  · intro d hd
    rw [Entity.constantName, String.toList_ofList] at hd
    rcases mem_upperSnakeAfter hd with rfl | ⟨c, hc, hform⟩
    · exact isFit_of_isIdentifierChar (by decide)
    · exact isFit_of_mem_upperForm (isFit_of_isIdentifierChar (hchars c hc)) hform

theorem isFitName_resourceName : IsFitName entity.resourceName := by
  obtain ⟨-, hchars⟩ := hname
  refine ⟨by simp [Entity.resourceName, ← String.toList_inj], ?_⟩
  intro d hd
  rw [Entity.resourceName, String.toList_ofList, List.mem_append, List.mem_singleton] at hd
  rcases hd with hlower | rfl
  · rcases mem_lowerAfter hlower with hsigma | ⟨c, hc, hform⟩
    · have hsigmas : ['ς', 'σ'].all (fun d => !unfitCodes.contains d.toNat) = true := by
        decide +kernel
      simpa [IsFit] using List.all_eq_true.mp hsigmas d hsigma
    · exact isFit_of_mem_lowerForm (isFit_of_isIdentifierChar (hchars c hc)) hform
  · exact isFit_of_isIdentifierChar (by decide)

/-- No constant has a character in it that is in no upper case and in no name. -/
theorem not_mem_constantName_of_avoids {c : Char} (hchar : isIdentifierChar c = false)
    (hzero : 0 ∉ [c.toNat]) (havoids : avoids [c.toNat] longUpperForms upperShifts = true) :
    c ∉ entity.constantName.toList := by
  have hother : ∀ d, isIdentifierChar d = true → c ≠ d := by
    rintro d hd rfl
    rw [hchar] at hd
    cases hd
  intro hmem
  rw [Entity.constantName, String.toList_ofList] at hmem
  rcases mem_upperSnakeAfter hmem with hbreak | ⟨d, hd, hform⟩
  · exact hother '_' (by decide) hbreak
  · rcases mem_mapCase hzero havoids hform with hout | ⟨hself, -⟩
    · exact hout (List.mem_singleton_self _)
    · exact hother d (hname.2 d hd) hself

/-- No semicolon comes of a change of case. -/
theorem semicolon_not_mem_constantName : ';' ∉ entity.constantName.toList :=
  not_mem_constantName_of_avoids hname (by decide) (by decide) (by decide +kernel)

/-- No semicolon comes of a change of case. -/
theorem semicolon_not_mem_resourceName : ';' ∉ entity.resourceName.toList := by
  have havoids : avoids [';'.toNat] longLowerForms lowerShifts = true := by decide +kernel
  intro hmem
  rw [Entity.resourceName, String.toList_ofList, List.mem_append] at hmem
  rcases hmem with hlower | hs
  · rcases mem_lowerAfter hlower with hsigma | ⟨c, hc, hform⟩
    · exact absurd hsigma (by decide)
    · rcases mem_mapCase (by decide) havoids hform with hother | ⟨rfl, -⟩
      · exact hother (List.mem_singleton_self _)
      · exact absurd (hname.2 _ hc) (by decide)
  · exact absurd hs (by decide)

end Entity

/-- No constant holds a lower-case letter of ASCII. -/
theorem not_mem_constantName (entity : Entity) {letter : Char} (hlower : letter.isLower = true) :
    letter ∉ entity.constantName.toList := by
  intro hmem
  rw [Entity.constantName, String.toList_ofList] at hmem
  rcases mem_upperSnakeAfter hmem with rfl | ⟨c, -, hform⟩
  · exact absurd hlower (by decide)
  · exact not_mem_upperForm c hlower hform

/-- No constant is named as a resource. -/
theorem resourceName_ne_constantName (first second : Entity) :
    first.resourceName ≠ second.constantName := by
  intro hsame
  have hs : 's' ∈ second.constantName.toList := by
    rw [← hsame, Entity.resourceName, String.toList_ofList]
    simp
  exact not_mem_constantName second (by decide) hs

end PersistLayer.Client
