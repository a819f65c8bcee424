import PersistLayer.Proofs.Render.Parts

/-!
# Putting trees together

Types are built from other types, and functions by adding parameters, statements or
an external body to a head.  What the names and snippets have to be carries over.
-/

namespace PersistLayer.Syntax

/-! ## Types -/

section Types

variable {isName : String → Prop}

theorem namesAll_iff {types : List TypeDesc} :
    TypeDesc.NamesAll isName types ↔ ∀ type ∈ types, type.Names isName := by
  induction types with
  | nil => simp [TypeDesc.NamesAll]
  | cons type rest ih => simp [TypeDesc.NamesAll, ih]

theorem names_plain {name : String} (hname : isName name) :
    (TypeDesc.plain name).Names isName := by
  simpa only [TypeDesc.plain, TypeDesc.Names] using hname

theorem names_qualified {scope name : String} (hscope : isName scope)
    (hname : isName name) : (TypeDesc.qualified scope name).Names isName := by
  simpa only [TypeDesc.qualified, TypeDesc.Names] using ⟨hscope, hname⟩

theorem names_optional {type : TypeDesc} (htype : type.Names isName) :
    (TypeDesc.optional type).Names isName := by
  simpa only [TypeDesc.Names] using htype

theorem names_array {type : TypeDesc} (htype : type.Names isName) :
    (TypeDesc.array type).Names isName := by
  simpa only [TypeDesc.Names] using htype

theorem names_or {type other : TypeDesc} (htype : type.Names isName)
    (hother : other.Names isName) : (type.or other).Names isName := by
  unfold TypeDesc.or
  split
  · simp only [TypeDesc.Names, namesAll_iff, List.mem_append, List.mem_singleton] at htype ⊢
    rintro member (hmember | rfl)
    · exact htype member hmember
    · exact hother
  · simp only [TypeDesc.Names, TypeDesc.NamesAll]
    exact ⟨htype, hother, trivial⟩

end Types

/-! ## Functions -/

section Functions

variable {vocabulary : Vocabulary} {function : FunctionDef}

theorem meets_named {name : String} {qualifiers : List Qualifier} {type : TypeDesc}
    (hname : vocabulary.name name) (htype : type.Names vocabulary.name) :
    (FunctionDef.named name qualifiers (some type)).Meets vocabulary where
  kind := hname
  params := by simp [FunctionDef.named]
  returns := by simpa [FunctionDef.named] using htype
  body := by simp [FunctionDef.named, FunctionBody.Meets]

theorem meets_resource {accessor : String} {path : List PathSegment}
    {qualifiers : List Qualifier} {type : TypeDesc}
    (haccessor : vocabulary.name accessor) (hpath : ∀ segment ∈ path, segment.Meets vocabulary)
    (htype : type.Names vocabulary.name) :
    (FunctionDef.resource accessor path qualifiers (some type)).Meets vocabulary where
  kind := ⟨haccessor, hpath⟩
  params := by simp [FunctionDef.resource]
  returns := by simpa [FunctionDef.resource] using htype
  body := by simp [FunctionDef.resource, FunctionBody.Meets]

theorem FunctionDef.Meets.withParams (hfunction : function.Meets vocabulary) {params : List Param}
    (hparams : ∀ param ∈ params, param.Meets vocabulary) :
    (function.withParams params).Meets vocabulary where
  kind := hfunction.kind
  params := by
    intro param hparam
    rcases List.mem_append.mp hparam with hparam | hparam
    · exact hfunction.params param hparam
    · exact hparams param hparam
  returns := hfunction.returns
  body := hfunction.body

theorem FunctionDef.Meets.withExternal (hfunction : function.Meets vocabulary)
    {marking : Snippet} (hmarking : vocabulary.snippet marking) :
    (function.withExternal marking).Meets vocabulary where
  kind := hfunction.kind
  params := hfunction.params
  returns := hfunction.returns
  body := hmarking

theorem FunctionDef.Meets.push (hfunction : function.Meets vocabulary) {statement : Snippet}
    (hstatement : vocabulary.snippet statement) : (function.push statement).Meets vocabulary where
  kind := hfunction.kind
  params := hfunction.params
  returns := hfunction.returns
  body := by
    have hbody := hfunction.body
    intro other hother
    rcases List.mem_append.mp hother with hother | hother
    · -- an external body has no statements
      unfold FunctionDef.statements at hother
      split at hother
      case h_1 statements hblock =>
        rw [hblock] at hbody
        exact hbody other hother
      case h_2 => cases hother
    · rw [List.mem_singleton.mp hother]
      exact hstatement

theorem FunctionDef.Meets.withStatements (hfunction : function.Meets vocabulary)
    {statements : List Snippet}
    (hstatements : ∀ statement ∈ statements, vocabulary.snippet statement) :
    (function.withStatements statements).Meets vocabulary := by
  induction statements generalizing function with
  | nil => exact hfunction
  | cons statement rest ih =>
      exact ih (hfunction.push (hstatements statement List.mem_cons_self)) fun other h =>
        hstatements other (List.mem_cons_of_mem _ h)

end Functions

/-- Statements come behind those that a block has. -/
theorem FunctionDef.withStatements_eq {function : FunctionDef} {statements : List Snippet}
    (hbody : function.body = .block statements) (others : List Snippet) :
    function.withStatements others = { function with body := .block (statements ++ others) } := by
  induction others generalizing function statements with
  | nil =>
      rw [List.append_nil, ← hbody]
      rfl
  | cons statement rest ih =>
      have hpushed : (function.push statement).body = .block (statements ++ [statement]) := by
        rw [FunctionDef.push, FunctionDef.statements, hbody]
      have hrest := ih hpushed
      rw [List.append_assoc, List.singleton_append] at hrest
      exact hrest

end PersistLayer.Syntax
