import PersistLayer.Proofs.Render.Parts
import PersistLayer.Proofs.Scopes.Snippets

/-!
# The scopes in a source tree

A tree names scopes in its types, in the default values of its parameters, in its
snippets and in its comments.  Written out it holds these scopes, in this order, and no
others, as long as its names have no colon and no quote in them: what stands between two
parts of a tree breaks off any word (`SourceFile.scopesOf_render`).
-/

namespace PersistLayer.Syntax

/-- No name has a colon or a quote in it, and no default value ends in a string literal. -/
structure Vocabulary.Legible (vocabulary : Vocabulary) : Prop where
  name : ∀ name, vocabulary.name name → IsPlain name
  moduleName : ∀ name, vocabulary.moduleName name → IsPlain name
  value : ∀ value, vocabulary.value value → Reads false .idle .loose value (scopesOf value)

theorem IsPlain.quotedName {name : String} (hname : IsPlain name) : IsPlain (quotedName name) :=
  forall_mem_quotedName (by decide) hname

/-! ## Types -/

mutual

/-- The scopes that a type is written with. -/
def TypeDesc.scopes : TypeDesc → List String
  | .named none _ => []
  | .named (some scope) name => scopesOf (scope ++ ":" ++ name)
  | .optional inner => inner.scopes
  | .array inner => inner.scopes
  | .union members => TypeDesc.scopesAll members
  | .tuple members => TypeDesc.scopesAll members
  | .stream row completion => row.scopes ++ completion.scopes
  | .typedesc inner => inner.scopes
  | .openRecord => []

/-- The scopes that several types are written with. -/
def TypeDesc.scopesAll : List TypeDesc → List String
  | [] => []
  | type :: rest => type.scopes ++ TypeDesc.scopesAll rest

end

theorem TypeDesc.scopesAll_eq (types : List TypeDesc) :
    TypeDesc.scopesAll types = types.flatMap TypeDesc.scopes := by
  induction types with
  | nil => rfl
  | cons type rest ih => rw [scopesAll, ih, List.flatMap_cons]

theorem TypeDesc.texts_eq (types : List TypeDesc) :
    TypeDesc.texts types = types.map TypeDesc.text := by
  induction types with
  | nil => rfl
  | cons type rest ih => rw [texts, ih, List.map_cons]

section Types

variable {isName : String → Prop}

/-- The written form of a type is read with the scopes of the type. -/
def TypeDesc.IsLegible (type : TypeDesc) : Prop :=
  Reads false .idle .loose type.text type.scopes

/-- Between two fixed texts, a type is read alike. -/
theorem TypeDesc.IsLegible.between {type : TypeDesc} (htype : type.IsLegible)
    {before after : Stance} {opening closing : String}
    (hopening : readsFixed false before .idle opening [] = true)
    (hclosing : readsFixed false .loose after closing [] = true) :
    Reads false before after (opening ++ type.text ++ closing) type.scopes :=
  ((reads_of_fixed hopening).leads htype).ends (reads_of_fixed hclosing)

theorem TypeDesc.IsLegible.operand {type : TypeDesc} (htype : type.IsLegible) :
    Reads false .idle .loose (type.operand type.text) type.scopes := by
  unfold TypeDesc.operand
  split_ifs
  · exact htype.between rfl rfl
  · exact htype

/-- Types with something between neighbours that is no part of a scope. -/
theorem reads_members {members : List TypeDesc} (hmembers : ∀ type ∈ members, type.IsLegible)
    {separator : String} (hseparator : readsFixed false .loose .idle separator [] = true) :
    Reads false .idle .loose (separator.intercalate (TypeDesc.texts members))
      (TypeDesc.scopesAll members) := by
  rw [TypeDesc.texts_eq, TypeDesc.scopesAll_eq]
  exact reads_intercalate (reads_of_fixed hseparator) (reads_of_fixed rfl) hmembers

mutual

theorem TypeDesc.isLegible (hplain : ∀ name, isName name → IsPlain name) :
    ∀ type : TypeDesc, type.Names isName → type.IsLegible
  | .named none name, h => by
      simp only [TypeDesc.Names] at h
      simpa only [IsLegible, TypeDesc.text, TypeDesc.scopes] using reads_plain (hplain name h)
  | .named (some scope) name, h => by
      simp only [TypeDesc.Names] at h
      -- the scope is what stands in front of the colon, as nothing is quoted
      have hquote : '"' ∉ (scope ++ ":" ++ name).toList := by
        simp only [String.toList_append, List.mem_append, not_or]
        exact ⟨⟨fun hc => (hplain scope h.1 _ hc).2 rfl, by decide⟩,
          fun hc => (hplain name h.2 _ hc).2 rfl⟩
      simpa only [IsLegible, TypeDesc.text, TypeDesc.scopes, scopesOf] using reads_unquoted hquote
  | .optional inner, h => by
      simp only [TypeDesc.Names] at h
      have hinner := (TypeDesc.isLegible hplain inner h).operand
      simpa only [IsLegible, TypeDesc.text, TypeDesc.scopes] using
        hinner.ends (reads_of_fixed rfl)
  | .array inner, h => by
      simp only [TypeDesc.Names] at h
      have hinner := (TypeDesc.isLegible hplain inner h).operand
      simpa only [IsLegible, TypeDesc.text, TypeDesc.scopes] using
        hinner.ends (reads_of_fixed rfl)
  | .union members, h => by
      simp only [TypeDesc.Names] at h
      have hmembers := TypeDesc.isLegible_all hplain members h
      simpa only [IsLegible, TypeDesc.text, TypeDesc.scopes] using
        reads_members hmembers rfl
  | .tuple members, h => by
      simp only [TypeDesc.Names] at h
      have hmembers := TypeDesc.isLegible_all hplain members h
      have hopen : Reads false .idle .idle "[" [] := reads_of_fixed rfl
      simpa only [IsLegible, TypeDesc.text, TypeDesc.scopes] using
        (hopen.leads (reads_members hmembers rfl)).ends
          (reads_of_fixed rfl)
  | .stream row completion, h => by
      simp only [TypeDesc.Names] at h
      have hrow := TypeDesc.isLegible hplain row h.1
      have hcompletion := TypeDesc.isLegible hplain completion h.2
      have hopen : Reads false .idle .idle ("stream<" ++ row.text ++ ", ") row.scopes :=
        hrow.between rfl rfl
      simpa only [IsLegible, TypeDesc.text, TypeDesc.scopes] using
        (hopen.append hcompletion).ends (reads_of_fixed rfl)
  | .typedesc inner, h => by
      simp only [TypeDesc.Names] at h
      have hinner := TypeDesc.isLegible hplain inner h
      simpa only [IsLegible, TypeDesc.text, TypeDesc.scopes] using
        hinner.between rfl rfl
  | .openRecord, _ => by
      simpa only [IsLegible, TypeDesc.text, TypeDesc.scopes] using reads_of_fixed rfl

theorem TypeDesc.isLegible_all (hplain : ∀ name, isName name → IsPlain name) :
    ∀ types : List TypeDesc, TypeDesc.NamesAll isName types → ∀ type ∈ types, type.IsLegible
  | [], _ => by simp
  | type :: rest, h => by
      simp only [TypeDesc.NamesAll, List.forall_mem_cons] at h ⊢
      exact ⟨TypeDesc.isLegible hplain type h.1, TypeDesc.isLegible_all hplain rest h.2⟩

end

end Types

/-! ## Comments and imports -/

/-- The scopes in the lines of a comment. -/
def Comment.scopes (comment : Comment) : List String := comment.lines.flatMap scopesOf

/-- The scopes that an import is written with: those in its comment. -/
def Import.scopes (entry : Import) : List String := entry.comment.elim [] Comment.scopes

theorem Comment.reads_render (comment : Comment) :
    Reads false .idle .idle comment.render comment.scopes := by
  have hlines : Reads false .idle .idle
      (String.join (comment.lines.map fun line => if line == "" then "\n" else "// " ++ line ++ "\n"))
      (comment.lines.flatMap scopesOf) := by
    refine reads_join ?_
    intro line _
    split_ifs with hempty
    · rw [beq_iff_eq.mp hempty]
      exact reads_of_fixed rfl
    · rw [String.append_assoc]
      exact (reads_of_fixed rfl : Reads false .idle .idle "// " []).leads
        (reads_line line)
  exact hlines.ends (reads_of_fixed rfl)

/-! ## Functions -/

/-- The scopes that a parameter is written with. -/
def Param.scopes (param : Param) : List String :=
  param.type.scopes ++ param.default.elim [] scopesOf

/-- The scopes that a segment of a path is written with. -/
def PathSegment.scopes : PathSegment → List String
  | .name _ => []
  | .param type _ => type.scopes

/-- The scopes in front of the parameters of a function. -/
def FunctionKind.scopes : FunctionKind → List String
  | .named _ => []
  | .resource _ path => path.flatMap PathSegment.scopes

/-- The scopes in the body of a function. -/
def FunctionBody.scopes : FunctionBody → List String
  | .block statements => statements.flatMap Snippet.scopes
  | .external marking => marking.scopes

/-- The scopes in front of the body of a function. -/
def FunctionDef.headScopes (function : FunctionDef) : List String :=
  function.kind.scopes ++ function.params.flatMap Param.scopes ++
    function.returns.elim [] TypeDesc.scopes

/-- The scopes that a function is written with. -/
def FunctionDef.scopes (function : FunctionDef) : List String :=
  function.headScopes ++ function.body.scopes

/-- Statements have no say in the head, and bring no other scopes than their own. -/
theorem FunctionDef.scopes_withStatements (function : FunctionDef) (statements : List Snippet) :
    (function.withStatements statements).scopes ⊆
      function.scopes ++ statements.flatMap Snippet.scopes := by
  induction statements generalizing function with
  | nil => exact List.subset_append_left _ _
  | cons statement rest ih =>
      have hbody : function.statements.flatMap Snippet.scopes ⊆ function.body.scopes := by
        unfold FunctionDef.statements
        cases function.body with
        | block statements => exact List.Subset.refl _
        | external marking => exact List.nil_subset _
      -- one statement more: the head is as it was, and the body has the new one at its end
      have hpush : (function.push statement).scopes ⊆ function.scopes ++ statement.scopes :=
        calc (function.push statement).scopes
            = function.headScopes ++
                (function.statements ++ [statement]).flatMap Snippet.scopes := rfl
          _ = function.headScopes ++ function.statements.flatMap Snippet.scopes ++
                statement.scopes := by
              rw [List.flatMap_append, List.flatMap_singleton, ← List.append_assoc]
          _ ⊆ function.headScopes ++ function.body.scopes ++ statement.scopes := by
              simp only [List.append_subset, List.subset_append_of_subset_left,
                List.subset_append_left, List.subset_append_right,
                List.subset_append_of_subset_right _ hbody, and_self]
      calc ((function.push statement).withStatements rest).scopes
          ⊆ (function.push statement).scopes ++ rest.flatMap Snippet.scopes :=
            ih (function.push statement)
        _ ⊆ function.scopes ++ statement.scopes ++ rest.flatMap Snippet.scopes :=
            List.append_subset.mpr
              ⟨List.subset_append_of_subset_left _ hpush, List.subset_append_right _ _⟩
        _ = function.scopes ++ (statement :: rest).flatMap Snippet.scopes := by
            rw [List.flatMap_cons, List.append_assoc]

/-- An annotation that continues a line has the same scopes. -/
theorem scopesOf_renderInline (marking : Snippet) (depth : Nat) :
    scopesOf (renderInline marking depth) = marking.scopes := by
  have hsplit : ∀ text : List Char, ∃ feeds, (∀ c ∈ feeds, Text.isBlank c = true) ∧
      text = (text.reverse.dropWhile (· == '\n')).reverse ++ feeds := by
    intro text
    refine ⟨(text.reverse.takeWhile (· == '\n')).reverse, ?_, ?_⟩
    · intro c hc
      have hfeed := List.mem_takeWhile_imp (List.mem_reverse.mp hc)
      rw [beq_iff_eq.mp hfeed]
      decide
    · rw [← List.reverse_append, List.takeWhile_append_dropWhile, List.reverse_reverse]
  have hlead : ∀ c ∈ (marking.render depth).toList.takeWhile Text.isBlank,
      Text.isBlank c = true := fun c hc => List.mem_takeWhile_imp hc
  obtain ⟨feeds, hfeeds, htext⟩ := hsplit (Text.trimStart (marking.render depth).toList)
  calc scopesOf (renderInline marking depth)
      = Reading.idle.scopes false (Text.trimStart (marking.render depth).toList) := by
        rw [htext, Reading.scopes_append, Reading.scopes_blanks hfeeds, List.append_nil, scopesOf,
          renderInline, String.toList_ofList]
    _ = Reading.idle.scopes false ((marking.render depth).toList.takeWhile Text.isBlank ++
          Text.trimStart (marking.render depth).toList) := by
        rw [Reading.scopes_append, Reading.scopes_blanks hlead, Reading.run_blanks hlead,
          List.nil_append]
    _ = scopesOf (marking.render depth) := by
        rw [Text.trimStart, List.takeWhile_append_dropWhile, scopesOf]
    _ = marking.scopes := (marking.reads_render depth).scopesOf_eq

/-- What stands behind an annotation ends its line. -/
theorem reads_external (marking : Snippet) (depth : Nat) :
    Reads false .idle .idle (renderInline marking depth ++ " external;\n") marking.scopes := by
  have hbehind : scopesOf (renderInline marking depth ++ " external;") = marking.scopes := by
    have hcolon : ':' ∉ "external;".toList := by decide
    have htext : " external;".toList = ' ' :: "external;".toList := rfl
    calc scopesOf (renderInline marking depth ++ " external;")
        = scopesOf (renderInline marking depth) ++ [] := by
          rw [scopesOf, String.toList_append, Reading.scopes_append, htext,
            Reading.scopes_of_blank_no_colon (by decide) hcolon, scopesOf]
      _ = marking.scopes := by rw [List.append_nil, scopesOf_renderInline]
  have hline := reads_line (renderInline marking depth ++ " external;")
  rw [hbehind, String.append_assoc] at hline
  exact hline

section Parts

variable {vocabulary : Vocabulary} (legible : vocabulary.Legible)

theorem reads_qualifiers (qualifiers : List Qualifier) :
    Reads false .idle .idle (renderQualifiers qualifiers) [] := by
  refine reads_join_none ?_
  intro qualifier _
  cases qualifier <;> exact reads_of_fixed rfl

include legible

theorem Vocabulary.Legible.reads_name {name : String} (hname : vocabulary.name name) :
    Reads false .idle .loose (quotedName name) [] :=
  reads_plain (legible.name name hname).quotedName

theorem Import.reads_render {entry : Import} (hmeets : entry.Meets vocabulary) :
    Reads false .idle .idle entry.render entry.scopes := by
  obtain ⟨horg, hmodule, hbound, -⟩ := hmeets
  have hcomment : Reads false .idle .idle (entry.comment.elim "" Comment.render) entry.scopes := by
    unfold Import.scopes
    cases entry.comment with
    | none => exact reads_empty false .idle
    | some comment => exact comment.reads_render
  have halias : Reads false .loose .loose (entry.boundTo.elim "" fun name => " as " ++ name) [] := by
    cases hentry : entry.boundTo with
    | none => exact reads_empty false .loose
    | some name =>
        have has : Reads false .loose .idle " as " [] := reads_of_fixed rfl
        exact has.leads (reads_plain (legible.name _ (hbound name hentry)))
  have himport : Reads false .idle .idle "import " [] := reads_of_fixed rfl
  have hslash : Reads false .loose .idle "/" [] := reads_of_fixed rfl
  have hend : Reads false .loose .idle ";\n" [] := reads_of_fixed rfl
  have horgText : Reads false .idle .loose entry.org [] := reads_plain (legible.name _ horg)
  have hmoduleText : Reads false .idle .loose entry.moduleName [] :=
    reads_plain (legible.moduleName _ hmodule)
  exact (((((hcomment.ends himport).ends horgText).ends hslash).ends hmoduleText).ends halias).ends
    hend

theorem Param.reads_render {param : Param} (hmeets : param.Meets vocabulary) :
    Reads false .idle .loose param.render param.scopes := by
  obtain ⟨htype, hname, hdefault⟩ := hmeets
  have hblank : Reads false .loose .idle " " [] := reads_of_fixed rfl
  have hvalue : Reads false .loose .loose (param.default.elim "" fun value => " = " ++ value)
      (param.default.elim [] scopesOf) := by
    cases hentry : param.default with
    | none => exact reads_empty false .loose
    | some value =>
        have hequals : Reads false .loose .idle " = " [] := reads_of_fixed rfl
        exact hequals.leads (legible.value _ (hdefault value hentry))
  have htypeText := TypeDesc.isLegible legible.name _ htype
  exact ((htypeText.ends hblank).ends (legible.reads_name hname)).append hvalue

theorem PathSegment.reads_render {segment : PathSegment} (hmeets : segment.Meets vocabulary) :
    Reads false .idle .loose segment.render segment.scopes := by
  cases segment with
  | name text => exact legible.reads_name hmeets
  | param type label =>
      obtain ⟨htype, hlabel⟩ := hmeets
      have htypeText : Reads false .idle .idle ("[" ++ type.text ++ " ") type.scopes :=
        (TypeDesc.isLegible legible.name _ htype).between rfl rfl
      have hclose : Reads false .loose .loose "]" [] := reads_of_fixed rfl
      exact (htypeText.ends (legible.reads_name hlabel)).ends hclose

theorem FunctionKind.reads_render {kind : FunctionKind} (hmeets : kind.Meets vocabulary) :
    Reads false .idle .loose kind.render kind.scopes := by
  cases kind with
  | named name => exact reads_plain (legible.name _ hmeets)
  | resource accessor path =>
      obtain ⟨haccessor, hpath⟩ := hmeets
      have haccessorText : Reads false .idle .loose accessor [] :=
        reads_plain (legible.name _ haccessor)
      have hblank : Reads false .loose .idle " " [] := reads_of_fixed rfl
      have hsegments : Reads false .idle .loose ("/".intercalate (path.map PathSegment.render))
          (path.flatMap PathSegment.scopes) :=
        reads_intercalate (reads_of_fixed rfl) (reads_of_fixed rfl)
          fun segment h => PathSegment.reads_render legible (hpath segment h)
      exact (haccessorText.leads hblank).leads hsegments

omit legible in
theorem FunctionBody.reads_render (body : FunctionBody) (depth : Nat) :
    Reads false .loose .idle (body.render depth) body.scopes := by
  cases body with
  | block statements =>
      have hopen : Reads false .loose .idle " \x7b\n" [] := reads_of_fixed rfl
      have hclose : Reads false .idle .idle "\x7d\n" [] := reads_of_fixed rfl
      have hstatements : Reads false .idle .idle
          (String.join (statements.map fun statement => statement.render (depth + 1)))
          (statements.flatMap Snippet.scopes) :=
        reads_join fun statement _ => statement.reads_render (depth + 1)
      exact ((hopen.leads hstatements).ends (reads_indentation depth)).ends hclose
  | external marking =>
      have hequals : Reads false .loose .idle " = " [] := reads_of_fixed rfl
      rw [FunctionBody.render, String.append_assoc]
      exact hequals.leads (reads_external marking depth)

theorem FunctionDef.reads_render {function : FunctionDef} (hmeets : function.Meets vocabulary)
    (depth : Nat) : Reads false .idle .idle (function.render depth) function.scopes := by
  have hword : Reads false .idle .idle "function " [] := reads_of_fixed rfl
  have hkind := FunctionKind.reads_render legible hmeets.kind
  have hopen : Reads false .loose .idle "(" [] := reads_of_fixed rfl
  have hparams : Reads false .idle .loose (", ".intercalate (function.params.map Param.render))
      (function.params.flatMap Param.scopes) :=
    reads_intercalate (reads_of_fixed rfl) (reads_of_fixed rfl)
      fun param h => Param.reads_render legible (hmeets.params param h)
  have hclose : Reads false .loose .loose ")" [] := reads_of_fixed rfl
  have hreturns : Reads false .loose .loose
      (function.returns.elim "" fun type => " returns " ++ type.text)
      (function.returns.elim [] TypeDesc.scopes) := by
    cases hentry : function.returns with
    | none => exact reads_empty false .loose
    | some type =>
        have hreturn : Reads false .loose .idle " returns " [] := reads_of_fixed rfl
        exact hreturn.leads (TypeDesc.isLegible legible.name _ (hmeets.returns type hentry))
  have hhead := ((reads_indentation depth).leads (reads_qualifiers function.qualifiers)).leads hword
  have hparameters := ((hhead.leads hkind).ends hopen).append hparams
  exact ((hparameters.ends hclose).append hreturns).append (function.body.reads_render depth)

end Parts

/-! ## Types and classes -/

/-- The scopes that a field or inclusion is written with. -/
def RecordField.scopes : RecordField → List String
  | .field _ type _ _ => type.scopes
  | .inclusion type => type.scopes

/-- The scopes that a type is defined with. -/
def TypeBody.scopes : TypeBody → List String
  | .record fields => fields.flatMap RecordField.scopes
  | .synonym type => type.scopes

/-- The scopes that a member of a class is written with. -/
def ClassMember.scopes : ClassMember → List String
  | .field declaration => declaration.scopes
  | .function definition => definition.scopes

/-- The scopes that a member of a module is written with. -/
def ModuleMember.scopes : ModuleMember → List String
  | .const .. | .enum .. => []
  | .type _ body => body.scopes
  | .classDef definition => definition.members.flatMap ClassMember.scopes
  | .function definition => definition.scopes
  | .snippet declaration => declaration.scopes

/-- The scopes that a source file is written with. -/
def SourceFile.scopes (file : SourceFile) : List String :=
  (if file.imports.isEmpty then file.comment.elim [] Comment.scopes
    else file.imports.flatMap Import.scopes) ++ file.members.flatMap ModuleMember.scopes

section Members

variable {vocabulary : Vocabulary} (legible : vocabulary.Legible)

include legible

theorem RecordField.reads_render {field : RecordField} (hmeets : field.Meets vocabulary) :
    Reads false .idle .idle field.render field.scopes := by
  cases field with
  | field isReadonly type name isOptional =>
      obtain ⟨htype, hname⟩ := hmeets
      have hindent : Reads false .idle .idle "    " [] := reads_of_fixed rfl
      have hreadonly : Reads false .idle .idle (if isReadonly then "readonly " else "") [] := by
        split_ifs <;> exact reads_of_fixed rfl
      have htypeText := TypeDesc.isLegible legible.name _ htype
      have hblank : Reads false .loose .idle " " [] := reads_of_fixed rfl
      have hoptional : Reads false .loose .loose (if isOptional then "?" else "") [] := by
        split_ifs
        · exact reads_of_fixed rfl
        · exact reads_empty false .loose
      have hend : Reads false .loose .idle ";\n" [] := reads_of_fixed rfl
      have hfront := ((hindent.leads hreadonly).leads htypeText).ends hblank
      exact ((hfront.ends (legible.reads_name hname)).ends hoptional).ends hend
  | inclusion type =>
      exact (TypeDesc.isLegible legible.name _ hmeets).between rfl rfl

theorem TypeBody.reads_render {body : TypeBody} {name : String} (hname : vocabulary.name name)
    (hmeets : body.Meets vocabulary) :
    Reads false .idle .idle (body.render name) body.scopes := by
  have hword : Reads false .idle .idle "public type " [] := reads_of_fixed rfl
  have hnameText : Reads false .idle .loose name [] := reads_plain (legible.name _ hname)
  have hhead := hword.leads hnameText
  cases body with
  | synonym type =>
      have hblank : Reads false .loose .idle " " [] := reads_of_fixed rfl
      have hend : Reads false .loose .idle ";\n" [] := reads_of_fixed rfl
      exact ((hhead.leads hblank).leads (TypeDesc.isLegible legible.name _ hmeets)).ends hend
  | record fields =>
      have hopen : Reads false .loose .idle " record \x7b|\n" [] :=
        reads_of_fixed rfl
      have hfields : Reads false .idle .idle (String.join (fields.map RecordField.render))
          (fields.flatMap RecordField.scopes) :=
        reads_join fun field h => RecordField.reads_render legible (hmeets field h)
      have hclose : Reads false .idle .idle "|\x7d;\n" [] := reads_of_fixed rfl
      exact ((hhead.leads hopen).leads hfields).ends hclose

theorem reads_enum {name : String} {members : List String} (hname : vocabulary.name name)
    (hmembers : ∀ member ∈ members, vocabulary.name member) :
    Reads false .idle .idle (renderEnum name members) [] := by
  have hword : Reads false .idle .idle "public enum " [] := reads_of_fixed rfl
  have hnameText : Reads false .idle .loose name [] := reads_plain (legible.name _ hname)
  have hopen : Reads false .loose .idle " \x7b\n" [] := reads_of_fixed rfl
  have hinner : Reads false .idle .loose
      (",\n".intercalate (members.map fun member => "    " ++ quotedName member)) [] := by
    have hindent : Reads false .idle .idle "    " [] := reads_of_fixed rfl
    exact reads_intercalate_none (reads_of_fixed rfl) fun member h =>
      hindent.leads (legible.reads_name (hmembers member h))
  have hclose : Reads false .loose .idle "\n\x7d\n" [] := reads_of_fixed rfl
  exact (((hword.leads hnameText).leads hopen).leads hinner).leads hclose

theorem ClassMember.reads_render {member : ClassMember} (hmeets : member.Meets vocabulary) :
    Reads false .idle .idle member.render member.scopes := by
  cases member with
  | field declaration => exact declaration.reads_render 1
  | function definition => exact FunctionDef.reads_render legible hmeets 1

theorem ClassDef.reads_render {definition : ClassDef} (hname : vocabulary.name definition.name)
    (hmembers : ∀ member ∈ definition.members, member.Meets vocabulary) :
    Reads false .idle .idle definition.render (definition.members.flatMap ClassMember.scopes) := by
  have hword : Reads false .idle .idle "class " [] := reads_of_fixed rfl
  have hnameText : Reads false .idle .loose definition.name [] := reads_plain (legible.name _ hname)
  have hopen : Reads false .loose .idle " \x7b\n" [] := reads_of_fixed rfl
  have hinner : Reads false .idle .idle
      ("\n".intercalate (definition.members.map ClassMember.render))
      (definition.members.flatMap ClassMember.scopes) :=
    reads_intercalate (reads_of_fixed rfl) (reads_empty false .idle)
      fun member h => ClassMember.reads_render legible (hmembers member h)
  have hclose : Reads false .idle .idle "\x7d\n" [] := reads_of_fixed rfl
  have hhead := ((reads_qualifiers definition.qualifiers).leads hword).leads hnameText
  exact ((hhead.leads hopen).leads hinner).ends hclose

theorem ModuleMember.reads_render {member : ModuleMember} (hmeets : member.Meets vocabulary) :
    Reads false .idle .idle member.render member.scopes := by
  cases member with
  | const name value =>
      have hword : Reads false .idle .idle "const " [] := reads_of_fixed rfl
      have hnameText : Reads false .idle .loose name [] := reads_plain (legible.name _ hmeets)
      have hequals : Reads false .loose .idle " = " [] := reads_of_fixed rfl
      have hend : Reads false .idle .idle ";\n" [] := reads_of_fixed rfl
      exact (((hword.leads hnameText).leads hequals).leads (reads_stringLiteral value).ofLoose).ends
        hend
  | enum name members => exact reads_enum legible hmeets.1 hmeets.2
  | type name body => exact TypeBody.reads_render legible hmeets.1 hmeets.2
  | classDef definition => exact ClassDef.reads_render legible hmeets.1 hmeets.2
  | function definition => exact FunctionDef.reads_render legible hmeets 0
  | snippet declaration => exact declaration.reads_render 0

/-! ## Files -/

theorem reads_renderBehind {members : List ModuleMember}
    (hmembers : ∀ member ∈ members, member.Meets vocabulary) (previous : ModuleMember) :
    Reads false .idle .idle (renderBehind previous members)
      (members.flatMap ModuleMember.scopes) := by
  induction members generalizing previous with
  | nil => exact reads_empty false .idle
  | cons member rest ih =>
      obtain ⟨hmember, hrest⟩ := List.forall_mem_cons.mp hmembers
      have hgap : Reads false .idle .idle (if previous.joins member then "" else "\n") [] := by
        split_ifs <;> exact reads_of_fixed rfl
      exact (hgap.leads (ModuleMember.reads_render legible hmember)).append (ih hrest member)

theorem reads_renderMembers {members : List ModuleMember}
    (hmembers : ∀ member ∈ members, member.Meets vocabulary) :
    Reads false .idle .idle (renderMembers members) (members.flatMap ModuleMember.scopes) := by
  cases members with
  | nil => exact reads_empty false .idle
  | cons member rest =>
      obtain ⟨hmember, hrest⟩ := List.forall_mem_cons.mp hmembers
      exact (ModuleMember.reads_render legible hmember).append
        (reads_renderBehind legible hrest member)

/-- **A source file is written with the scopes of its tree**, in order. -/
theorem SourceFile.scopesOf_render {file : SourceFile} (hmeets : file.Meets vocabulary) :
    scopesOf file.render = file.scopes := by
  have hhead : Reads false .idle .idle
      (if file.imports.isEmpty then file.comment.elim "" Comment.render
        else String.join (file.imports.map Import.render))
      (if file.imports.isEmpty then file.comment.elim [] Comment.scopes
        else file.imports.flatMap Import.scopes) := by
    split_ifs
    · cases file.comment with
      | none => exact reads_empty false .idle
      | some comment => exact comment.reads_render
    · exact reads_join fun entry h => Import.reads_render legible (hmeets.imports entry h)
  have hgap : Reads false .idle .idle
      (if file.imports.isEmpty || file.members.isEmpty then "" else "\n") [] := by
    split_ifs <;> exact reads_of_fixed rfl
  have hmembers := reads_renderMembers legible hmeets.members
  exact ((hhead.ends hgap).append hmembers).scopesOf_eq

end Members

end PersistLayer.Syntax
