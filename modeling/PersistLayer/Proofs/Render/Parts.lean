import PersistLayer.Proofs.Render.Neutral
import PersistLayer.Proofs.Text.Lines

/-!
# The parts of a source file

Every import and every member of a module is a part of the file that is neutral
and ends with its line, whatever names, values and snippets it holds, as long as
these are harmless one by one.  What they have to be is a `Vocabulary`, so that
one proof serves for hand-written and for generated trees.
-/

namespace PersistLayer.Syntax

/-! ## What a tree may hold -/

/-- What the names, values and snippets of a tree have to be. -/
structure Vocabulary where
  name : String → Prop
  moduleName : String → Prop
  value : String → Prop
  snippet : Snippet → Prop

/-- No line of the comment is broken. -/
def Comment.Plain (comment : Comment) : Prop := ∀ line ∈ comment.lines, '\n' ∉ line.toList

section Meets

variable (vocabulary : Vocabulary)

/-- The parts of an import are names, and its comment stays on its lines. -/
def Import.Meets (entry : Import) : Prop :=
  vocabulary.name entry.org ∧ vocabulary.moduleName entry.moduleName ∧
    (∀ name ∈ entry.boundTo, vocabulary.name name) ∧ ∀ comment ∈ entry.comment, comment.Plain

/-- A parameter has a name, a type of names and, when it may be left out, a default value. -/
def Param.Meets (param : Param) : Prop :=
  param.type.Names vocabulary.name ∧ vocabulary.name param.name ∧
    ∀ value ∈ param.default, vocabulary.value value

/-- A segment is a name, or a parameter with a type of names. -/
def PathSegment.Meets : PathSegment → Prop
  | .name text => vocabulary.name text
  | .param type label => type.Names vocabulary.name ∧ vocabulary.name label

/-- A function has a name, or an accessor and a path of names. -/
def FunctionKind.Meets : FunctionKind → Prop
  | .named name => vocabulary.name name
  | .resource accessor path =>
    vocabulary.name accessor ∧ ∀ segment ∈ path, segment.Meets vocabulary

/-- The statements of a block and the marking of an external function are snippets. -/
def FunctionBody.Meets : FunctionBody → Prop
  | .block statements => ∀ statement ∈ statements, vocabulary.snippet statement
  | .external marking => vocabulary.snippet marking

/-- What stands in the head and in the body of a function is what it has to be. -/
structure FunctionDef.Meets (function : FunctionDef) : Prop where
  kind : function.kind.Meets vocabulary
  params : ∀ param ∈ function.params, param.Meets vocabulary
  returns : ∀ type ∈ function.returns, type.Names vocabulary.name
  body : function.body.Meets vocabulary

/-- A field has a name and a type of names, an inclusion only the type. -/
def RecordField.Meets : RecordField → Prop
  | .field _ type name _ => type.Names vocabulary.name ∧ vocabulary.name name
  | .inclusion type => type.Names vocabulary.name

/-- The fields of a record, or the type that another one is a synonym of. -/
def TypeBody.Meets : TypeBody → Prop
  | .record fields => ∀ field ∈ fields, field.Meets vocabulary
  | .synonym type => type.Names vocabulary.name

/-- A member of a class is a snippet or a function. -/
def ClassMember.Meets : ClassMember → Prop
  | .field declaration => vocabulary.snippet declaration
  | .function definition => definition.Meets vocabulary

/-- Every name that a member of a module declares is a name.  The value of a constant may be any
text, as it is written as a string literal. -/
def ModuleMember.Meets : ModuleMember → Prop
  | .const name _ => vocabulary.name name
  | .enum name members => vocabulary.name name ∧ ∀ member ∈ members, vocabulary.name member
  | .type name body => vocabulary.name name ∧ body.Meets vocabulary
  | .classDef definition =>
    vocabulary.name definition.name ∧ ∀ member ∈ definition.members, member.Meets vocabulary
  | .function definition => definition.Meets vocabulary
  | .snippet declaration => vocabulary.snippet declaration

/-- The names, values and snippets of a source file are what they have to be. -/
structure SourceFile.Meets (file : SourceFile) : Prop where
  imports : ∀ entry ∈ file.imports, entry.Meets vocabulary
  comment : ∀ comment ∈ file.comment, comment.Plain
  members : ∀ member ∈ file.members, member.Meets vocabulary

end Meets

/-- The names, values and snippets open and close nothing that they do not close and
open themselves. -/
structure Vocabulary.Harmless (vocabulary : Vocabulary) : Prop where
  name : ∀ name, vocabulary.name name → IsInertName name
  moduleName : ∀ name, vocabulary.moduleName name → IsInertName name
  value : ∀ value, vocabulary.value value → Whole value
  snippet : ∀ snippet, vocabulary.snippet snippet → ∀ depth, Neutral (snippet.render depth)
  inline : ∀ snippet, vocabulary.snippet snippet → ∀ depth, Whole (renderInline snippet depth)

/-! ## Parts -/

/-- A text that is not cut off in the middle of a line. -/
def EndsLine (text : String) : Prop := text.toList.getLast?.all (· == '\n') = true

theorem endsLine_of_getLast? {text : String} (hlast : text.toList.getLast? = some '\n') :
    EndsLine text := by
  rw [EndsLine, hlast]
  rfl

theorem endsLine_append {front back : String} (hback : back.toList.getLast? = some '\n') :
    EndsLine (front ++ back) :=
  endsLine_of_getLast? (getLast?_append_eq hback)

/-- A part of a source file: neutral, and in lines of its own. -/
structure IsPart (text : String) : Prop where
  neutral : Neutral text
  endsLine : EndsLine text

theorem endsLine_join {texts : List String} (htexts : ∀ text ∈ texts, EndsLine text) :
    EndsLine (String.join texts) := by
  induction texts with
  | nil => rfl
  | cons text rest ih =>
      have hrest := ih fun other h => htexts other (List.mem_cons_of_mem _ h)
      rw [String.join_cons]
      unfold EndsLine at hrest ⊢
      rw [String.toList_append, List.getLast?_append]
      cases hlast : (String.join rest).toList.getLast? with
      | none => exact htexts text List.mem_cons_self
      | some c =>
          rw [hlast] at hrest
          exact hrest

theorem endsLine_snippet (snippet : Snippet) (depth : Nat) : EndsLine (snippet.render depth) := by
  refine endsLine_join ?_
  intro text htext
  obtain ⟨line, -, rfl⟩ := List.mem_map.mp htext
  unfold SnippetLine.render
  split_ifs
  · exact endsLine_append (by rfl)
  · exact endsLine_append (by rfl)

/-! ## Comments and imports -/

theorem neutral_commentLine {line : String} (hline : '\n' ∉ line.toList) :
    Neutral ("// " ++ line ++ "\n") := by
  intro outer
  have hopen : Outline.run ⟨.code, outer⟩ "// ".toList = some ⟨.comment, outer⟩ := rfl
  calc Outline.run ⟨.code, [] ++ outer⟩ ("// " ++ line ++ "\n").toList
      = (Outline.run ⟨.comment, outer⟩ line.toList).bind fun next => next.run "\n".toList := by
        rw [String.toList_append, String.toList_append, Outline.run_append, Outline.run_append,
          List.nil_append, hopen, Option.bind_some]
    _ = Outline.run ⟨.comment, outer⟩ "\n".toList := by
        rw [Outline.run_words hline, Option.bind_some]
    _ = some ⟨.code, [] ++ outer⟩ := rfl

theorem Comment.isPart {comment : Comment} (hplain : comment.Plain) : IsPart comment.render := by
  refine ⟨Neutral.append (neutral_join ?_) (neutral_of_run rfl), endsLine_append (by rfl)⟩
  intro text htext
  obtain ⟨line, hline, rfl⟩ := List.mem_map.mp htext
  split_ifs
  · exact neutral_of_run rfl
  · exact neutral_commentLine (hplain line hline)

theorem neutral_qualifiers (qualifiers : List Qualifier) : Neutral (renderQualifiers qualifiers) := by
  refine neutral_join ?_
  intro text htext
  obtain ⟨qualifier, -, rfl⟩ := List.mem_map.mp htext
  cases qualifier <;> exact neutral_of_run rfl

section Parts

variable {vocabulary : Vocabulary} (harmless : vocabulary.Harmless)

include harmless

theorem Import.isPart {entry : Import} (hmeets : entry.Meets vocabulary) :
    IsPart entry.render := by
  obtain ⟨horg, hmodule, hbound, hcomment⟩ := hmeets
  refine ⟨?_, endsLine_append (by rfl)⟩
  have hcommentNeutral : Neutral (entry.comment.elim "" Comment.render) := by
    cases hentry : entry.comment with
    | none => exact neutral_empty
    | some comment => exact (Comment.isPart (hcomment comment hentry)).neutral
  have hboundNeutral : Neutral (entry.boundTo.elim "" fun name => " as " ++ name) := by
    cases hentry : entry.boundTo with
    | none => exact neutral_empty
    | some name =>
        exact (neutral_of_run rfl).append (harmless.name _ (hbound name hentry)).neutral
  have hname := harmless.moduleName _ hmodule
  simp only [Import.render, String.append_assoc]
  refine hcommentNeutral.append ((neutral_of_run rfl).append
    ((harmless.name _ horg).neutral.append (neutral_slash ?_ (hname.beginsOther.append _))))
  exact hname.neutral.append (hboundNeutral.append (neutral_of_run rfl))

/-! ## Functions -/

theorem Param.whole {param : Param} (hmeets : param.Meets vocabulary) : Whole param.render := by
  obtain ⟨htype, hname, hdefault⟩ := hmeets
  have hvalue : Whole (param.default.elim "" fun value => " = " ++ value) := by
    cases hentry : param.default with
    | none => exact neutral_empty.whole
    | some value =>
        exact (neutral_of_run rfl).append_whole (harmless.value _ (hdefault value hentry))
  simp only [Param.render, String.append_assoc]
  have hquoted := (harmless.name _ hname).quotedName.neutral
  rw [← String.append_assoc, ← String.append_assoc]
  exact (((neutral_type harmless.name _ htype).append (neutral_of_run rfl)).append
    hquoted).append_whole hvalue

theorem PathSegment.neutral {segment : PathSegment} (hmeets : segment.Meets vocabulary) :
    Neutral segment.render ∧ BeginsOther segment.render := by
  cases segment with
  | name text =>
      have hquoted := (harmless.name _ hmeets).quotedName
      exact ⟨hquoted.neutral, hquoted.beginsOther⟩
  | param type label =>
      obtain ⟨htype, hlabel⟩ := hmeets
      have hquoted := (harmless.name _ hlabel).quotedName.neutral
      refine ⟨?_, ?_⟩
      · have hinner : Neutral (type.text ++ " " ++ quotedName label) :=
          ((neutral_type harmless.name _ htype).append (neutral_of_run rfl)).append hquoted
        have henclosed : Neutral ("[" ++ (type.text ++ " " ++ quotedName label) ++ "]") :=
          neutral_enclosed '[' (turns_of_run rfl) hinner (turns_of_run rfl)
        simpa only [PathSegment.render, String.append_assoc] using henclosed
      · simp only [PathSegment.render, String.append_assoc]
        exact BeginsOther.append ⟨'[', [], rfl, by decide⟩ _

theorem FunctionKind.neutral {kind : FunctionKind} (hmeets : kind.Meets vocabulary) :
    Neutral kind.render := by
  cases kind with
  | named name => exact (harmless.name _ hmeets).neutral
  | resource accessor path =>
      obtain ⟨haccessor, hpath⟩ := hmeets
      refine ((harmless.name _ haccessor).neutral.append (neutral_of_run rfl)).append
        (neutral_intercalate_slash ?_)
      intro text htext
      obtain ⟨segment, hsegment, rfl⟩ := List.mem_map.mp htext
      exact PathSegment.neutral harmless (hpath segment hsegment)

theorem FunctionBody.neutral {body : FunctionBody} (hmeets : body.Meets vocabulary)
    (depth : Nat) : Neutral (body.render depth) := by
  cases body with
  | block statements =>
      have hstatements : Neutral (String.join
          (statements.map fun statement => statement.render (depth + 1))) := by
        apply neutral_join
        intro text htext
        obtain ⟨statement, hstatement, rfl⟩ := List.mem_map.mp htext
        exact harmless.snippet _ (hmeets statement hstatement) _
      have hinner := hstatements.append (neutral_indentation depth)
      have henclosed : Neutral (" \x7b\n" ++ _ ++ "\x7d\n") :=
        neutral_enclosed '{' (turns_of_run rfl) hinner (turns_of_run rfl)
      simpa only [FunctionBody.render, String.append_assoc] using henclosed
  | external marking =>
      have hfront : Whole (" = " ++ renderInline marking depth) :=
        (neutral_of_run rfl).append_whole (harmless.inline _ hmeets depth)
      exact hfront.append_turns (neutral_of_run rfl) ⟨' ', _, rfl, by decide⟩

omit harmless in
theorem FunctionBody.getLast?_render (body : FunctionBody) (depth : Nat) :
    (body.render depth).toList.getLast? = some '\n' := by
  cases body with
  | block statements => exact getLast?_append_eq (by rfl)
  | external marking => exact getLast?_append_eq (by rfl)

theorem FunctionDef.isPart {function : FunctionDef} (hmeets : function.Meets vocabulary)
    (depth : Nat) : IsPart (function.render depth) := by
  have hparams : Whole (", ".intercalate (function.params.map Param.render)) := by
    apply whole_intercalate (neutral_of_run rfl) ⟨',', _, rfl, by decide⟩
    intro text htext
    obtain ⟨param, hparam, rfl⟩ := List.mem_map.mp htext
    exact Param.whole harmless (hmeets.params param hparam)
  have hreturns : Neutral (function.returns.elim "" fun type => " returns " ++ type.text) := by
    cases hentry : function.returns with
    | none => exact neutral_empty
    | some type =>
        have htype := neutral_type harmless.name type (hmeets.returns type hentry)
        exact (neutral_of_run rfl).append htype
  have hkind := FunctionKind.neutral harmless hmeets.kind
  have hbody := FunctionBody.neutral harmless hmeets.body depth
  refine ⟨?_, endsLine_append (function.body.getLast?_render depth)⟩
  simp only [FunctionDef.render, String.append_assoc]
  refine (neutral_indentation depth).append ((neutral_qualifiers _).append
    ((neutral_of_run rfl).append (hkind.append ?_)))
  -- the parameters stand between parentheses, which read a slash behind the last one as code
  have hclose : Turns [.bracket '('] [] (")" ++
      (function.returns.elim "" (fun type => " returns " ++ type.text) ++
        function.body.render depth)) :=
    (turns_of_run rfl : Turns [.bracket '('] [] ")").append (hreturns.append hbody)
  have hopen : Turns [] [.bracket '('] "(" := turns_of_run rfl
  exact hopen.append
    (hparams.append_turns hclose (BeginsOther.append ⟨')', [], rfl, by decide⟩ _))

/-! ## Types, classes and members -/

theorem RecordField.neutral {field : RecordField} (hmeets : field.Meets vocabulary) :
    Neutral field.render := by
  cases field with
  | field isReadonly type name isOptional =>
      obtain ⟨htype, hname⟩ := hmeets
      have htypeText := neutral_type harmless.name _ htype
      have hquoted := (harmless.name _ hname).quotedName.neutral
      have hreadonly : Neutral (if isReadonly then "readonly " else "") := by
        split_ifs <;> exact neutral_of_run rfl
      have hoptional : Neutral (if isOptional then "?" else "") := by
        split_ifs <;> exact neutral_of_run rfl
      simp only [RecordField.render, String.append_assoc]
      exact (neutral_of_run rfl).append (hreadonly.append (htypeText.append
        ((neutral_of_run rfl).append (hquoted.append (hoptional.append (neutral_of_run rfl))))))
  | inclusion type =>
      have htypeText := neutral_type harmless.name _ hmeets
      exact ((neutral_of_run rfl).append htypeText).append (neutral_of_run rfl)

theorem TypeBody.isPart {body : TypeBody} {name : String} (hname : vocabulary.name name)
    (hmeets : body.Meets vocabulary) : IsPart (body.render name) := by
  have hnameText := (harmless.name _ hname).neutral
  cases body with
  | synonym type =>
      have htypeText := neutral_type harmless.name _ hmeets
      refine ⟨?_, endsLine_append (by rfl)⟩
      exact ((((neutral_of_run rfl).append hnameText).append (neutral_of_run rfl)).append
        htypeText).append (neutral_of_run rfl)
  | record fields =>
      have hfields : Neutral (String.join (fields.map RecordField.render)) := by
        apply neutral_join
        intro text htext
        obtain ⟨field, hfield, rfl⟩ := List.mem_map.mp htext
        exact RecordField.neutral harmless (hmeets field hfield)
      have hopen : Turns [] [.bracket '{'] ("public type " ++ name ++ " record \x7b|\n") :=
        Turns.append ((neutral_of_run rfl).append hnameText) (turns_of_run rfl)
      exact ⟨neutral_enclosed '{' hopen hfields (turns_of_run rfl), endsLine_append (by rfl)⟩

theorem isPart_enum {name : String} {members : List String} (hname : vocabulary.name name)
    (hmembers : ∀ member ∈ members, vocabulary.name member) : IsPart (renderEnum name members) := by
  have hinner : Neutral
      (",\n".intercalate (members.map fun member => "    " ++ quotedName member)) := by
    apply neutral_intercalate (neutral_of_run rfl)
    intro text htext
    obtain ⟨member, hmember, rfl⟩ := List.mem_map.mp htext
    exact (neutral_of_run rfl).append (harmless.name _ (hmembers member hmember)).quotedName.neutral
  have hopen : Turns [] [.bracket '{'] ("public enum " ++ name ++ " \x7b\n") :=
    Turns.append ((neutral_of_run rfl).append (harmless.name _ hname).neutral) (turns_of_run rfl)
  exact ⟨neutral_enclosed '{' hopen hinner (turns_of_run rfl), endsLine_append (by rfl)⟩

theorem ClassMember.neutral {member : ClassMember} (hmeets : member.Meets vocabulary) :
    Neutral member.render := by
  cases member with
  | field declaration => exact harmless.snippet _ hmeets 1
  | function definition => exact (FunctionDef.isPart harmless hmeets 1).neutral

theorem ClassDef.isPart {definition : ClassDef} (hname : vocabulary.name definition.name)
    (hmembers : ∀ member ∈ definition.members, member.Meets vocabulary) :
    IsPart definition.render := by
  have hinner : Neutral ("\n".intercalate (definition.members.map ClassMember.render)) := by
    apply neutral_intercalate (neutral_of_run rfl)
    intro text htext
    obtain ⟨member, hmember, rfl⟩ := List.mem_map.mp htext
    exact ClassMember.neutral harmless (hmembers member hmember)
  have hopen : Turns [] [.bracket '{']
      (renderQualifiers definition.qualifiers ++ "class " ++ definition.name ++ " \x7b\n") :=
    Turns.append (((neutral_qualifiers _).append (neutral_of_run rfl)).append
      (harmless.name _ hname).neutral) (turns_of_run rfl)
  exact ⟨neutral_enclosed '{' hopen hinner (turns_of_run rfl), endsLine_append (by rfl)⟩

/-- **Every member of a module is a part of its own.** -/
theorem ModuleMember.isPart {member : ModuleMember} (hmeets : member.Meets vocabulary) :
    IsPart member.render := by
  cases member with
  | const name value =>
      refine ⟨?_, endsLine_append (by rfl)⟩
      have hnameText := (harmless.name _ hmeets).neutral
      exact ((((neutral_of_run rfl).append hnameText).append (neutral_of_run rfl)).append
        (neutral_stringLiteral value)).append (neutral_of_run rfl)
  | enum name members => exact isPart_enum harmless hmeets.1 hmeets.2
  | type name body => exact TypeBody.isPart harmless hmeets.1 hmeets.2
  | classDef definition => exact ClassDef.isPart harmless hmeets.1 hmeets.2
  | function definition => exact FunctionDef.isPart harmless hmeets 0
  | snippet declaration =>
      exact ⟨harmless.snippet _ hmeets 0, endsLine_snippet declaration 0⟩

end Parts

end PersistLayer.Syntax
