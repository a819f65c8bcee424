import PersistLayer.Proofs.Client.Calls
import PersistLayer.Proofs.Client.Wording

/-!
# The names that a resource function declares

A resource function declares names in three places: the keys in its path, its parameters
and the variables in its body.  The keys are named as the data model names them and the
others have fixed names, so a key can take the name of a parameter or of a variable.

The variables are read off the body by a reader that goes through its words and takes
for a declaration what stands at the head of a clause: a type, a name, and then an equals
sign, a semicolon or the word `in` (`Clause`).  Constants, resources and keys stand
behind that in every clause, and only a semicolon ends what stands there.  So whatever
they are called, the body declares the same variables (`exists_namesIn_put` and its
like), and a name is declared twice exactly when a key has one of a few names
(`namesIn_nodup_iff`).
-/

namespace PersistLayer.Client

open Schema Syntax

/-! ## Reading declarations -/

/-- How far a clause has been read: up to its last two words, which may be a type and a name,
or behind everything that could declare a name. -/
inductive Clause where
  | head (type name : Option String)
  | passed
  deriving DecidableEq

namespace Clause

/-- In front of a clause. -/
def start : Clause := .head none none

/-- Reads a word, which may be the one that shows a name to be declared: a name behind a type
is, in front of an equals sign, of a semicolon or of the word `in`. -/
def step : Clause → Word → Clause × Option String
  | passed, word => (if word = mark ";" then start else passed, none)
  | head type name, word =>
    if word = (.identifier, "in") ∧ type.isSome then (passed, name)
    else if word.1 = .identifier ∨ word.1 = .number then (head name (some word.2), none)
    else if word = mark "=" then (passed, if type.isSome then name else none)
    else if word = mark ";" then
      (start, if type.isSome ∧ type ≠ some "return" then name else none)
    else if word ∈ [mark ":", mark "|", mark "\x7b", mark "\x7d"] then (start, none)
    else if word = mark "?" then (head type name, none)
    else (passed, none)

/-- The clause behind some words. -/
def run (clause : Clause) : List Word → Clause
  | [] => clause
  | word :: rest => (clause.step word).1.run rest

/-- The names that some words declare. -/
def declared (clause : Clause) : List Word → List String
  | [] => []
  | word :: rest => (clause.step word).2.toList ++ (clause.step word).1.declared rest

theorem run_append (clause : Clause) (front back : List Word) :
    clause.run (front ++ back) = (clause.run front).run back := by
  induction front generalizing clause with
  | nil => rfl
  | cons word rest ih => exact ih _

theorem declared_append (clause : Clause) (front back : List Word) :
    clause.declared (front ++ back) =
      clause.declared front ++ (clause.run front).declared back := by
  induction front generalizing clause with
  | nil => rfl
  | cons word rest ih => simp [declared, run, ih]

/-- Only a semicolon leads out of what cannot declare anything. -/
theorem passed_of_no_semicolon {words : List Word} (hwords : mark ";" ∉ words) :
    passed.run words = passed ∧ passed.declared words = [] := by
  induction words with
  | nil => exact ⟨rfl, rfl⟩
  | cons word rest ih =>
      simp only [List.mem_cons, not_or] at hwords
      have hstep : passed.step word = (passed, none) := by simp [step, Ne.symm hwords.1]
      obtain ⟨hrun, hdeclared⟩ := ih hwords.2
      rw [run, declared, hstep]
      exact ⟨hrun, hdeclared⟩

end Clause

/-- The local variables that are declared in some words. -/
def localsIn (words : List Word) : List String := Clause.start.declared words

example : localsIn (wordsOf Body.close) = ["result"] := by decide +kernel

/-- Some words take a reader from one clause to another and declare some names. -/
def Effect (before after : Clause) (words : List Word) (names : List String) : Prop :=
  before.run words = after ∧ before.declared words = names

theorem Effect.append {before middle after : Clause} {front back : List Word}
    {names more : List String} (hfront : Effect before middle front names)
    (hback : Effect middle after back more) :
    Effect before after (front ++ back) (names ++ more) := by
  obtain ⟨hrun, hdeclared⟩ := hfront
  rw [Effect, Clause.run_append, Clause.declared_append, hrun, hdeclared, hback.1, hback.2]
  exact ⟨rfl, rfl⟩

/-! ## Pieces of a body -/

/-- A piece of a text between two edges, which takes a reader of declarations from one clause
to another and declares some names on the way. -/
def Declares (before after : Edge × Clause) (text : String) (names : List String) : Prop :=
  ∃ words, Wording before.1 after.1 text words ∧ Effect before.2 after.2 words names

/-- What a fixed text declares between two edges can be seen by reading it. -/
def declaresFixed (before after : Edge × Clause) (text : String) (names : List String) : Bool :=
  wordingFixed before.1 after.1 text (wordsOf text) && before.2.run (wordsOf text) == after.2 &&
    before.2.declared (wordsOf text) == names

section Pieces

variable {before middle after : Edge × Clause} {front back text : String} {names more : List String}

theorem declares_of_fixed (hfixed : declaresFixed before after text names = true) :
    Declares before after text names := by
  simp only [declaresFixed, Bool.and_eq_true, beq_iff_eq] at hfixed
  obtain ⟨⟨hwording, hrun⟩, hdeclared⟩ := hfixed
  exact ⟨wordsOf text, wording_of_fixed hwording, hrun, hdeclared⟩

theorem Declares.append (hfront : Declares before middle front names)
    (hback : Declares middle after back more) :
    Declares before after (front ++ back) (names ++ more) := by
  obtain ⟨words, hwording, heffect⟩ := hfront
  obtain ⟨others, hothers, hmore⟩ := hback
  exact ⟨words ++ others, hwording.append hothers, heffect.append hmore⟩

/-- What stands in a clause that cannot declare anything more and does not end there. -/
def Passes (before after : Edge) (text : String) : Prop :=
  Declares (before, .passed) (after, .passed) text []

theorem passes_of_wording {before after : Edge} {words : List Word}
    (hwording : Wording before after text words) (hwords : mark ";" ∉ words) :
    Passes before after text :=
  ⟨words, hwording, Clause.passed_of_no_semicolon hwords⟩

end Pieces

/-! ## Names in a body -/

/-- A semicolon among the words of a text that opens and closes nothing is one in the text. -/
theorem semicolon_not_mem_wordsOf {name : String} (hname : IsFitName name)
    (hsemicolon : ';' ∉ name.toList) : mark ";" ∉ wordsOf name := fun hmem =>
  hsemicolon ((chars_of_mem_wordsOf hname.isInert.2 hmem).1 (by decide))

theorem passes_fitName {name : String} (hname : IsFitName name) (hsemicolon : ';' ∉ name.toList) :
    Passes .clean .word name :=
  passes_of_wording hname.wording (semicolon_not_mem_wordsOf hname hsemicolon)

theorem passes_quotedName {name : String} (hname : IsName name) :
    Passes .clean .word (quotedName name) := by
  refine passes_fitName (isFitName_of_isName hname).quotedName ?_
  intro hmem
  exact absurd (List.all_eq_true.mp (all_isInner_quotedName hname) _ hmem) (by decide)

theorem passes_intercalate {before after : Edge} {separator text : String} {rest : List String}
    (hseparator : Passes after before separator)
    (htexts : ∀ other ∈ text :: rest, Passes before after other) :
    Passes before after (separator.intercalate (text :: rest)) := by
  induction rest generalizing text with
  | nil => simpa using htexts
  | cons next others ih =>
      obtain ⟨htext, hrest⟩ := List.forall_mem_cons.mp htexts
      rw [String.intercalate_cons_cons]
      exact (htext.append hseparator).append (ih hrest)

section Keys

variable {keys : List Field} (hkeys : ∀ key ∈ keys, IsName key.name) (hkeyed : keys ≠ [])

include hkeys hkeyed

theorem passes_argument : Passes .clean .word (Key.argument keys) := by
  have hopen : Passes .clean .clean "\x7b" := declares_of_fixed (by rfl)
  have hclose : Passes .word .word "\x7d" := declares_of_fixed (by rfl)
  have hcolon : Passes .clean .clean ": " := declares_of_fixed (by rfl)
  have hcomma : Passes .word .clean ", " := declares_of_fixed (by rfl)
  have hitems : ∀ text ∈ keys.map (fun key => stringLiteral key.name ++ ": " ++
      quotedName key.name), Passes .clean .word text := by
    intro text htext
    obtain ⟨key, hkey, rfl⟩ := List.mem_map.mp htext
    have hliteral : Passes .clean .clean (stringLiteral key.name) :=
      passes_of_wording (isFitName_of_isName (hkeys key hkey)).wording_literal.ofWord
        (by simp [mark])
    exact (hliteral.append hcolon).append (passes_quotedName (hkeys key hkey))
  unfold Key.argument
  split
  · exact passes_quotedName (hkeys _ List.mem_cons_self)
  · obtain ⟨key, rest, rfl⟩ := List.exists_cons_of_ne_nil hkeyed
    exact (hopen.append (passes_intercalate hcomma hitems)).append hclose

theorem passes_projection : Passes .clean .word (Key.projection keys) := by
  have hopen : Passes .clean .clean "[" := declares_of_fixed (by rfl)
  have hclose : Passes .word .word "]" := declares_of_fixed (by rfl)
  have hinserted : Passes .clean .clean "inserted." := declares_of_fixed (by rfl)
  have hcomma : Passes .word .clean ", " := declares_of_fixed (by rfl)
  have hitems : ∀ text ∈ keys.map (fun key => "inserted." ++ quotedName key.name),
      Passes .clean .word text := by
    intro text htext
    obtain ⟨key, hkey, rfl⟩ := List.mem_map.mp htext
    exact hinserted.append (passes_quotedName (hkeys key hkey))
  unfold Key.projection
  split
  · exact hinserted.append (passes_quotedName (hkeys _ List.mem_cons_self))
  · obtain ⟨key, rest, rfl⟩ := List.exists_cons_of_ne_nil hkeyed
    exact (hopen.append (passes_intercalate hcomma hitems)).append hclose

/-- The path of a record behind a slash, and the call on it. -/
theorem passes_recordCall {resource : String} (hresource : IsFitName resource)
    (hsemicolon : ';' ∉ resource.toList) :
    Declares (.slash, .passed) (.word, .start)
      (resource ++ "/" ++ Key.clientPath keys ++ ".get();") [] := by
  have hopen : Passes .slash .clean "[" := declares_of_fixed (by rfl)
  have hclose : Passes .word .clean "]" := declares_of_fixed (by rfl)
  have hbetween : Passes .clean .slash "/" := declares_of_fixed (by rfl)
  have hfirst : Passes .word .slash "/" := declares_of_fixed (by rfl)
  have hget : Declares (.clean, .passed) (.word, .start) ".get();" [] :=
    declares_of_fixed (by rfl)
  have hname : Passes .slash .word resource :=
    passes_of_wording hresource.wording_behind_slash
      (semicolon_not_mem_wordsOf hresource hsemicolon)
  have hsegments : ∀ text ∈ keys.map (fun key => "[" ++ quotedName key.name ++ "]"),
      Passes .slash .clean text := by
    intro text htext
    obtain ⟨key, hkey, rfl⟩ := List.mem_map.mp htext
    exact (hopen.append (passes_quotedName (hkeys key hkey))).append hclose
  obtain ⟨key, rest, rfl⟩ := List.exists_cons_of_ne_nil hkeyed
  exact ((hname.append hfirst).append (passes_intercalate hbetween hsegments)).append hget

end Keys

/-! ## Lines of a body -/

/-- Some lines take a reader of declarations from one clause to another. -/
def LinesDeclare (before after : Clause) (lines : List String) (names : List String) : Prop :=
  Declares (.clean, before) (.clean, after) (String.join (lines.map (· ++ "\n"))) names

section Lines

variable {before middle after : Clause} {lines rest : List String} {names more : List String}

theorem LinesDeclare.nil (clause : Clause) : LinesDeclare clause clause [] [] :=
  ⟨[], wording_empty .clean, rfl, rfl⟩

theorem LinesDeclare.cons {line : String}
    (hline : Declares (.clean, before) (.word, middle) line names)
    (hrest : LinesDeclare middle after rest more) :
    LinesDeclare before after (line :: rest) (names ++ more) := by
  have hbreak : Wording .word .clean "\n" [] := wording_of_fixed (by rfl)
  have hfeed : Declares (.word, middle) (.clean, middle) "\n" [] := ⟨[], hbreak, rfl, rfl⟩
  have hall := (hline.append hfeed).append hrest
  rw [List.append_nil] at hall
  rw [LinesDeclare, List.map_cons, String.join_cons]
  exact hall

theorem LinesDeclare.append (hlines : LinesDeclare before middle lines names)
    (hrest : LinesDeclare middle after rest more) :
    LinesDeclare before after (lines ++ rest) (names ++ more) := by
  rw [LinesDeclare, List.map_append, String.join_append]
  exact Declares.append hlines hrest

/-- No line feed stands behind the last line of a text. -/
theorem LinesDeclare.textOfLines {last : String} (hlines : LinesDeclare before middle lines names)
    (hlast : Declares (.clean, middle) (.word, after) last more) :
    Declares (.clean, before) (.word, after) (textOfLines (lines ++ [last])) (names ++ more) := by
  rw [textOfLines_concat]
  exact Declares.append hlines hlast

end Lines

/-- A word of a type becomes the last of the two that are known, unless it could be the one
behind the name of a variable. -/
theorem effect_typeWord {type last : Option String} {word : Word}
    (hkind : word.1 = .identifier ∨ word.1 = .number)
    (hword : type = none ∨ word ≠ (.identifier, "in")) :
    Effect (.head type last) (.head last (some word.2)) [word] [] := by
  have hnot : ¬ (word = (.identifier, "in") ∧ type.isSome = true) := by
    rintro ⟨hsame, hsome⟩
    rcases hword with rfl | hne
    · cases hsome
    · exact hne hsame
  simp [Effect, Clause.run, Clause.declared, Clause.step, hnot, hkind]

/-- The words of a name are read as those of a type. -/
theorem exists_head_of_name {name : String} (hname : IsName name) {type last : Option String}
    (hin : type = none ∧ last = none ∨ ¬ "in".toList <:+ name.toList) :
    ∃ front back, Effect (.head type last) (.head front (some back)) (wordsOf name) [] := by
  have hword : ∀ back, back.toList <:+ name.toList →
      (type = none ∧ last = none) ∨ ((.identifier, back) : Word) ≠ (.identifier, "in") := by
    intro back hback
    refine hin.imp_right fun hsuffix hsame => hsuffix ?_
    rwa [← (Prod.mk.inj hsame).2]
  rcases wordsOf_name hname with hone | hone | ⟨front, back, hsplit, htwo⟩
  · rw [hone]
    exact ⟨_, _, effect_typeWord (.inl rfl) ((hword name (List.suffix_refl _)).imp_left And.left)⟩
  · rw [hone]
    exact ⟨_, _, effect_typeWord (.inr rfl) (.inr (by simp))⟩
  · have hback : back.toList <:+ name.toList := by
      rw [hsplit, String.toList_append]
      exact List.suffix_append _ _
    have hfirst : Effect (.head type last) (.head last (some front)) [(.number, front)] [] :=
      effect_typeWord (.inr rfl) (.inr (by simp))
    have hsecond : Effect (.head last (some front)) (.head (some front) (some back))
        [(.identifier, back)] [] :=
      effect_typeWord (.inl rfl) ((hword back hback).imp_left And.right)
    rw [htwo]
    exact ⟨_, _, hfirst.append hsecond⟩

/-- The name of a variable stands behind its type and in front of the word `in`. -/
theorem declares_inserted (front : Option String) (back : String) :
    Declares (.word, .head front (some back)) (.word, .passed) " inserted in data"
      ["inserted"] := by
  have hwording : Wording .word .word " inserted in data"
      [(.identifier, "inserted"), (.identifier, "in"), (.identifier, "data")] :=
    wording_of_fixed (by rfl)
  exact ⟨_, hwording, by simp [Effect, Clause.run, Clause.declared, Clause.step, mark]⟩

/-- The name of a variable stands behind its type and in front of an equals sign. -/
theorem declares_result (front : Option String) (back : String) :
    Declares (.word, .head front (some back)) (.slash, .passed) " result = check self->/"
      ["result"] := by
  have hwording : Wording .word .slash " result = check self->/"
      [(.identifier, "result"), mark "=", (.identifier, "check"), (.identifier, "self"), mark "-",
        mark ">", mark "/"] :=
    wording_of_fixed (by rfl)
  exact ⟨_, hwording, by simp [Effect, Clause.run, Clause.declared, Clause.step, mark]⟩

section Bodies

variable {constant : String} (hconstant : IsFitName constant) (hsemicolon : ';' ∉ constant.toList)

include hconstant hsemicolon

theorem declares_sqlClient :
    LinesDeclare .start .start (Body.sqlClientLines constant) ["sqlClient"] := by
  have hclient : Declares (.clean, .start) (.word, .start) "psql:SQLClient sqlClient;"
      ["sqlClient"] := declares_of_fixed (by rfl)
  have hlock : Declares (.clean, .start) (.word, .start) "lock \x7b" [] :=
    declares_of_fixed (by rfl)
  have hget : Declares (.clean, .start) (.clean, .passed)
      "    sqlClient = self.persistClients.get(" [] := declares_of_fixed (by rfl)
  have hend : Declares (.word, .passed) (.word, .start) ");" [] :=
    declares_of_fixed (by rfl)
  have hclose : Declares (.clean, .start) (.word, .start) "\x7d" [] :=
    declares_of_fixed (by rfl)
  have hline := (hget.append (passes_fitName hconstant hsemicolon)).append hend
  exact .cons hclient (.cons hlock (.cons hline (.cons hclose (.nil _))))

variable {keys : List Field} (hkeys : ∀ key ∈ keys, IsName key.name) (hkeyed : keys ≠ [])

include hkeys hkeyed

theorem declares_post {insertType : String} (hinsert : IsName insertType)
    (hin : ¬ "in".toList <:+ insertType.toList) :
    Declares (.clean, .start) (.word, .start)
      (Body.post constant insertType (Key.projection keys)) ["sqlClient", "inserted"] := by
  have hquery : Declares (.clean, .start) (.word, .start)
      "_ = check sqlClient.runBatchInsertQuery(data);" [] := declares_of_fixed (by rfl)
  have hfrom : Declares (.clean, .start) (.clean, .head (some "return") (some "from"))
      "return from " [] := declares_of_fixed (by rfl)
  have hselect : Declares (.clean, .passed) (.clean, .passed) "    select " [] :=
    declares_of_fixed (by rfl)
  have hend : Declares (.word, .passed) (.word, .start) ";" [] :=
    declares_of_fixed (by rfl)
  obtain ⟨front, back, htype⟩ := exists_head_of_name hinsert (.inr hin)
  have hreturn := (hfrom.append ⟨_, (isFitName_of_isName hinsert).wording, htype⟩).append
    (declares_inserted front back)
  have hprojection := (hselect.append (passes_projection hkeys hkeyed)).append hend
  have hlines := (declares_sqlClient hconstant hsemicolon).append
    (.cons hquery (.cons hreturn (.nil _)))
  exact hlines.textOfLines hprojection

variable {resource : String} (hresource : IsFitName resource)
  (hplain : ';' ∉ resource.toList)

include hresource hplain

theorem declares_put : Declares (.clean, .start) (.word, .start)
    (Body.put constant resource (Key.argument keys) (Key.clientPath keys)) ["sqlClient"] := by
  have hquery : Declares (.clean, .start) (.clean, .passed)
      "_ = check sqlClient.runUpdateQuery(" [] := declares_of_fixed (by rfl)
  have hvalue : Declares (.word, .passed) (.word, .start) ", value);" [] :=
    declares_of_fixed (by rfl)
  have hreturn : Declares (.clean, .start) (.slash, .passed) "return self->/" [] :=
    declares_of_fixed (by rfl)
  have hline := (hquery.append (passes_argument hkeys hkeyed)).append hvalue
  have hcall := hreturn.append (passes_recordCall hkeys hkeyed hresource hplain)
  have hall := ((declares_sqlClient hconstant hsemicolon).append (.cons hline (.nil _))).textOfLines
    hcall
  simpa only [Body.put, List.append_assoc, List.cons_append, List.nil_append,
    String.append_assoc] using hall

theorem declares_delete {entity : String} (hentity : IsName entity) :
    Declares (.clean, .start) (.word, .start)
      (Body.delete entity constant resource (Key.argument keys) (Key.clientPath keys))
      ["result", "sqlClient"] := by
  have hquery : Declares (.clean, .start) (.clean, .passed)
      "_ = check sqlClient.runDeleteQuery(" [] := declares_of_fixed (by rfl)
  have hend : Declares (.word, .passed) (.word, .start) ");" [] :=
    declares_of_fixed (by rfl)
  have hreturn : Declares (.clean, .start) (.word, .start) "return result;" [] :=
    declares_of_fixed (by rfl)
  obtain ⟨front, back, htype⟩ := exists_head_of_name hentity (.inl ⟨rfl, rfl⟩)
  have htyped : Declares (.clean, .start) (.word, .head front (some back)) entity [] :=
    ⟨_, (isFitName_of_isName hentity).wording, htype⟩
  have hcall := (htyped.append (declares_result front back)).append
    (passes_recordCall hkeys hkeyed hresource hplain)
  have hline := (hquery.append (passes_argument hkeys hkeyed)).append hend
  have hlines := LinesDeclare.cons hcall ((declares_sqlClient hconstant hsemicolon).append
    (.cons hline (.nil _)))
  have hall := hlines.textOfLines hreturn
  simpa only [Body.delete, List.append_assoc, List.cons_append, List.nil_append,
    String.append_assoc] using hall

end Bodies

/-! ## The names of a function -/

/-- The name that a segment of a path declares. -/
def declaredBy? : PathSegment → Option String
  | .name _ => none
  | .param _ name => some name

/-- The parameters in the path of a function. -/
def pathParams : FunctionKind → List String
  | .named _ => []
  | .resource _ path => path.filterMap declaredBy?

/-- All names that a function declares: in its path, among its parameters and in its body. -/
def namesIn (function : FunctionDef) : List String :=
  pathParams function.kind ++ function.params.map Param.name ++ localsIn (bodyWords function)

/-- The names of the keys of an entity. -/
def keyNames (entity : Entity) : List String := entity.keyFields.map Field.name

/-- A function with a body declares what its text declares. -/
theorem exists_namesIn_withBody {text : String} {names : List String} (htext : IsStatements text)
    (hdeclares : Declares (.clean, .start) (.word, .start) text names) (fragment : String)
    {function : FunctionDef} (hempty : function.body = .block []) :
    ∃ built, withBody fragment text function = .ok built ∧
      namesIn built = pathParams function.kind ++ function.params.map Param.name ++ names := by
  obtain ⟨words, hwording, -, hdeclared⟩ := hdeclares
  obtain ⟨snippets, hbuilt, hwords⟩ := exists_bodyWords htext hwording fragment hempty
  refine ⟨_, hbuilt, ?_⟩
  rw [namesIn, hwords, show localsIn words = names from hdeclared]

/-- An external function declares its parameters only. -/
theorem exists_namesIn_external (datasource : Datasource) {method : Option String}
    (hmethod : ∀ name ∈ method, IsName name) (function : FunctionDef) :
    ∃ built, external datasource.policy method function = .ok built ∧
      namesIn built = pathParams function.kind ++ function.params.map Param.name := by
  obtain ⟨marking, -, hbuilt⟩ := exists_external datasource hmethod function
  exact ⟨_, hbuilt, List.append_nil _⟩

section Entity

variable {entity : Entity}

theorem isName_insertName {name : String} (hname : IsName name) :
    IsName (DataTypes.insertName name) := by
  have hsuffix : IsName "Insert" := ⟨by decide, List.all_eq_true.mp rfl⟩
  refine ⟨by simp [DataTypes.insertName], ?_⟩
  rw [DataTypes.insertName, String.toList_append]
  exact List.forall_mem_append.mpr ⟨hname.2, hsuffix.2⟩

theorem pathParams_recordPath (accessor : String) :
    pathParams (.resource accessor (recordPath entity)) = keyNames entity := by
  have hkeys : (Key.path entity.keyFields).filterMap declaredBy? = keyNames entity := by
    rw [Key.path, List.filterMap_map, keyNames, ← List.filterMap_eq_map]
    rfl
  rw [pathParams, recordPath, collectionPath, List.singleton_append,
    List.filterMap_cons_none rfl, hkeys]

theorem exists_namesIn_getAll (datasource : Datasource) (entity : Entity) :
    ∃ all, getAll datasource.policy entity = .ok all ∧ namesIn all =
      ["targetType", "whereClause", "orderByClause", "limitClause", "groupByClause"] := by
  have hmethod : IsName "query" := ⟨by decide, List.all_eq_true.mp rfl⟩
  exact @exists_namesIn_external datasource (some "query") (by simpa using hmethod) _

theorem exists_namesIn_getOne (datasource : Datasource) (entity : Entity) :
    ∃ one, getOne datasource.policy entity = .ok one ∧
      namesIn one = keyNames entity ++ ["targetType"] := by
  have hmethod : IsName "queryOne" := ⟨by decide, List.all_eq_true.mp rfl⟩
  rw [← pathParams_recordPath "get"]
  exact @exists_namesIn_external datasource (some "queryOne") (by simpa using hmethod) _

variable (hname : IsName entity.name) (hkeys : ∀ key ∈ entity.keyFields, IsName key.name)
  (hkeyed : entity.keyFields ≠ [])

include hname hkeys hkeyed

/-- The variables of an insertion. -/
theorem declares_postBody : Declares (.clean, .start) (.word, .start)
    (Body.post entity.constantName (DataTypes.insertName entity.name)
      (Key.projection entity.keyFields)) ["sqlClient", "inserted"] := by
  have hin : ¬ "in".toList <:+ (DataTypes.insertName entity.name).toList := by
    rw [DataTypes.insertName, String.toList_append]
    intro hsuffix
    have hends := List.suffix_of_suffix_length_le hsuffix (List.suffix_append _ _) (by decide)
    exact absurd hends (by decide)
  exact declares_post (isFitName_constantName hname) (semicolon_not_mem_constantName hname) hkeys
    hkeyed (isName_insertName hname) hin

/-- The variables of an update. -/
theorem declares_putBody : Declares (.clean, .start) (.word, .start)
    (Body.put entity.constantName entity.resourceName (Key.argument entity.keyFields)
      (Key.clientPath entity.keyFields)) ["sqlClient"] :=
  declares_put (isFitName_constantName hname) (semicolon_not_mem_constantName hname) hkeys hkeyed
    (isFitName_resourceName hname) (semicolon_not_mem_resourceName hname)

/-- The variables of a deletion. -/
theorem declares_deleteBody : Declares (.clean, .start) (.word, .start)
    (Body.delete entity.name entity.constantName entity.resourceName
      (Key.argument entity.keyFields) (Key.clientPath entity.keyFields))
    ["result", "sqlClient"] :=
  declares_delete (isFitName_constantName hname) (semicolon_not_mem_constantName hname) hkeys
    hkeyed (isFitName_resourceName hname) (semicolon_not_mem_resourceName hname) hname

theorem exists_namesIn_post :
    ∃ created, post entity = .ok created ∧ namesIn created = ["data", "sqlClient", "inserted"] := by
  have htext := isStatements_post (isFitName_constantName hname)
    (isFitName_of_isName (isName_insertName hname)) (fits_projection hkeys)
  exact exists_namesIn_withBody htext (declares_postBody hname hkeys hkeyed) _ rfl

theorem exists_namesIn_put : ∃ updated, put entity = .ok updated ∧
    namesIn updated = keyNames entity ++ ["value", "sqlClient"] := by
  have htext := isStatements_put (isFitName_constantName hname) (isFitName_resourceName hname) hkeys
  obtain ⟨updated, hbuilt, hnames⟩ : ∃ updated, put entity = .ok updated ∧ namesIn updated =
      pathParams (.resource "put" (recordPath entity)) ++ ["value"] ++ ["sqlClient"] :=
    exists_namesIn_withBody htext (declares_putBody hname hkeys hkeyed) _ rfl
  rw [pathParams_recordPath, List.append_assoc] at hnames
  exact ⟨updated, hbuilt, hnames⟩

theorem exists_namesIn_delete : ∃ deleted, delete entity = .ok deleted ∧
    namesIn deleted = keyNames entity ++ ["result", "sqlClient"] := by
  have htext := isStatements_delete (isFitName_constantName hname) (isFitName_resourceName hname)
    hkeys (isFitName_of_isName hname)
  obtain ⟨deleted, hbuilt, hnames⟩ : ∃ deleted, delete entity = .ok deleted ∧ namesIn deleted =
      pathParams (.resource "delete" (recordPath entity)) ++ [] ++ ["result", "sqlClient"] :=
    exists_namesIn_withBody htext (declares_deleteBody hname hkeys hkeyed) _ rfl
  rw [pathParams_recordPath, List.append_nil] at hnames
  exact ⟨deleted, hbuilt, hnames⟩

end Entity

/-- **When a resource function declares a name twice.**  For an entity with different names
for its fields, the functions on all records declare no name twice.  Those on one record
declare none twice exactly when no key is named as the parameter or as a variable of the
function. -/
theorem namesIn_nodup_iff (datasource : Datasource) {entity : Entity} (hname : IsName entity.name)
    (hkeys : ∀ key ∈ entity.keyFields, IsName key.name) (hkeyed : entity.keyFields ≠ [])
    (hdistinct : (entity.fields.map Field.name).Nodup) :
    ∃ all one created updated deleted,
      resourceFunctions datasource.policy entity = .ok [all, one, created, updated, deleted] ∧
      (namesIn all).Nodup ∧
      ((namesIn one).Nodup ↔ "targetType" ∉ keyNames entity) ∧
      (namesIn created).Nodup ∧
      ((namesIn updated).Nodup ↔ "value" ∉ keyNames entity ∧ "sqlClient" ∉ keyNames entity) ∧
      ((namesIn deleted).Nodup ↔
        "result" ∉ keyNames entity ∧ "sqlClient" ∉ keyNames entity) := by
  obtain ⟨all, hall, hallNames⟩ := exists_namesIn_getAll datasource entity
  obtain ⟨one, hone, honeNames⟩ := exists_namesIn_getOne datasource entity
  obtain ⟨created, hcreated, hcreatedNames⟩ := exists_namesIn_post hname hkeys hkeyed
  obtain ⟨updated, hupdated, hupdatedNames⟩ := exists_namesIn_put hname hkeys hkeyed
  obtain ⟨deleted, hdeleted, hdeletedNames⟩ := exists_namesIn_delete hname hkeys hkeyed
  have hdistinct : (keyNames entity).Nodup :=
    hdistinct.sublist (List.filter_sublist.map Field.name)
  -- different keys in front of different names clash only with one of these
  have hbehind : ∀ names : List String, names.Nodup →
      ((keyNames entity ++ names).Nodup ↔ ∀ name ∈ names, name ∉ keyNames entity) := by
    intro names hnames
    rw [List.nodup_append, and_iff_right hdistinct, and_iff_right hnames]
    exact ⟨fun h name hmem hkey => h name hkey name hmem rfl,
      fun h key hkey name hmem hsame => h name hmem (hsame ▸ hkey)⟩
  refine ⟨all, one, created, updated, deleted, ?_, ?_, ?_, ?_, ?_, ?_⟩
  · rw [resourceFunctions, hall, hone, hcreated, hupdated, hdeleted]
    rfl
  · rw [hallNames]
    decide
  · rw [honeNames, hbehind _ (by decide)]
    simp
  · rw [hcreatedNames]
    decide
  · rw [hupdatedNames, hbehind _ (by decide)]
    simp
  · rw [hdeletedNames, hbehind _ (by decide)]
    simp

/-- The functions of an entity with two keys declare no name twice. -/
theorem namesIn_nodup_orderItem :
    ∃ functions, resourceFunctions Datasource.mysql.policy orderItem = .ok functions ∧
      functions.length = 5 ∧ ∀ function ∈ functions, (namesIn function).Nodup := by
  obtain ⟨all, one, created, updated, deleted, hfunctions, hall, hone, hcreated, hupdated,
    hdeleted⟩ := namesIn_nodup_iff .mysql (show IsName orderItem.name by decide +kernel)
      (show ∀ key ∈ orderItem.keyFields, IsName key.name by decide +kernel) (by decide) (by decide)
  refine ⟨_, hfunctions, rfl, ?_⟩
  simp only [List.forall_mem_cons]
  exact ⟨hall, hone.mpr (by decide), hcreated, hupdated.mpr (by decide), hdeleted.mpr (by decide),
    by simp⟩

/-- An entity whose key is named as the parameter of an update. -/
def valueEntity : Entity := ⟨"E", none, [⟨"value", .int, true, false, true⟩], []⟩

/-- The update of an entity declares the name of its key again. -/
theorem value_is_declared_twice :
    IsName valueEntity.name ∧ (∀ key ∈ valueEntity.keyFields, IsName key.name) ∧
      valueEntity.keyFields ≠ [] ∧ (valueEntity.fields.map Field.name).Nodup ∧
      ∃ updated, put valueEntity = .ok updated ∧ ¬ (namesIn updated).Nodup := by
  have hname : IsName valueEntity.name := by decide +kernel
  have hkeys : ∀ key ∈ valueEntity.keyFields, IsName key.name := by decide +kernel
  have hkeyed : valueEntity.keyFields ≠ [] := by decide
  obtain ⟨updated, hupdated, hnames⟩ := exists_namesIn_put hname hkeys hkeyed
  refine ⟨hname, hkeys, hkeyed, by decide, updated, hupdated, ?_⟩
  rw [hnames]
  decide

end PersistLayer.Client
