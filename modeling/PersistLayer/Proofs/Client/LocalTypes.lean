import PersistLayer.Proofs.Client.Locals

/-!
# The types of the variables in a body

Three bodies declare variables: an SQL client in each of them, the records that an insertion
goes through, and the record that a deletion returns.  Here the type of a variable is read
off the words of the body: they are those directly in front of its name
(`TypesLocal`).  So the two types of the data model that stand in a body are found where they
are written, whatever the entity and its keys are called (`hasLocals_post`,
`hasLocals_put`, `hasLocals_delete`).
-/

namespace PersistLayer.Client

open Schema Syntax

/-! ## Variables and their types -/

/-- A variable is declared among some words: its type stands in front of its name. -/
def TypesLocal (words : List Word) (type name : String) : Prop :=
  wordsOf type ++ [(.identifier, name)] <:+: words

/-- The variables that a body declares, in order, each behind its type.  There are no others. -/
structure HasLocals (function : FunctionDef) (locals : List (String × String)) : Prop where
  names : localsIn (bodyWords function) = locals.map Prod.snd
  types : ∀ type name, (type, name) ∈ locals → TypesLocal (bodyWords function) type name

/-- A built function declares what its text declares, and its words are those of the text. -/
theorem locals_withBody {text fragment : String} {names : List String}
    {function built : FunctionDef} (hbuilt : withBody fragment text function = .ok built)
    (hempty : function.body = .block [])
    (hdeclares : Declares (.clean, .start) (.word, .start) text names) :
    bodyWords built = wordsOf text ∧ localsIn (bodyWords built) = names := by
  obtain ⟨words, hwording, -, hdeclared⟩ := hdeclares
  rw [bodyWords_withBody hbuilt hempty hwording]
  exact ⟨hwording.wordsOf_eq.symm, hdeclared⟩

/-! ## Bodies -/

section Bodies

variable {constant : String} (hconstant : IsFitName constant)

include hconstant

/-- The lines that fetch the SQL client begin with its declaration. -/
theorem exists_wording_sqlClient :
    ∃ words, LinesWording (Body.sqlClientLines constant) words ∧
      TypesLocal words "psql:SQLClient" "sqlClient" := by
  have hclient : Wording .clean .word "psql:SQLClient sqlClient;"
      (wordsOf "psql:SQLClient" ++ [(.identifier, "sqlClient"), mark ";"]) :=
    wording_of_fixed (by rfl)
  have hlock : Wording .clean .word "lock \x7b" (wordsOf "lock \x7b") := wording_of_fixed (by rfl)
  have hget : Wording .clean .clean "    sqlClient = self.persistClients.get("
      (wordsOf "    sqlClient = self.persistClients.get(") := wording_of_fixed (by rfl)
  have hend : Wording .word .word ");" (wordsOf ");") := wording_of_fixed (by rfl)
  have hclose : Wording .clean .word "\x7d" (wordsOf "\x7d") := wording_of_fixed (by rfl)
  have hline := (hget.append hconstant.wording).append hend
  refine ⟨_, .cons hclient (.cons hlock (.cons hline (.cons hclose .nil))), ?_⟩
  have hfirst : wordsOf "psql:SQLClient" ++ [(.identifier, "sqlClient")] <+:
      wordsOf "psql:SQLClient" ++ [(.identifier, "sqlClient"), mark ";"] := ⟨[mark ";"], by simp⟩
  exact (hfirst.trans (List.prefix_append _ _)).isInfix

variable {keys : List Field} (hkeys : ∀ key ∈ keys, IsName key.name) (hkeyed : keys ≠ [])

include hkeys hkeyed

/-- An insertion goes through records of the type that it is written with. -/
theorem typesLocal_post {insertType : String} (hinsert : IsName insertType) :
    let words := wordsOf (Body.post constant insertType (Key.projection keys))
    TypesLocal words "psql:SQLClient" "sqlClient" ∧ TypesLocal words insertType "inserted" := by
  obtain ⟨client, hclient, hlocal⟩ := exists_wording_sqlClient hconstant
  obtain ⟨projected, hprojection, -⟩ := passes_projection hkeys hkeyed
  have hquery : Wording .clean .word "_ = check sqlClient.runBatchInsertQuery(data);"
      (wordsOf "_ = check sqlClient.runBatchInsertQuery(data);") := wording_of_fixed (by rfl)
  have hfrom : Wording .clean .clean "return from " (wordsOf "return from ") :=
    wording_of_fixed (by rfl)
  have hinserted : Wording .word .word " inserted in data"
      [(.identifier, "inserted"), (.identifier, "in"), (.identifier, "data")] :=
    wording_of_fixed (by rfl)
  have hselect : Wording .clean .clean "    select " (wordsOf "    select ") :=
    wording_of_fixed (by rfl)
  have hend : Wording .word .word ";" (wordsOf ";") := wording_of_fixed (by rfl)
  have hreturn := (hfrom.append (isFitName_of_isName hinsert).wording).append hinserted
  have hlines := LinesWording.append hclient (.cons hquery (.cons hreturn .nil))
  have hall : Wording .clean .word (Body.post constant insertType (Key.projection keys)) _ :=
    hlines.textOfLines ((hselect.append hprojection).append hend)
  dsimp only
  rw [hall.wordsOf_eq, TypesLocal, TypesLocal]
  constructor
  · -- the client is fetched on the first lines
    exact hlocal.trans ((List.prefix_append _ _).trans (List.prefix_append _ _)).isInfix
  · -- the records are named behind the query, in front of the keys that are selected
    refine ⟨client ++ (wordsOf "_ = check sqlClient.runBatchInsertQuery(data);" ++
      wordsOf "return from "), [(.identifier, "in"), (.identifier, "data")] ++
      (wordsOf "    select " ++ projected ++ wordsOf ";"), ?_⟩
    simp only [List.append_assoc, List.cons_append, List.nil_append]

variable {resource : String} (hresource : IsFitName resource) (hplain : ';' ∉ resource.toList)

include hresource hplain

/-- An update has no variable of a type of the data model. -/
theorem typesLocal_put :
    TypesLocal (wordsOf (Body.put constant resource (Key.argument keys) (Key.clientPath keys)))
      "psql:SQLClient" "sqlClient" := by
  obtain ⟨client, hclient, hlocal⟩ := exists_wording_sqlClient hconstant
  obtain ⟨argument, hargument, -⟩ := passes_argument hkeys hkeyed
  obtain ⟨call, hcall, -⟩ := passes_recordCall hkeys hkeyed hresource hplain
  have hquery : Wording .clean .clean "_ = check sqlClient.runUpdateQuery("
      (wordsOf "_ = check sqlClient.runUpdateQuery(") := wording_of_fixed (by rfl)
  have hvalue : Wording .word .word ", value);" (wordsOf ", value);") :=
    wording_of_fixed (by rfl)
  have hreturn : Wording .clean .slash "return self->/" (wordsOf "return self->/") :=
    wording_of_fixed (by rfl)
  have hline := (hquery.append hargument).append hvalue
  have hall := (LinesWording.append hclient (.cons hline .nil)).textOfLines (hreturn.append hcall)
  have htext : Body.put constant resource (Key.argument keys) (Key.clientPath keys) = textOfLines
      ((Body.sqlClientLines constant ++
        ["_ = check sqlClient.runUpdateQuery(" ++ Key.argument keys ++ ", value);"]) ++
        ["return self->/" ++ (resource ++ "/" ++ Key.clientPath keys ++ ".get();")]) := by
    simp only [Body.put, List.append_assoc, List.cons_append, List.nil_append, String.append_assoc]
  rw [htext, hall.wordsOf_eq]
  exact hlocal.trans ((List.prefix_append _ _).trans (List.prefix_append _ _)).isInfix

/-- A deletion begins with the record that it returns. -/
theorem typesLocal_delete {entity : String} (hentity : IsName entity) :
    let words := wordsOf (Body.delete entity constant resource (Key.argument keys)
      (Key.clientPath keys))
    TypesLocal words entity "result" ∧ TypesLocal words "psql:SQLClient" "sqlClient" := by
  obtain ⟨client, hclient, hlocal⟩ := exists_wording_sqlClient hconstant
  obtain ⟨argument, hargument, -⟩ := passes_argument hkeys hkeyed
  obtain ⟨call, hcall, -⟩ := passes_recordCall hkeys hkeyed hresource hplain
  have hresult : Wording .word .slash " result = check self->/"
      ([(.identifier, "result")] ++ wordsOf "= check self->/") := wording_of_fixed (by rfl)
  have hquery : Wording .clean .clean "_ = check sqlClient.runDeleteQuery("
      (wordsOf "_ = check sqlClient.runDeleteQuery(") := wording_of_fixed (by rfl)
  have hend : Wording .word .word ");" (wordsOf ");") := wording_of_fixed (by rfl)
  have hreturn : Wording .clean .word "return result;" (wordsOf "return result;") :=
    wording_of_fixed (by rfl)
  have hfirst := ((isFitName_of_isName hentity).wording.append hresult).append hcall
  have hline := (hquery.append hargument).append hend
  have hall := (LinesWording.cons hfirst
    (LinesWording.append hclient (.cons hline .nil))).textOfLines hreturn
  have htext : Body.delete entity constant resource (Key.argument keys) (Key.clientPath keys) =
      textOfLines (((entity ++ " result = check self->/" ++
            (resource ++ "/" ++ Key.clientPath keys ++ ".get();")) ::
          (Body.sqlClientLines constant ++
            ["_ = check sqlClient.runDeleteQuery(" ++ Key.argument keys ++ ");"])) ++
        ["return result;"]) := by
    simp only [Body.delete, List.append_assoc, List.cons_append, List.nil_append,
      String.append_assoc]
  dsimp only
  rw [htext, hall.wordsOf_eq, TypesLocal, TypesLocal]
  constructor
  · -- the declaration of the record is the first thing in the body
    refine ⟨[], wordsOf "= check self->/" ++ call ++ (client ++
      (wordsOf "_ = check sqlClient.runDeleteQuery(" ++ argument ++ wordsOf ");")) ++
        wordsOf "return result;", ?_⟩
    simp only [List.append_assoc, List.nil_append, List.append_nil]
  · -- behind the first line the client is fetched
    refine hlocal.trans (List.IsInfix.trans ?_ (List.prefix_append _ _).isInfix)
    exact (List.prefix_append _ _).isInfix.trans (List.suffix_append _ _).isInfix

end Bodies

/-! ## Functions -/

section Entity

variable {entity : Entity} (hname : IsName entity.name)
  (hkeys : ∀ key ∈ entity.keyFields, IsName key.name) (hkeyed : entity.keyFields ≠ [])

include hname hkeys hkeyed

theorem hasLocals_post {created : FunctionDef} (hcreated : post entity = .ok created) :
    HasLocals created
      [("psql:SQLClient", "sqlClient"), (entity.name ++ "Insert", "inserted")] := by
  obtain ⟨hwords, hnames⟩ := locals_withBody hcreated rfl (declares_postBody hname hkeys hkeyed)
  obtain ⟨hclient, hinserted⟩ := typesLocal_post (isFitName_constantName hname) hkeys hkeyed
    (isName_insertName hname)
  refine ⟨hnames, ?_⟩
  rw [hwords]
  simp only [List.mem_cons, Prod.mk.injEq, List.not_mem_nil, or_false]
  rintro _ _ (⟨rfl, rfl⟩ | ⟨rfl, rfl⟩)
  · exact hclient
  · exact hinserted

theorem hasLocals_put {updated : FunctionDef} (hupdated : put entity = .ok updated) :
    HasLocals updated [("psql:SQLClient", "sqlClient")] := by
  obtain ⟨hwords, hnames⟩ := locals_withBody hupdated rfl (declares_putBody hname hkeys hkeyed)
  refine ⟨hnames, ?_⟩
  rw [hwords]
  simp only [List.mem_singleton, Prod.mk.injEq]
  rintro _ _ ⟨rfl, rfl⟩
  exact typesLocal_put (isFitName_constantName hname) hkeys hkeyed (isFitName_resourceName hname)
    (semicolon_not_mem_resourceName hname)

theorem hasLocals_delete {deleted : FunctionDef} (hdeleted : delete entity = .ok deleted) :
    HasLocals deleted [(entity.name, "result"), ("psql:SQLClient", "sqlClient")] := by
  obtain ⟨hwords, hnames⟩ := locals_withBody hdeleted rfl (declares_deleteBody hname hkeys hkeyed)
  obtain ⟨hresult, hclient⟩ := typesLocal_delete (isFitName_constantName hname) hkeys hkeyed
    (isFitName_resourceName hname) (semicolon_not_mem_resourceName hname) hname
  refine ⟨hnames, ?_⟩
  rw [hwords]
  simp only [List.mem_cons, Prod.mk.injEq, List.not_mem_nil, or_false]
  rintro _ _ (⟨rfl, rfl⟩ | ⟨rfl, rfl⟩)
  · exact hresult
  · exact hclient

end Entity

end PersistLayer.Client
