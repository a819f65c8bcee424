import PersistLayer.Proofs.Client.Functions
import PersistLayer.Proofs.Snippet.Sentences

/-!
# The statements of the functions on records

The bodies of the functions that create, update and delete records are sentences below each
other, whatever the names in them are.  So each function holds just the statements that its
body is written with, in the same order and with the same lines.

The argument that identifies a record may have braces in it, and so may not stand in a line
that is read by its semicolon alone.  It stands in parentheses, and what is in parentheses
ends no statement.
-/

namespace PersistLayer.Client

open Schema Syntax

/-! ## Characters of names and keys -/

theorem IsFitName.not_mem {name : String} (hname : IsFitName name) {c : Char}
    (hc : c.toNat ∈ unfitCodes) : c ∉ name.toList :=
  fun hmem => hname.2 c hmem hc

/-- A fit name that holds no semicolon ends neither a statement nor a line. -/
theorem IsFitName.all_isInner {name : String} (hname : IsFitName name)
    (hsemicolon : ';' ∉ name.toList) : name.toList.all isInner = true := by
  rw [List.all_eq_true]
  intro c hc
  have hbrace : c ≠ '\x7d' := ne_of_mem_of_not_mem hc (hname.not_mem (by decide +kernel))
  have hfeed : c ≠ '\n' := ne_of_mem_of_not_mem hc (hname.not_mem (by decide +kernel))
  have hliteral : c ≠ backtick := ne_of_mem_of_not_mem hc (hname.not_mem (by decide +kernel))
  have hend : c ≠ ';' := ne_of_mem_of_not_mem hc hsemicolon
  simp [isInner, hbrace, hfeed, hliteral, hend]

theorem not_mem_of_isName {name : String} (hname : IsName name) {c : Char}
    (hc : isIdentifierChar c = false) : c ∉ name.toList := by
  intro hmem
  rw [hname.2 c hmem] at hc
  cases hc

theorem all_isInner_of_isName {name : String} (hname : IsName name) :
    name.toList.all isInner = true :=
  (isFitName_of_isName hname).all_isInner (not_mem_of_isName hname (by decide))

theorem all_isInner_quotedName {name : String} (hname : IsName name) :
    (quotedName name).toList.all isInner = true :=
  List.all_eq_true.mpr
    (forall_mem_quotedName (by decide) (List.all_eq_true.mp (all_isInner_of_isName hname)))

theorem all_isInner_resourceName {entity : Entity} (hname : IsName entity.name) :
    entity.resourceName.toList.all isInner = true :=
  (isFitName_resourceName hname).all_isInner (semicolon_not_mem_resourceName hname)

section Keys

variable {keys : List Field} (hkeys : ∀ key ∈ keys, IsName key.name)

include hkeys

theorem all_isInner_projection : (Key.projection keys).toList.all isInner = true := by
  have hinserted : ∀ key ∈ keys,
      ("inserted." ++ quotedName key.name).toList.all isInner = true := by
    intro key hkey
    rw [String.toList_append, List.all_append, all_isInner_quotedName (hkeys key hkey)]
    rfl
  have hmany : ("[" ++ ", ".intercalate (keys.map fun key => "inserted." ++ quotedName key.name) ++
      "]").toList.all isInner = true := by
    rw [String.toList_append, String.toList_append, List.all_append, List.all_append,
      @all_isInner_intercalate ", " rfl _ (by simpa using hinserted)]
    rfl
  unfold Key.projection
  split
  · exact hinserted _ List.mem_cons_self
  · exact hmany

/-- The argument is written with the names of the keys and with a few marks. -/
theorem not_mem_argument {c : Char} (hc : isInner c = false) (hmark : c ∉ "\x7b\": ,\x7d".toList) :
    c ∉ (Key.argument keys).toList := by
  have hquoted : ∀ key ∈ keys, c ∉ (quotedName key.name).toList := fun key hkey =>
    not_mem_of_isInner (all_isInner_quotedName (hkeys key hkey)) hc
  have hentry : ∀ key ∈ keys,
      c ∉ (stringLiteral key.name ++ ": " ++ quotedName key.name).toList := by
    intro key hkey
    have hname := not_mem_of_isInner (all_isInner_of_isName (hkeys key hkey)) hc
    rw [(isFitName_of_isName (hkeys key hkey)).stringLiteral_eq]
    simp_all
  have hmany : c ∉ ("\x7b" ++ ", ".intercalate (keys.map fun key =>
      stringLiteral key.name ++ ": " ++ quotedName key.name) ++ "\x7d").toList := by
    have hentries := @not_mem_intercalate ", " _ c (by simp_all)
      (List.forall_mem_map.mpr hentry)
    simp_all
  unfold Key.argument
  split
  · exact hquoted _ List.mem_cons_self
  · exact hmany

end Keys

/-! ## Statements of the bodies -/

/-- Lines that are one statement and do not carry on what stands above them. -/
def StandsAlone (lines : List String) : Prop :=
  IsSentence lines ∧ BeginsAnew (textOfLines lines)

/-- A body is read as its statements if each below the first stands alone. -/
theorem statementsIn_of_standsAlone {first : List String} {others : List (List String)}
    (hfirst : IsSentence first) (hothers : ∀ lines ∈ others, StandsAlone lines) :
    statementsIn (textOfLines (first :: others).flatten) =
      .ok ((first :: others).map Snippet.ofLines) := by
  apply statementsIn_of_sentences (List.cons_ne_nil first others)
  · rw [List.forall_mem_cons]
    exact ⟨hfirst, fun lines hlines => (hothers lines hlines).1⟩
  · exact fun lines hlines => (hothers lines hlines).2

/-- A line that is fixed at its beginning begins anew as what it begins with. -/
theorem beginsAnew_of_line {front : String} {first : Token} {others : List Token}
    (hfront : tokensIn (Scanner.initial.emits front.toList) = first :: others)
    (hfirst : first.isWordIn clauseKeywords = false) (back : String) (rest : List String) :
    BeginsAnew (textOfLines ((front ++ back) :: rest)) := by
  by_cases hrest : rest = []
  · subst hrest
    rw [textOfLines_singleton]
    exact beginsAnew_of_prefix hfront hfirst back
  · rw [textOfLines_cons hrest, String.append_assoc, String.append_assoc]
    exact beginsAnew_of_prefix hfront hfirst _

/-- **Lines with something in brackets are a statement** if only the last token behind the
brackets ends one. -/
theorem isSentence_enclosed {lines : List String} {opener : Char} {form : Form}
    {head inner tail : String} (htext : textOfLines lines = head ++ inner ++ tail)
    (hhead : OpensOne opener form head) (htail : ClosesOne opener form tail)
    (hopen : Fits [] [.bracket opener] head) (hinner : Fits [] [] inner)
    (hclose : Fits [.bracket opener] [] tail)
    (hbegins : BeginsVisibly head)
    (hlines : ∀ line ∈ lines, '\n' ∉ line.toList ∧ backtick ∉ line.toList ∧ EndsVisibly line) :
    IsSentence lines := by
  refine ⟨?_, ?_, ?_, ?_, ?_, ?_⟩
  · rw [htext]
    exact (fits_enclosed opener hopen hinner hclose).turns
  · rw [htext]
    exact isOne_enclosed hhead hinner.turns htail
  · exact not_mem_intercalate (by decide) fun line hline => (hlines line hline).2.1
  · rw [htext]
    exact (hbegins.append _).append _
  · exact fun line hline => (hlines line hline).1
  · exact fun line hline => (hlines line hline).2.2

/-- The statements that fetch the SQL client: its declaration, and a block that locks the client
while it is read. -/
def sqlClientSentences (constant : String) : List (List String) :=
  [["psql:SQLClient sqlClient;"],
    ["lock \x7b", "    sqlClient = self.persistClients.get(" ++ constant ++ ");", "\x7d"]]

theorem standsAlone_declaration : StandsAlone ["psql:SQLClient sqlClient;"] := by
  have hline : IsLine "psql:SQLClient sqlClient;" :=
    ⟨neutral_of_run rfl, ⟨"psql:SQLClient sqlClient", rfl, rfl⟩,
      ⟨'p', _, rfl, by decide, by decide⟩⟩
  exact ⟨hline.isSentence, @beginsAnew_of_line "psql:SQLClient sqlClient;" _ _ rfl rfl "" []⟩

theorem standsAlone_lock {constant : String} (hconstant : IsFitName constant) : StandsAlone
    ["lock \x7b", "    sqlClient = self.persistClients.get(" ++ constant ++ ");", "\x7d"] := by
  have hfeed : '\n' ∉ constant.toList := hconstant.not_mem (by decide +kernel)
  have hliteral : backtick ∉ constant.toList := hconstant.not_mem (by decide +kernel)
  have hbreak : Fits [] [] "\n" := fits_neutral rfl rfl
  have hget : Fits [] [] ("    sqlClient = self.persistClients.get(" ++ constant ++ ");") :=
    fits_enclosed '(' (fits_of_run rfl rfl) hconstant.fits (fits_of_run rfl rfl)
  have hinner := (hbreak.append hget).append hbreak
  have hopens : OpensOne '\x7b' .block "lock \x7b" := ⟨rfl, rfl, rfl⟩
  have hcloses : ClosesOne '\x7b' .block "\x7d" :=
    ⟨by rintro _ ⟨rfl⟩; decide, fun _ _ => ⟨[], _, .block, rfl, rfl, rfl⟩⟩
  refine ⟨isSentence_enclosed ?_ hopens hcloses (fits_of_run rfl rfl) hinner (fits_of_run rfl rfl)
    ⟨'l', _, rfl, by decide, by decide⟩ ?_, ?_⟩
  · rw [textOfLines_cons (by simp), textOfLines_cons (by simp), textOfLines_singleton]
    simp only [String.append_assoc]
  · -- no line holds a line feed or a backtick, and each ends visibly
    rw [List.forall_mem_cons, List.forall_mem_cons, List.forall_mem_singleton]
    refine ⟨⟨by decide, by decide, '\x7b', rfl, by decide⟩, ⟨?_, ?_, ';', ?_, by decide⟩,
      ⟨by decide, by decide, '\x7d', rfl, by decide⟩⟩
    · simp [hfeed]
    · simpa [backtick] using hliteral
    · exact getLast?_append_eq rfl
  · exact @beginsAnew_of_line "lock \x7b" _ _ rfl rfl "" _

section Keys

variable {keys : List Field} (hkeys : ∀ key ∈ keys, IsName key.name)

include hkeys

/-- A query for one record is a statement, whatever its keys are called. -/
theorem standsAlone_query {head tail : String} {first : Token} {others : List Token}
    (hhead : OpensOne '(' .undecided head) (htail : ClosesOne '(' .undecided tail)
    (hopen : Fits [] [.bracket '('] head) (hclose : Fits [.bracket '('] [] tail)
    (hbegins : BeginsVisibly head) (hends : EndsVisibly tail)
    (hfeed : '\n' ∉ head.toList ∧ '\n' ∉ tail.toList)
    (hliteral : backtick ∉ head.toList ∧ backtick ∉ tail.toList)
    (htokens : tokensIn (Scanner.initial.emits head.toList) = first :: others)
    (hfirst : first.isWordIn clauseKeywords = false) :
    StandsAlone [head ++ Key.argument keys ++ tail] := by
  have hnone : ∀ c, isInner c = false → c ∉ "\x7b\": ,\x7d".toList →
      c ∉ head.toList ∧ c ∉ tail.toList → c ∉ (head ++ Key.argument keys ++ tail).toList := by
    intro c hc hmark hfixed
    have hargument := not_mem_argument hkeys hc hmark
    simp [hfixed, hargument]
  refine ⟨isSentence_enclosed (textOfLines_singleton _) hhead htail hopen (fits_argument hkeys)
    hclose hbegins ?_, ?_⟩
  · rw [List.forall_mem_singleton]
    exact ⟨hnone '\n' (by decide) (by decide) hfeed,
      hnone backtick (by decide) (by decide) hliteral, endsVisibly_append _ hends⟩
  · rw [String.append_assoc]
    exact beginsAnew_of_line htokens hfirst _ _

theorem standsAlone_update : StandsAlone
    ["_ = check sqlClient.runUpdateQuery(" ++ Key.argument keys ++ ", value);"] := by
  have hcloses : ClosesOne '(' .undecided ", value);" :=
    ⟨by rintro _ ⟨rfl⟩; decide, fun _ _ => ⟨[_, _, _], _, .undecided, rfl, rfl, rfl⟩⟩
  exact standsAlone_query hkeys ⟨rfl, rfl, rfl⟩ hcloses (fits_of_run rfl rfl) (fits_of_run rfl rfl)
    ⟨'_', _, rfl, by decide, by decide⟩ ⟨';', rfl, by decide⟩ (by decide) (by decide) rfl rfl

theorem standsAlone_deletion :
    StandsAlone ["_ = check sqlClient.runDeleteQuery(" ++ Key.argument keys ++ ");"] := by
  have hcloses : ClosesOne '(' .undecided ");" :=
    ⟨by rintro _ ⟨rfl⟩; decide, fun _ _ => ⟨[_], _, .undecided, rfl, rfl, rfl⟩⟩
  exact standsAlone_query hkeys ⟨rfl, rfl, rfl⟩ hcloses (fits_of_run rfl rfl) (fits_of_run rfl rfl)
    ⟨'_', _, rfl, by decide, by decide⟩ ⟨';', rfl, by decide⟩ (by decide) (by decide) rfl rfl

end Keys

/-! ## The path that a body calls -/

/-- The path of a record as a body calls it. -/
def calledPath (entity : Entity) : String :=
  "/".intercalate
    (entity.resourceName :: entity.keyFields.map fun key => "[" ++ quotedName key.name ++ "]")

section Record

variable {entity : Entity} (hname : IsName entity.name)
  (hkeys : ∀ key ∈ entity.keyFields, IsName key.name) (hkeyed : entity.keyFields ≠ [])

include hkeyed in
/-- The segments of the keys stand behind the resource. -/
theorem calledPath_eq :
    calledPath entity = entity.resourceName ++ "/" ++ Key.clientPath entity.keyFields := by
  obtain ⟨key, rest, hsplit⟩ := List.exists_cons_of_ne_nil hkeyed
  rw [calledPath, Key.clientPath, hsplit, List.map_cons, String.intercalate_cons_cons]

include hname hkeys in
theorem all_isInner_calledPath : (calledPath entity).toList.all isInner = true := by
  refine all_isInner_intercalate rfl ?_
  rw [List.forall_mem_cons]
  refine ⟨all_isInner_resourceName hname, ?_⟩
  intro text htext
  obtain ⟨key, hkey, rfl⟩ := List.mem_map.mp htext
  rw [String.toList_append, String.toList_append, List.all_append, List.all_append,
    all_isInner_quotedName (hkeys key hkey)]
  rfl

include hname hkeys hkeyed in
/-- A call on the path of a record is a statement on a line of its own. -/
theorem isLine_recordCall {base call : String} (hbase : Fits [] [] base)
    (hcall : call = base ++ "/") (hinner : call.toList.all isInner = true)
    (hbegins : BeginsVisibly call) : IsLine (call ++ calledPath entity ++ ".get();") := by
  have hfits := fits_recordCall hkeys hbase hcall (isFitName_resourceName hname)
  refine ⟨?_, ⟨call ++ calledPath entity ++ ".get()", by simp [String.append_assoc], ?_⟩,
    (hbegins.append _).append _⟩
  · rw [calledPath_eq hkeyed]
    have hneutral : Neutral _ := hfits.turns
    simpa only [String.append_assoc] using hneutral
  · -- the path of a record has inner characters only
    rw [String.toList_append, String.toList_append, List.all_append, List.all_append, hinner,
      all_isInner_calledPath hname hkeys]
    rfl

/-! ## The functions -/

/-- The statements of a function that creates records. -/
def postSentences (entity : Entity) : List (List String) :=
  sqlClientSentences entity.constantName ++
    [["_ = check sqlClient.runBatchInsertQuery(data);"],
      ["return from " ++ DataTypes.insertName entity.name ++ " inserted in data",
        "    select " ++ Key.projection entity.keyFields ++ ";"]]

/-- The statements of a function that updates a record. -/
def putSentences (entity : Entity) : List (List String) :=
  sqlClientSentences entity.constantName ++
    [["_ = check sqlClient.runUpdateQuery(" ++ Key.argument entity.keyFields ++ ", value);"],
      ["return self->/" ++ calledPath entity ++ ".get();"]]

/-- The statements of a function that deletes a record. -/
def deleteSentences (entity : Entity) : List (List String) :=
  [entity.name ++ " result = check self->/" ++ calledPath entity ++ ".get();"] ::
    sqlClientSentences entity.constantName ++
      [["_ = check sqlClient.runDeleteQuery(" ++ Key.argument entity.keyFields ++ ");"],
        ["return result;"]]

include hname hkeys in
/-- The statement that returns the keys of the records, on two lines. -/
theorem standsAlone_projection : StandsAlone
    ["return from " ++ DataTypes.insertName entity.name ++ " inserted in data",
      "    select " ++ Key.projection entity.keyFields ++ ";"] := by
  have hsuffix : IsName "Insert" := ⟨by decide, List.all_eq_true.mp rfl⟩
  have hinsert : IsFitName (DataTypes.insertName entity.name) :=
    (isFitName_of_isName hname).append (isFitName_of_isName hsuffix)
  have hlines := linesFit_select hinsert (fits_projection hkeys)
  refine ⟨@isSentence_of_semicolon ["return from " ++ DataTypes.insertName entity.name ++
    " inserted in data"] ("    select " ++ Key.projection entity.keyFields) hlines.fits.turns
      ?_ ?_ ?_, ?_⟩
  · rw [List.singleton_append, List.forall_mem_cons, List.forall_mem_singleton]
    refine ⟨?_, ?_⟩
    · rw [DataTypes.insertName]
      simp only [String.toList_append, List.all_append, all_isInner_of_isName hname]
      rfl
    · rw [String.toList_append, List.all_append, all_isInner_projection hkeys]
      rfl
  · have hreturn : BeginsVisibly "return from " := ⟨'r', _, rfl, by decide, by decide⟩
    exact ((hreturn.append _).append _).textOfLines _
  · rw [List.forall_mem_singleton]
    exact endsVisibly_append _ ⟨'a', rfl, by decide⟩
  · rw [String.append_assoc]
    exact beginsAnew_of_line rfl rfl _ _

include hname hkeys in
theorem statementsIn_post :
    statementsIn (Body.post entity.constantName (DataTypes.insertName entity.name)
      (Key.projection entity.keyFields)) = .ok ((postSentences entity).map Snippet.ofLines) := by
  have hline : IsLine "_ = check sqlClient.runBatchInsertQuery(data);" :=
    ⟨neutral_of_run rfl, ⟨"_ = check sqlClient.runBatchInsertQuery(data)", rfl, rfl⟩,
      ⟨'_', _, rfl, by decide, by decide⟩⟩
  have hquery : StandsAlone ["_ = check sqlClient.runBatchInsertQuery(data);"] :=
    ⟨hline.isSentence,
      @beginsAnew_of_line "_ = check sqlClient.runBatchInsertQuery(data);" _ _ rfl rfl "" []⟩
  have htext : Body.post entity.constantName (DataTypes.insertName entity.name)
      (Key.projection entity.keyFields) = textOfLines (postSentences entity).flatten := by
    simp [Body.post, Body.sqlClientLines, postSentences, sqlClientSentences]
  rw [htext, postSentences, sqlClientSentences, List.cons_append, List.cons_append, List.nil_append]
  refine statementsIn_of_standsAlone standsAlone_declaration.1 ?_
  simp only [List.forall_mem_cons]
  exact ⟨standsAlone_lock (isFitName_constantName hname), hquery,
    standsAlone_projection hname hkeys, List.forall_mem_nil _⟩

include hname hkeys hkeyed

theorem statementsIn_put :
    statementsIn (Body.put entity.constantName entity.resourceName
      (Key.argument entity.keyFields) (Key.clientPath entity.keyFields)) =
        .ok ((putSentences entity).map Snippet.ofLines) := by
  have hreturn : Fits [] [] "return self->" := fits_neutral rfl rfl
  have hline := isLine_recordCall hname hkeys hkeyed hreturn rfl (by rfl)
    ⟨'r', _, rfl, by decide, by decide⟩
  have hcall : StandsAlone ["return self->/" ++ calledPath entity ++ ".get();"] := by
    refine ⟨hline.isSentence, ?_⟩
    rw [String.append_assoc]
    exact beginsAnew_of_line rfl rfl _ []
  have htext : Body.put entity.constantName entity.resourceName (Key.argument entity.keyFields)
      (Key.clientPath entity.keyFields) = textOfLines (putSentences entity).flatten := by
    simp [Body.put, Body.sqlClientLines, putSentences, sqlClientSentences, calledPath_eq hkeyed,
      String.append_assoc]
  rw [htext, putSentences, sqlClientSentences, List.cons_append, List.cons_append, List.nil_append]
  refine statementsIn_of_standsAlone standsAlone_declaration.1 ?_
  simp only [List.forall_mem_cons]
  exact ⟨standsAlone_lock (isFitName_constantName hname), standsAlone_update hkeys, hcall,
    List.forall_mem_nil _⟩

theorem statementsIn_delete :
    statementsIn (Body.delete entity.name entity.constantName entity.resourceName
      (Key.argument entity.keyFields) (Key.clientPath entity.keyFields)) =
        .ok ((deleteSentences entity).map Snippet.ofLines) := by
  have hentity := isFitName_of_isName hname
  have hresult : Fits [] [] " result = check self->" := fits_neutral rfl rfl
  -- the line begins with the name of the entity, which begins with no blank and no slash
  have hread : IsLine (entity.name ++ " result = check self->/" ++ calledPath entity ++
      ".get();") := by
    refine isLine_recordCall hname hkeys hkeyed (hentity.fits.append hresult)
      (by rw [String.append_assoc]; rfl) ?_ ?_
    · rw [String.toList_append, List.all_append, all_isInner_of_isName hname]
      rfl
    · obtain ⟨c, rest, hfirst⟩ := List.exists_cons_of_ne_nil
        (show entity.name.toList ≠ [] by simpa using hname.1)
      have hc := hentity.2 c (by simp [hfirst])
      refine BeginsVisibly.append ⟨c, rest, hfirst, hc.isBlank, ?_⟩ _
      rintro rfl
      exact absurd hc (by unfold IsFit; decide)
  have hreturn : IsLine "return result;" :=
    ⟨neutral_of_run rfl, ⟨"return result", rfl, rfl⟩, ⟨'r', _, rfl, by decide, by decide⟩⟩
  have hlast : StandsAlone ["return result;"] :=
    ⟨hreturn.isSentence, @beginsAnew_of_line "return result;" _ _ rfl rfl "" []⟩
  have htext : Body.delete entity.name entity.constantName entity.resourceName
      (Key.argument entity.keyFields) (Key.clientPath entity.keyFields) =
        textOfLines (deleteSentences entity).flatten := by
    simp [Body.delete, Body.sqlClientLines, deleteSentences, sqlClientSentences,
      calledPath_eq hkeyed, String.append_assoc]
  rw [htext, deleteSentences, sqlClientSentences, List.cons_append, List.cons_append,
    List.cons_append, List.nil_append]
  refine statementsIn_of_standsAlone hread.isSentence ?_
  simp only [List.forall_mem_cons]
  exact ⟨standsAlone_declaration, standsAlone_lock (isFitName_constantName hname),
    standsAlone_deletion hkeys, hlast, List.forall_mem_nil _⟩

omit hkeyed in
/-- **The function that creates records.** -/
theorem post_eq : post entity = .ok
    ⟨resourceQualifiers, .resource "post" (collectionPath entity),
      [⟨.array (.plain (DataTypes.insertName entity.name)), "data", none⟩],
      some ((TypeDesc.array (Key.type entity.keyFields)).or persistError),
      .block ((postSentences entity).map Snippet.ofLines)⟩ := by
  rw [post, withBody_eq (statementsIn_post hname hkeys), FunctionDef.withStatements_eq rfl]
  rfl

/-- **The function that updates a record.** -/
theorem put_eq : put entity = .ok
    ⟨resourceQualifiers, .resource "put" (recordPath entity),
      [⟨.plain (DataTypes.updateName entity.name), "value", none⟩],
      some ((TypeDesc.plain entity.name).or persistError),
      .block ((putSentences entity).map Snippet.ofLines)⟩ := by
  rw [put, withBody_eq (statementsIn_put hname hkeys hkeyed), FunctionDef.withStatements_eq rfl]
  rfl

/-- **The function that deletes a record.** -/
theorem delete_eq : delete entity = .ok
    ⟨resourceQualifiers, .resource "delete" (recordPath entity), [],
      some ((TypeDesc.plain entity.name).or persistError),
      .block ((deleteSentences entity).map Snippet.ofLines)⟩ := by
  rw [delete, withBody_eq (statementsIn_delete hname hkeys hkeyed),
    FunctionDef.withStatements_eq rfl]
  rfl

end Record

/-- The function that reads all records. -/
theorem exists_getAll_eq (datasource : Datasource) (entity : Entity) :
    ∃ marking, getAll datasource.policy entity = .ok
      ⟨resourceQualifiers, .resource "get" (collectionPath entity),
        targetParam entity :: clauseParams, some (streamOf targetType), .external marking⟩ := by
  have hmethod : IsName "query" := ⟨by decide, List.all_eq_true.mp rfl⟩
  obtain ⟨marking, -, hbuilt⟩ := exists_external datasource
    (show ∀ name ∈ some "query", IsName name by simpa using hmethod)
    ((FunctionDef.resource "get" (collectionPath entity) resourceQualifiers
      (some (streamOf targetType))).withParams (targetParam entity :: clauseParams))
  exact ⟨marking, hbuilt⟩

/-- The function that reads one record. -/
theorem exists_getOne_eq (datasource : Datasource) (entity : Entity) :
    ∃ marking, getOne datasource.policy entity = .ok
      ⟨resourceQualifiers, .resource "get" (recordPath entity), [targetParam entity],
        some (targetType.or persistError), .external marking⟩ := by
  have hmethod : IsName "queryOne" := ⟨by decide, List.all_eq_true.mp rfl⟩
  obtain ⟨marking, -, hbuilt⟩ := exists_external datasource
    (show ∀ name ∈ some "queryOne", IsName name by simpa using hmethod)
    ((FunctionDef.resource "get" (recordPath entity) resourceQualifiers
      (some (targetType.or persistError))).withParams [targetParam entity])
  exact ⟨marking, hbuilt⟩

end PersistLayer.Client
