import PersistLayer.Proofs.Client.Fragments
import PersistLayer.Proofs.Client.Metadata
import PersistLayer.Proofs.Scopes.Trees

/-!
# The scopes in the texts of a client

The texts that a client is read from name few scopes, and the same ones whatever its
entities, keys and relations are called: names have no colon in them, and what comes from
the data model without being a name stands in string literals.
-/

namespace PersistLayer.Client

open Schema Syntax

/-- All scopes that are read in the text are among those that are given. -/
def NamesOnly (raw : Bool) (scopes : List String) (text : String) : Prop :=
  Reading.idle.scopes raw text.toList ⊆ scopes

section Texts

variable {raw : Bool} {after : Stance} {scopes : List String} {text : String}

theorem namesOnly_of_reads (htext : Reads raw .idle after text scopes) :
    NamesOnly raw scopes text := by
  rw [NamesOnly, htext.scopes_eq .idle rfl]
  exact List.Subset.refl _

theorem namesOnly_of_none (htext : Reads raw .idle after text []) : NamesOnly raw scopes text :=
  List.Subset.trans (namesOnly_of_reads htext) (List.nil_subset _)

theorem NamesOnly.mono (htext : NamesOnly raw scopes text) {more : List String}
    (hsubset : scopes ⊆ more) : NamesOnly raw more text :=
  List.Subset.trans htext hsubset

/-- A fixed text without a colon names nothing. -/
theorem scopes_of_fixed_no_colon (htext : text.toList.contains ':' = false) :
    Reading.idle.scopes raw text.toList = [] := by
  have hcolon : ':' ∉ text.toList := by simpa using htext
  exact Reading.scopes_of_no_colon hcolon (by simp [Reading.idle])

theorem namesOnly_of_no_colon (htext : text.toList.contains ':' = false) :
    NamesOnly raw scopes text := by
  rw [NamesOnly, scopes_of_fixed_no_colon htext]
  exact List.nil_subset _

/-- Lines name what each of them names. -/
theorem namesOnly_textOfLines {lines : List String}
    (hlines : ∀ line ∈ lines, NamesOnly raw scopes line) :
    NamesOnly raw scopes (textOfLines lines) := by
  rw [NamesOnly, scopes_textOfLines]
  intro scope hscope
  obtain ⟨line, hline, hmem⟩ := List.mem_flatMap.mp hscope
  exact hlines line hline hmem

/-- A comma behind a text names nothing. -/
theorem NamesOnly.comma (htext : NamesOnly raw scopes text) :
    NamesOnly raw scopes (text ++ ",") := by
  have hcomma : ∀ reading : Reading, reading.scopes raw ",".toList = [] := by
    have hword : isIdentifierChar ',' = false := by decide
    intro reading
    cases reading with
    | word | colon => simp [Reading.scopes, Reading.step, hword]
    | quoted escaped =>
        cases escaped <;> rfl
  rwa [NamesOnly, String.toList_append, Reading.scopes_append, hcomma, List.append_nil]

theorem namesOnly_withCommas {texts : List String}
    (htexts : ∀ text ∈ texts, NamesOnly raw scopes text) :
    ∀ text ∈ withCommas texts, NamesOnly raw scopes text := by
  induction texts with
  | nil => simp [withCommas]
  | cons text rest ih =>
      obtain ⟨htext, hrest⟩ := List.forall_mem_cons.mp htexts
      cases rest with
      | nil => simpa [withCommas] using htext
      | cons next others =>
          rw [withCommas, List.forall_mem_cons]
          · exact ⟨htext.comma, ih hrest⟩
          · simp

end Texts

/-! ## Names and literals -/

section Pieces

variable {raw : Bool} {before after : Stance} {opening closing name : String}

/-- A name between two fixed texts. -/
theorem reads_nameBetween {scopes : List String} (hname : IsFitName name)
    (hopening : readsFixed raw before .idle opening scopes = true)
    (hclosing : readsFixed raw .loose after closing [] = true) :
    Reads raw before after (opening ++ name ++ closing) scopes :=
  ((reads_of_fixed hopening).ends (reads_plain hname.isPlain)).ends (reads_of_fixed hclosing)

/-- A name between double quotes. -/
theorem reads_quoted (hname : IsFitName name)
    (hopening : readsFixed false before .inside opening [] = true)
    (hclosing : readsFixed false .inside after closing [] = true) :
    Reads false before after (opening ++ name ++ closing) [] := by
  have hinside : ∀ c ∈ name.toList, c ≠ '"' ∧ c ≠ '\\' ∧ c ≠ '\n' := by
    intro c hc
    have hfit := hname.2 c hc
    refine ⟨?_, ?_, ?_⟩ <;>
      · rintro rfl
        revert hfit
        unfold IsFit
        decide
  exact ((reads_of_fixed hopening).leads (reads_inside hinside)).leads (reads_of_fixed hclosing)

theorem reads_literals (values : List String) :
    Reads false .idle .loose (commaList (values.map stringLiteral)) [] := by
  refine reads_intercalate_none (reads_of_fixed rfl) ?_
  intro value _
  exact (reads_stringLiteral value).ofLoose.loosen

end Pieces

/-! ## Keys -/

section Keys

variable {keys : List Field} (hkeys : ∀ key ∈ keys, IsName key.name)

include hkeys

theorem reads_keyName {key : Field} (hkey : key ∈ keys) :
    Reads true .idle .loose (quotedName key.name) [] :=
  reads_plain (isFitName_of_isName (hkeys key hkey)).isPlain.quotedName

theorem reads_argument : Reads true .idle .loose (Key.argument keys) [] := by
  have hopen : Reads true .idle .idle "\x7b" [] := reads_of_fixed rfl
  have hclose : Reads true .loose .loose "\x7d" [] := reads_of_fixed rfl
  have hcolon : Reads true .idle .idle ": " [] := reads_of_fixed rfl
  have hlabel : ∀ key ∈ keys, Reads true .idle .idle (stringLiteral key.name) [] := by
    intro key hkey
    have hname := isFitName_of_isName (hkeys key hkey)
    rw [hname.stringLiteral_eq]
    exact reads_nameBetween hname rfl rfl
  have hmany : Reads true .idle .loose ("\x7b" ++ commaList (keys.map fun key =>
      stringLiteral key.name ++ ": " ++ quotedName key.name) ++ "\x7d") [] := by
    refine (hopen.leads (reads_intercalate_none (reads_of_fixed rfl) ?_)).ends hclose
    intro key hkey
    exact ((hlabel key hkey).leads hcolon).leads (reads_keyName hkeys hkey)
  unfold Key.argument
  split
  · exact reads_keyName hkeys List.mem_cons_self
  · exact hmany

theorem reads_projection : Reads true .idle .loose (Key.projection keys) [] := by
  have hopen : Reads true .idle .idle "[" [] := reads_of_fixed rfl
  have hclose : Reads true .loose .loose "]" [] := reads_of_fixed rfl
  have hinserted : Reads true .idle .idle "inserted." [] := reads_of_fixed rfl
  have hmany : Reads true .idle .loose ("[" ++ commaList (keys.map fun key =>
      "inserted." ++ quotedName key.name) ++ "]") [] := by
    refine (hopen.leads (reads_intercalate_none (reads_of_fixed rfl) ?_)).ends hclose
    intro key hkey
    exact hinserted.leads (reads_keyName hkeys hkey)
  unfold Key.projection
  split
  · exact hinserted.leads (reads_keyName hkeys List.mem_cons_self)
  · exact hmany

theorem reads_clientPath : Reads true .idle .loose (Key.clientPath keys) [] := by
  have hopen : Reads true .idle .idle "[" [] := reads_of_fixed rfl
  have hclose : Reads true .loose .loose "]" [] := reads_of_fixed rfl
  refine reads_intercalate_none (reads_of_fixed rfl) ?_
  intro key hkey
  exact (hopen.leads (reads_keyName hkeys hkey)).ends hclose

end Keys

/-! ## Bodies -/

section Bodies

variable {constant : String} (hconstant : IsFitName constant)

include hconstant

theorem namesOnly_sqlClient : ∀ line ∈ Body.sqlClientLines constant, NamesOnly true ["psql"] line := by
  have hdeclared : Reads true .idle .idle "psql:SQLClient sqlClient;" ["psql"] := reads_of_fixed rfl
  have hget : Reads true .idle .idle
      ("    sqlClient = self.persistClients.get(" ++ constant ++ ");") [] :=
    reads_nameBetween hconstant rfl rfl
  simp only [Body.sqlClientLines, List.forall_mem_cons]
  exact ⟨namesOnly_of_reads hdeclared, namesOnly_of_no_colon rfl, namesOnly_of_none hget,
    namesOnly_of_no_colon rfl, by simp⟩

theorem namesOnly_post {insertType projection : String} (hinsert : IsFitName insertType)
    (hprojection : Reads true .idle .loose projection []) :
    NamesOnly true ["psql"] (Body.post constant insertType projection) := by
  have hreturn : Reads true .idle .loose ("return from " ++ insertType ++ " inserted in data") [] :=
    reads_nameBetween hinsert rfl rfl
  have hselect : Reads true .idle .idle "    select " [] := reads_of_fixed rfl
  have hend : Reads true .loose .idle ";" [] := reads_of_fixed rfl
  refine namesOnly_textOfLines (List.forall_mem_append.mpr ⟨namesOnly_sqlClient hconstant, ?_⟩)
  simp only [List.forall_mem_cons]
  exact ⟨namesOnly_of_no_colon rfl, namesOnly_of_none hreturn,
    namesOnly_of_none ((hselect.leads hprojection).leads hend), by simp⟩

variable {resource : String} (hresource : IsFitName resource) {keys : List Field}
  (hkeys : ∀ key ∈ keys, IsName key.name)

include hresource hkeys

omit hconstant in
/-- A call on the path of a record. -/
theorem reads_recordCall {call : String} {before : Stance}
    (hcall : readsFixed true before .idle call [] = true) :
    Reads true before .idle
      (call ++ resource ++ "/" ++ Key.clientPath keys ++ ".get();") [] := by
  have hget : Reads true .loose .idle ".get();" [] := reads_of_fixed rfl
  have hslash : Reads true before .idle (call ++ resource ++ "/") [] :=
    reads_nameBetween hresource hcall rfl
  exact (hslash.leads (reads_clientPath hkeys)).leads hget

theorem namesOnly_put : NamesOnly true ["psql"]
    (Body.put constant resource (Key.argument keys) (Key.clientPath keys)) := by
  have hopen : Reads true .idle .idle "_ = check sqlClient.runUpdateQuery(" [] := reads_of_fixed rfl
  have hclose : Reads true .loose .idle ", value);" [] := reads_of_fixed rfl
  have hquery := (hopen.leads (reads_argument hkeys)).leads hclose
  have hcall : Reads true .idle .idle
      ("return self->/" ++ resource ++ "/" ++ Key.clientPath keys ++ ".get();") [] :=
    reads_recordCall hresource hkeys rfl
  refine namesOnly_textOfLines (List.forall_mem_append.mpr ⟨namesOnly_sqlClient hconstant, ?_⟩)
  simp only [List.forall_mem_cons]
  exact ⟨namesOnly_of_none hquery, namesOnly_of_none hcall, by simp⟩

theorem namesOnly_delete {entity : String} (hentity : IsFitName entity) :
    NamesOnly true ["psql"] (Body.delete entity constant resource (Key.argument keys)
      (Key.clientPath keys)) := by
  have hopen : Reads true .idle .idle "_ = check sqlClient.runDeleteQuery(" [] := reads_of_fixed rfl
  have hclose : Reads true .loose .idle ");" [] := reads_of_fixed rfl
  have hquery := (hopen.leads (reads_argument hkeys)).leads hclose
  have hname : Reads true .idle .loose entity [] := reads_plain hentity.isPlain
  have hcall : Reads true .loose .idle (" result = check self->/" ++ resource ++ "/" ++
      Key.clientPath keys ++ ".get();") [] :=
    reads_recordCall hresource hkeys rfl
  have hresult := hname.leads hcall
  refine namesOnly_textOfLines (List.forall_mem_append.mpr
    ⟨List.forall_mem_append.mpr ⟨?_, namesOnly_sqlClient hconstant⟩, ?_⟩)
  · rw [List.forall_mem_singleton]
    simpa only [String.append_assoc] using namesOnly_of_none hresult
  · simp only [List.forall_mem_cons]
    exact ⟨namesOnly_of_none hquery, namesOnly_of_no_colon rfl, by simp⟩

end Bodies

theorem namesOnly_close : NamesOnly true ["persist"] Body.close := by
  have hreturn : Reads true .idle .idle "    return <persist:Error>error(result.message());"
      ["persist"] := reads_of_fixed rfl
  refine namesOnly_textOfLines ?_
  simp only [List.forall_mem_cons]
  exact ⟨namesOnly_of_no_colon rfl, namesOnly_of_no_colon rfl, namesOnly_of_reads hreturn,
    namesOnly_of_no_colon rfl, namesOnly_of_no_colon rfl, by simp⟩

/-- The registration of an SQL client names the scope of the SQL dialect. -/
theorem namesOnly_registration (datasource : Datasource) {constant : String}
    (hconstant : IsFitName constant) :
    NamesOnly true ["psql"] (Body.registration datasource.policy.sqlSpecifics
      datasource.policy.hasCustomSchema constant) := by
  have hkey : Reads true .idle .idle
      ("    [" ++ constant ++ "]: check new (dbClient, self.metadata.get(") [] :=
    reads_nameBetween hconstant rfl rfl
  have hname : Reads true .idle .loose constant [] := reads_plain hconstant.isPlain
  have hdialect : Reads true .loose .loose ("), psql:" ++ datasource.policy.sqlSpecifics)
      ["psql"] := by
    cases datasource <;> exact reads_of_fixed rfl
  have hschema : Reads true .loose .loose
      (if datasource.policy.hasCustomSchema then ", defaultSchema" else "") [] := by
    split_ifs
    · exact reads_of_fixed rfl
    · exact reads_empty true .loose
  have hclose : Reads true .loose .idle ")" [] := reads_of_fixed rfl
  have hall := (((hkey.leads hname).leads hdialect).ends hschema).ends hclose
  simpa only [Body.registration, String.append_assoc] using namesOnly_of_reads hall

/-- Opening the connection names the connector as well. -/
theorem namesOnly_init (datasource : Datasource) {constants : List String}
    (hconstants : ∀ constant ∈ constants, IsFitName constant) :
    NamesOnly true [datasource.policy.connectorPrefix, "persist", "psql"]
      (Body.init datasource.policy.clientType (connectArguments datasource.policy.access)
        (withCommas (constants.map
          (Body.registration datasource.policy.sqlSpecifics datasource.policy.hasCustomSchema)))) := by
  have hclient : Reads true .idle .loose datasource.policy.clientType
      [datasource.policy.connectorPrefix] := by
    cases datasource <;> exact reads_of_fixed rfl
  have hnew : Reads true .loose .idle "|error dbClient = new (" [] := reads_of_fixed rfl
  have harguments : Reads true .idle .loose (connectArguments datasource.policy.access) [] := by
    have hplain : ∀ access, (connectArguments access).toList.all
        (fun c => c != ':' && c != '"') = true := by
      intro access
      cases access <;> rfl
    refine reads_plain ?_
    simpa [IsPlain] using hplain datasource.policy.access
  have hend : Reads true .loose .idle ");" [] := reads_of_fixed rfl
  have hconnection := ((hclient.ends hnew).ends harguments).ends hend
  have hreturn : Reads true .idle .idle "    return <persist:Error>error(dbClient.message());"
      ["persist"] := reads_of_fixed rfl
  have hregistrations : ∀ text ∈ constants.map (Body.registration datasource.policy.sqlSpecifics
      datasource.policy.hasCustomSchema), NamesOnly true ["psql"] text := by
    intro text htext
    obtain ⟨constant, hconstant, rfl⟩ := List.mem_map.mp htext
    exact namesOnly_registration datasource (hconstants constant hconstant)
  refine namesOnly_textOfLines
    (List.forall_mem_append.mpr ⟨List.forall_mem_append.mpr ⟨?_, ?_⟩, ?_⟩)
  · -- of the fixed lines only the first and the third name a scope
    simp only [List.forall_mem_cons]
    exact ⟨(namesOnly_of_reads hconnection).mono (by simp), namesOnly_of_no_colon rfl,
      (namesOnly_of_reads hreturn).mono (by simp), namesOnly_of_no_colon rfl,
      namesOnly_of_no_colon rfl, namesOnly_of_no_colon rfl, by simp⟩
  · exact fun text htext => (namesOnly_withCommas hregistrations text htext).mono (by simp)
  · rw [List.forall_mem_singleton]
    exact namesOnly_of_no_colon rfl

/-- The annotation of an external function names the module that marks it. -/
theorem namesOnly_external {processor : String} (hprocessor : IsFitName processor)
    {method : Option String} (hmethod : ∀ name ∈ method, IsFitName name) :
    NamesOnly false ["java"] (Body.external processor method) := by
  have hopen : Reads false .idle .idle "@java:Method \x7b" ["java"] := reads_of_fixed rfl
  cases method with
  | none =>
      have hclass : Reads false .idle .idle ("    'class: \"" ++ processor ++ "\"") [] :=
        reads_quoted hprocessor rfl rfl
      refine namesOnly_textOfLines ?_
      simp only [List.forall_mem_cons]
      exact ⟨namesOnly_of_reads hopen, namesOnly_of_none hclass, namesOnly_of_no_colon rfl, by simp⟩
  | some name =>
      have hclass : Reads false .idle .idle ("    'class: \"" ++ processor ++ "\",") [] :=
        reads_quoted hprocessor rfl rfl
      have hname : Reads false .idle .idle ("    name: \"" ++ name ++ "\"") [] :=
        reads_quoted (hmethod name rfl) rfl rfl
      refine namesOnly_textOfLines ?_
      simp only [List.forall_mem_cons]
      exact ⟨namesOnly_of_reads hopen, namesOnly_of_none hclass, namesOnly_of_none hname,
        namesOnly_of_no_colon rfl, by simp⟩

/-! ## Metadata -/

theorem reads_fieldEntry {entry : FieldEntry} (hname : ∀ name, entry = .column name → IsName name) :
    Reads false .idle .idle ("            " ++ entry.text) [] := by
  have hindent : Reads false .idle .idle "            " [] := reads_of_fixed rfl
  refine hindent.leads ?_
  cases entry with
  | column name =>
      have hkey : Reads false .idle .loose (quotedName name) [] :=
        reads_plain (isFitName_of_isName (hname name rfl)).isPlain.quotedName
      have hopen : Reads false .loose .idle ": \x7bcolumnName: " [] := reads_of_fixed rfl
      have hclose : Reads false .idle .idle "\x7d" [] := reads_of_fixed rfl
      exact ((hkey.leads hopen).leads (reads_stringLiteral name).ofLoose).leads hclose
  | related relation field =>
      have hopen : Reads false .idle .idle ": \x7brelation: \x7bentityName: " [] :=
        reads_of_fixed rfl
      have hnext : Reads false .idle .idle ", refField: " [] := reads_of_fixed rfl
      have hclose : Reads false .idle .idle "\x7d\x7d" [] := reads_of_fixed rfl
      have hkey := (reads_stringLiteral (relation ++ "." ++ field)).ofLoose
      have hrelation := (reads_stringLiteral relation).ofLoose
      have hfield := (reads_stringLiteral field).ofLoose
      exact ((((hkey.leads hopen).leads hrelation).leads hnext).leads hfield).leads hclose

/-- A join names the scope of the kinds of joins. -/
theorem reads_join_text {join : Join} (hjoin : NamedJoin join) :
    Reads false .idle .idle ("            " ++ join.text) ["psql"] := by
  have hindent : Reads false .idle .idle "            " [] := reads_of_fixed rfl
  have hkey : Reads false .idle .loose (quotedName join.relation) [] :=
    reads_plain (isFitName_of_isName hjoin.relation).isPlain.quotedName
  have htarget : Reads false .loose .idle (": \x7bentity: " ++ join.target ++ ", ") [] :=
    reads_nameBetween (isFitName_of_isName hjoin.target) rfl rfl
  have hfield : Reads false .idle .idle ("fieldName: \"" ++ join.relation ++ "\"") [] :=
    reads_quoted (isFitName_of_isName hjoin.relation) rfl rfl
  have htable : Reads false .idle .idle (", refTable: \"" ++ join.targetTable ++
      "\", refColumns: [") [] :=
    reads_quoted (isFitName_of_isName hjoin.targetTable) rfl rfl
  have hnext : Reads false .loose .idle "], joinColumns: [" [] := reads_of_fixed rfl
  have hkind : Reads false .loose .loose ("], 'type: psql:" ++ joinKind join.cardinality)
      ["psql"] := by
    cases join.cardinality <;> exact reads_of_fixed rfl
  have hclose : Reads false .loose .idle "\x7d" [] := reads_of_fixed rfl
  have hcolumns := ((htable.leads (reads_literals join.targetColumns)).leads hnext).leads
    (reads_literals join.ownColumns)
  have hfront := ((hindent.leads hkey).leads htarget).leads hfield
  have hall := ((hfront.leads hcolumns).leads hkind).ends hclose
  -- the texts between two names are cut in two where one reading ends
  have hentity : ", fieldName: \"" = ", " ++ "fieldName: \"" := rfl
  have hquote : "\", refTable: \"" = "\"" ++ ", refTable: \"" := rfl
  simpa only [Join.text, hentity, hquote, String.append_assoc] using hall

theorem namesOnly_joinLines {joins : List Join} (hjoins : ∀ join ∈ joins, NamedJoin join) :
    ∀ line ∈ joinLines joins, NamesOnly false ["psql"] line := by
  have hopen : Reads false .idle .idle "        joinMetadata: \x7b" [] := reads_of_fixed rfl
  have htexts : ∀ text ∈ joins.map fun join => "            " ++ join.text,
      NamesOnly false ["psql"] text := by
    intro text htext
    obtain ⟨join, hjoin, rfl⟩ := List.mem_map.mp htext
    exact namesOnly_of_reads (reads_join_text (hjoins join hjoin))
  unfold joinLines
  split_ifs
  · simp
  · simp only [List.forall_mem_append, List.forall_mem_singleton]
    exact ⟨⟨namesOnly_of_none hopen, namesOnly_withCommas htexts⟩, namesOnly_of_no_colon rfl⟩

theorem namesOnly_description {description : Description} (hnames : NamedDescription description) :
    NamesOnly false ["psql"] description.text := by
  have hconstant : Reads false .idle .idle ("    [" ++ description.constant ++ "]: \x7b") [] :=
    reads_nameBetween hnames.constant rfl rfl
  have hname : Reads false .idle .idle ("        entityName: \"" ++ description.name ++ "\",") [] :=
    reads_quoted (isFitName_of_isName hnames.name) rfl rfl
  have htable : Reads false .idle .idle
      ("        tableName: \"" ++ description.table ++ "\",") [] :=
    reads_quoted (isFitName_of_isName hnames.table) rfl rfl
  have hfields : Reads false .idle .idle "        fieldMetadata: \x7b" [] := reads_of_fixed rfl
  have hentries : ∀ text ∈ description.fields.map fun entry => "            " ++ entry.text,
      NamesOnly false ["psql"] text := by
    intro text htext
    obtain ⟨entry, hentry, rfl⟩ := List.mem_map.mp htext
    exact namesOnly_of_none (reads_fieldEntry fun name h => hnames.columns name (h ▸ hentry))
  have hkeys : Reads false .idle .idle ("        keyFields: [" ++
      commaList (description.keys.map stringLiteral) ++ "]" ++
        (if description.joins.isEmpty then "" else ",")) [] := by
    have hopen : Reads false .idle .idle "        keyFields: [" [] := reads_of_fixed rfl
    have hclose : Reads false .loose .idle "]" [] := reads_of_fixed rfl
    have hcomma : Reads false .idle .idle (if description.joins.isEmpty then "" else ",") [] := by
      split_ifs <;> exact reads_of_fixed rfl
    exact ((hopen.leads (reads_literals description.keys)).leads hclose).leads hcomma
  refine namesOnly_textOfLines ?_
  simp only [List.forall_mem_append, List.forall_mem_cons]
  exact ⟨⟨⟨⟨⟨namesOnly_of_none hconstant, namesOnly_of_none hname, namesOnly_of_none htable,
    namesOnly_of_none hfields, by simp⟩, namesOnly_withCommas hentries⟩,
    namesOnly_of_no_colon rfl, namesOnly_of_none hkeys, by simp⟩,
    namesOnly_joinLines hnames.joins⟩, namesOnly_of_no_colon rfl, by simp⟩

/-- **The metadata names one scope**, whatever is described. -/
theorem namesOnly_metadata {descriptions : List Description}
    (hnames : ∀ description ∈ descriptions, NamedDescription description) :
    NamesOnly false ["psql"] (metadataText descriptions) := by
  have hhead : Reads false .idle .idle metadataHead ["psql"] := reads_of_fixed rfl
  have htexts : ∀ text ∈ descriptions.map Description.text, NamesOnly false ["psql"] text := by
    intro text htext
    obtain ⟨description, hdescription, rfl⟩ := List.mem_map.mp htext
    exact namesOnly_description (hnames description hdescription)
  refine namesOnly_textOfLines ?_
  simp only [List.forall_mem_append, List.forall_mem_singleton]
  exact ⟨⟨namesOnly_of_reads hhead, namesOnly_withCommas htexts⟩, namesOnly_of_no_colon rfl⟩

end PersistLayer.Client
