import PersistLayer.Proofs.Client.Relations
import PersistLayer.Proofs.Client.Wording
import PersistLayer.Proofs.Render.Items

/-!
# The metadata is an image of the entities

The metadata of a client is a mapping in a mapping in a mapping, and the commas in it are
written by the lists at every depth.  `entityItems` says what the entry of an entity is: its
constant with its names, the columns of its own fields and of those that it reaches
through its relations, its keys, and a join for each of these relations, if there are any.
The member reads back as exactly that, and so do the SQL clients that `init` registers
(`metadata_reads_back`).
-/

namespace PersistLayer.Client

open Schema Syntax

/-! ## What there is to read -/

/-- Code, as it is read from its text. -/
def code (text : String) : List Item := (wordsOf text).map .word

/-- A string literal. -/
def literal (value : String) : List Item := [.word (.string, value)]

/-- An entry of a mapping. -/
def pair (key value : List Item) : List Item := key ++ .word (mark ":") :: value

/-- A mapping with some entries. -/
def mapping (entries : List (List Item)) : List Item := [.group .curly entries]

/-- An array of some values. -/
def array (values : List (List Item)) : List Item := [.group .square values]

/-- The arguments of a call. -/
def arguments (values : List (List Item)) : List Item := [.group .round values]

/-- The entry of a field of an entity itself. -/
def columnItems (name : String) : List Item :=
  pair (code (quotedName name)) (mapping [pair (code "columnName") (literal name)])

/-- The entry of a field of the target of a relation. -/
def relatedItems (relation field : String) : List Item :=
  pair (literal (relation ++ "." ++ field)) (mapping
    [pair (code "relation") (mapping
      [pair (code "entityName") (literal relation), pair (code "refField") (literal field)])])

/-- The entry of a relation.  The owner has the columns and the target what they refer to. -/
def joinItems (relation : Relation) (target : Entity) : List Item :=
  let columns := relation.foreignKeys.map fun key => literal key.column
  let references := relation.foreignKeys.map fun key => literal key.references
  pair (code (quotedName relation.name)) (mapping
    [pair (code "entity") (code target.name),
      pair (code "fieldName") (literal relation.name),
      pair (code "refTable") (literal target.tableName),
      pair (code "refColumns") (array (if relation.isOwner then references else columns)),
      pair (code "joinColumns") (array (if relation.isOwner then columns else references)),
      pair (code "'type") (code ("psql:" ++ joinKind relation.cardinality))])

/-- The entry of an entity among others. -/
def entityItems (entities : List Entity) (entity : Entity) : List Item :=
  let relations := coveredRelations entities entity
  pair (array [code entity.constantName]) (mapping
    ([pair (code "entityName") (literal entity.name),
      pair (code "tableName") (literal entity.tableName),
      pair (code "fieldMetadata") (mapping
        (entity.fields.map (fun field => columnItems field.name) ++
          relations.flatMap fun (relation, target) =>
            target.fields.map fun field => relatedItems relation.name field.name)),
      pair (code "keyFields") (array (entity.keyFields.map fun key => literal key.name))] ++
    if relations.isEmpty then []
    else [pair (code "joinMetadata") (mapping
      (relations.map fun (relation, target) => joinItems relation target))]))

/-- The registration of the SQL client of an entity. -/
def registrationItems (policy : Policy) (entity : Entity) : List Item :=
  pair (array [code entity.constantName]) (code "check new" ++ arguments
    ([code "dbClient",
      code "self.metadata.get" ++ arguments [code entity.constantName],
      code ("psql:" ++ policy.sqlSpecifics)] ++
    if policy.hasCustomSchema then [code "defaultSchema"] else []))

@[simp] theorem pair_ne_nil (key value : List Item) : pair key value ≠ [] := by simp [pair]

@[simp] theorem literal_ne_nil (value : String) : literal value ≠ [] := by simp [literal]

/-! ## Pieces -/

section Pieces

variable {before middle after : Edge} {text more label : String} {key value : List Item}

theorem tells_pair (hkey : Tells before middle text (key ++ [.word (mark ":")]))
    (hvalue : Tells middle after more value) :
    Tells before after (text ++ more) (pair key value) := by
  have hall := hkey.append hvalue
  rwa [List.append_assoc, List.singleton_append] at hall

/-- An entry with a fixed key is a part. -/
theorem tells_entry
    (hfixed : (wordingFixed .clean .clean text (wordsOf label ++ [mark ":"]) &&
      othersOnly (wordsOf label ++ [mark ":"])) = true)
    (hvalue : Tells .clean .word more value) :
    Tells .clean .word (text ++ more) (pair (code label) value) ∧ pair (code label) value ≠ [] := by
  have hlabel := tells_of_fixed hfixed
  rw [List.map_append] at hlabel
  exact ⟨tells_pair hlabel hvalue, pair_ne_nil _ _⟩

/-- A fixed piece of code is a part. -/
theorem code_of_fixed
    (hfixed : (wordingFixed .clean .word text (wordsOf text) && othersOnly (wordsOf text) &&
      !(wordsOf text).isEmpty) = true) :
    Tells .clean .word text (code text) ∧ code text ≠ [] := by
  obtain ⟨htells, hwords⟩ := Bool.and_eq_true_iff.mp hfixed
  exact ⟨tells_of_fixed htells, by simpa [code] using hwords⟩

theorem tells_colon : Tells .word .clean ": " [.word (mark ":")] :=
  @tells_of_fixed .word .clean ": " [mark ":"] (by rfl)

/-- A name without commas is code wherever it stands. -/
theorem tells_name {name : String} (hname : IsFitName name) (hcomma : ',' ∉ name.toList) :
    Tells .clean .word name (code name) := by
  refine ⟨wordsOf name, hname.wording, spells_words fun word hword => roleOf_eq_other ?_⟩
  intro c hc
  have hmem := (chars_of_mem_wordsOf hname.isInert.2 hword).1 hc
  exact ⟨fun h => hcomma (h ▸ hmem), hname.isInert.2 c hmem⟩

theorem tells_quoted {name : String} (hname : IsFitName name) :
    Tells .clean .word ("\"" ++ name ++ "\"") (literal name) :=
  ⟨_, hname.wording_quoted.ofWord.loosen, fun _ _ => rfl⟩

theorem tells_literal {name : String} (hname : IsFitName name) :
    Tells .clean .word (stringLiteral name) (literal name) :=
  ⟨_, hname.wording_literal.ofWord.loosen, fun _ _ => rfl⟩

/-- Items on one line, in brackets. -/
theorem tells_inline {α : Type} {list : List α} {write : α → String} {items : α → List Item}
    (hlist : ∀ a ∈ list, Tells .clean .word (write a) (items a) ∧ items a ≠ [])
    (bracket : Bracket) :
    Tells .word .clean (bracket.opener ++ commaList (list.map write) ++ bracket.closer)
      [.group bracket (list.map items)] := by
  have hopen : OpensBracket bracket .word bracket.opener [] := by
    cases bracket <;> exact @opens_of_fixed _ _ [] _ (by rfl)
  have hclose : ClosesBracket bracket .clean bracket.closer [] := by
    cases bracket <;> exact @closes_of_fixed _ _ [] _ (by rfl)
  exact tells_group hopen (tellsParts_commaList hlist) hclose

/-- A mapping on one line, of entries that are written one by one. -/
theorem tells_mapping {entries : List (String × List Item)}
    (hentries : ∀ entry ∈ entries, Tells .clean .word entry.1 entry.2 ∧ entry.2 ≠ []) :
    Tells .clean .clean ("\x7b" ++ commaList (entries.map Prod.fst) ++ "\x7d")
      (mapping (entries.map Prod.snd)) :=
  (tells_inline hentries .curly).ofWord

theorem tells_literals {names : List String} (hnames : ∀ name ∈ names, IsName name) :
    Tells .clean .clean ("[" ++ commaList (names.map stringLiteral) ++ "]")
      (array (names.map literal)) := by
  have hlist : ∀ name ∈ names, Tells .clean .word (stringLiteral name) (literal name) ∧
      literal name ≠ [] := fun name hname =>
    ⟨tells_literal (isFitName_of_isName (hnames name hname)), literal_ne_nil name⟩
  exact (tells_inline hlist .square).ofWord

theorem comma_not_mem_name {name : String} (hname : IsName name) : ',' ∉ name.toList :=
  fun hmem => absurd (hname.2 _ hmem) (by decide)

/-- A name in front of a colon. -/
theorem tells_key {name : String} (hname : IsName name) :
    Tells .clean .clean (quotedName name ++ ": ")
      (code (quotedName name) ++ [.word (mark ":")]) := by
  have hcomma : ',' ∉ (quotedName name).toList := by
    intro hmem
    exact forall_mem_quotedName (p := (· ≠ ',')) (by decide)
      (fun c hc => ne_of_mem_of_not_mem hc (comma_not_mem_name hname)) _ hmem rfl
  exact (tells_name (isFitName_of_isName hname).quotedName hcomma).append tells_colon

end Pieces

/-! ## Fields and joins -/

/-- What there is to read in the entry of a field. -/
def FieldEntry.items : FieldEntry → List Item
  | column name => columnItems name
  | related relation field => relatedItems relation field

theorem tells_column {name : String} (hname : IsName name) :
    Tells .clean .clean (FieldEntry.column name).text (columnItems name) := by
  have hcolumn := @tells_entry "columnName: " _ "columnName" _ (by rfl)
    (tells_literal (isFitName_of_isName hname))
  have hvalue := @tells_mapping [(_, _)] (List.forall_mem_singleton.mpr hcolumn)
  have hall := tells_pair (tells_key hname) hvalue
  have htext : (FieldEntry.column name).text = quotedName name ++ ": " ++
      ("\x7b" ++ commaList ["columnName: " ++ stringLiteral name] ++ "\x7d") := by
    have hopening : ": \x7bcolumnName: " = ": " ++ ("\x7b" ++ "columnName: ") := rfl
    simp only [FieldEntry.text, hopening, commaList, String.intercalate_singleton,
      String.append_assoc]
  rw [htext]
  exact hall

theorem tells_related {relation field : String} (hrelation : IsName relation)
    (hfield : IsName field) :
    Tells .clean .clean (FieldEntry.related relation field).text (relatedItems relation field) := by
  have hrelationName := isFitName_of_isName hrelation
  have hfieldName := isFitName_of_isName hfield
  have hentity := @tells_entry "entityName: " _ "entityName" _ (by rfl)
    (tells_literal hrelationName)
  have href := @tells_entry "refField: " _ "refField" _ (by rfl) (tells_literal hfieldName)
  have hinner := @tells_mapping [(_, _), (_, _)]
    (List.forall_mem_cons.mpr ⟨hentity, List.forall_mem_singleton.mpr href⟩)
  have hlabel := @tells_entry "relation: " _ "relation" _ (by rfl) hinner.loosen
  have houter := @tells_mapping [(_, _)] (List.forall_mem_singleton.mpr hlabel)
  -- the two names make one literal, with a dot between them
  have hdot : IsFitName "." := isFitName_of_plain (by rfl)
  have hpath := (hrelationName.append hdot).append hfieldName
  have hall := tells_pair ((tells_literal hpath).append tells_colon) houter
  have htext : (FieldEntry.related relation field).text =
      stringLiteral (relation ++ "." ++ field) ++ ": " ++ ("\x7b" ++ commaList
        ["relation: " ++ ("\x7b" ++ commaList ["entityName: " ++ stringLiteral relation,
          "refField: " ++ stringLiteral field] ++ "\x7d")] ++ "\x7d") := by
    have hopening : ": \x7brelation: \x7bentityName: " =
        ": " ++ ("\x7b" ++ ("relation: " ++ ("\x7b" ++ "entityName: "))) := rfl
    have hnext : ", refField: " = ", " ++ "refField: " := rfl
    have hclosing : "\x7d\x7d" = "\x7d" ++ "\x7d" := rfl
    simp only [FieldEntry.text, hopening, hnext, hclosing, commaList, String.intercalate_singleton,
      String.intercalate_cons_cons, String.append_assoc]
  rw [htext]
  exact hall

/-- All names that the metadata holds of an entity are names, those of columns included. -/
structure PlainEntity (entity : Entity) : Prop extends DescribedNames entity where
  foreignKeys : ∀ relation ∈ entity.relations, ∀ key ∈ relation.foreignKeys,
    IsName key.column ∧ IsName key.references

instance (entity : Entity) : Decidable (PlainEntity entity) :=
  decidable_of_iff
    ((IsName entity.name ∧ IsName entity.tableName ∧ (∀ field ∈ entity.fields, IsName field.name) ∧
      ∀ relation ∈ entity.relations, IsName relation.name) ∧
      ∀ relation ∈ entity.relations, ∀ key ∈ relation.foreignKeys,
        IsName key.column ∧ IsName key.references)
    ⟨fun ⟨⟨hname, htable, hfields, hrelations⟩, hkeys⟩ =>
        ⟨⟨hname, htable, hfields, hrelations⟩, hkeys⟩,
      fun ⟨⟨hname, htable, hfields, hrelations⟩, hkeys⟩ =>
        ⟨⟨hname, htable, hfields, hrelations⟩, hkeys⟩⟩

theorem tells_kind (cardinality : Cardinality) :
    Tells .clean .word ("psql:" ++ joinKind cardinality)
      (code ("psql:" ++ joinKind cardinality)) := by
  cases cardinality <;> exact tells_of_fixed (by rfl)

/-- The text of a join, entry by entry. -/
theorem text_joinOf (relation : Relation) (target : Entity) :
    (joinOf relation target).text = quotedName relation.name ++ ": " ++
      ("\x7b" ++ commaList
        ["entity: " ++ target.name, "fieldName: " ++ ("\"" ++ relation.name ++ "\""),
          "refTable: " ++ ("\"" ++ target.tableName ++ "\""),
          "refColumns: " ++ ("[" ++ commaList ((joinOf relation target).targetColumns.map
            stringLiteral) ++ "]"),
          "joinColumns: " ++ ("[" ++ commaList ((joinOf relation target).ownColumns.map
            stringLiteral) ++ "]"),
          "'type: " ++ ("psql:" ++ joinKind relation.cardinality)] ++ "\x7d") := by
  -- the fixed texts are cut where one entry ends and the next one begins
  have hopening : ": \x7bentity: " = ": " ++ ("\x7b" ++ "entity: ") := rfl
  have hfieldName : ", fieldName: \"" = ", " ++ ("fieldName: " ++ "\"") := rfl
  have hrefTable : "\", refTable: \"" = "\"" ++ (", " ++ ("refTable: " ++ "\"")) := rfl
  have hrefColumns : "\", refColumns: [" = "\"" ++ (", " ++ ("refColumns: " ++ "[")) := rfl
  have hjoinColumns : "], joinColumns: [" = "]" ++ (", " ++ ("joinColumns: " ++ "[")) := rfl
  have htype : "], 'type: psql:" = "]" ++ (", " ++ ("'type: " ++ "psql:")) := rfl
  rw [Join.text, hopening, hfieldName, hrefTable, hrefColumns, hjoinColumns, htype]
  simp only [joinOf, commaList, String.intercalate_singleton, String.intercalate_cons_cons,
    String.append_assoc]

section Join

variable {relation : Relation} {target : Entity}
  (hkeys : ∀ key ∈ relation.foreignKeys, IsName key.column ∧ IsName key.references)

include hkeys

/-- The owner has the columns, and the target what they refer to. -/
theorem tells_joinColumns :
    Tells .clean .word
      ("[" ++ commaList ((joinOf relation target).targetColumns.map stringLiteral) ++ "]")
      (array (if relation.isOwner then relation.foreignKeys.map fun key => literal key.references
        else relation.foreignKeys.map fun key => literal key.column)) ∧
    Tells .clean .word
      ("[" ++ commaList ((joinOf relation target).ownColumns.map stringLiteral) ++ "]")
      (array (if relation.isOwner then relation.foreignKeys.map fun key => literal key.column
        else relation.foreignKeys.map fun key => literal key.references)) := by
  have hlist := fun (side : ForeignKey → String)
      (hside : ∀ key ∈ relation.foreignKeys, IsName (side key)) =>
    (tells_literals (List.forall_mem_map.mpr hside)).loosen
  have hcolumns := hlist ForeignKey.column fun key hkey => (hkeys key hkey).1
  have hreferences := hlist ForeignKey.references fun key hkey => (hkeys key hkey).2
  rw [@List.map_map _ _ _ literal] at hcolumns hreferences
  cases howner : relation.isOwner
  · simp only [joinOf, howner, Bool.false_eq_true, if_false]
    exact ⟨hcolumns, hreferences⟩
  · simp only [joinOf, howner, if_true]
    exact ⟨hreferences, hcolumns⟩

theorem tells_join (hrelation : IsName relation.name) (htarget : DescribedNames target) :
    Tells .clean .clean (joinOf relation target).text (joinItems relation target) := by
  obtain ⟨htargetColumns, hownColumns⟩ := @tells_joinColumns relation target hkeys
  have hentity := @tells_entry "entity: " _ "entity" _ (by rfl)
    (tells_name (isFitName_of_isName htarget.name) (comma_not_mem_name htarget.name))
  have hfieldName := @tells_entry "fieldName: " _ "fieldName" _ (by rfl)
    (tells_quoted (isFitName_of_isName hrelation))
  have hrefTable := @tells_entry "refTable: " _ "refTable" _ (by rfl)
    (tells_quoted (isFitName_of_isName htarget.table))
  have hrefColumns := @tells_entry "refColumns: " _ "refColumns" _ (by rfl) htargetColumns
  have hjoinColumns := @tells_entry "joinColumns: " _ "joinColumns" _ (by rfl) hownColumns
  have htype := @tells_entry "'type: " _ "'type" _ (by rfl)
    (tells_kind relation.cardinality)
  have hvalue := @tells_mapping [(_, _), (_, _), (_, _), (_, _), (_, _), (_, _)] (by
    simp only [List.forall_mem_cons]
    exact ⟨hentity, hfieldName, hrefTable, hrefColumns, hjoinColumns, htype, by simp⟩)
  rw [text_joinOf]
  exact tells_pair (tells_key hrelation) hvalue

end Join

/-! ## Mappings over several lines -/

/-- Parts on lines of their own, with commas between, below an opening line. -/
def block (opening : String) (parts : List String) (closing : String) : String :=
  opening ++ ("\n" ++ String.join ((withCommas parts).map (· ++ "\n"))) ++ closing

theorem tells_block {α : Type} {list : List α} {write : α → String} {items : α → List Item}
    {before after : Edge} {opening closing : String} {front back : List Item}
    (hopening : OpensBracket .curly before opening front)
    (hlist : ∀ a ∈ list, Tells .clean .word (write a) (items a) ∧ items a ≠ [])
    (hclosing : ClosesBracket .curly after closing back) :
    Tells before after (block opening (list.map write) closing)
      (front ++ mapping (list.map items) ++ back) := by
  have hfeed : Wording .clean .clean "\n" [] := wording_of_fixed (by rfl)
  choose! words hwording hspells using fun a ha => (hlist a ha).1
  have hlines := (hfeed.append (linesWording_withCommas hwording)).loosen
  have hparts := spellsParts_commaSeparated fun a ha => ⟨hspells a ha, (hlist a ha).2⟩
  rw [List.append_assoc]
  exact tells_group hopening ⟨_, hlines, hparts⟩ hclosing

/-- The entries for an entity. -/
def Description.entries (description : Description) : List String :=
  ["        entityName: " ++ ("\"" ++ description.name ++ "\""),
    "        tableName: " ++ ("\"" ++ description.table ++ "\""),
    block "        fieldMetadata: \x7b"
      (description.fields.map fun entry => "            " ++ entry.text) "        \x7d",
    "        keyFields: " ++ ("[" ++ commaList (description.keys.map stringLiteral) ++ "]")] ++
  if description.joins.isEmpty then []
  else [block "        joinMetadata: \x7b"
    (description.joins.map fun join => "            " ++ join.text) "        \x7d"]

/-- The text for an entity, entry by entry. -/
theorem Description.text_eq_block (description : Description) :
    description.text =
      block ("    [" ++ description.constant ++ "]" ++ ": \x7b") description.entries
        "    \x7d" := by
  -- the fixed texts are cut where the brackets and the commas of the entries are
  have hopening : "]: \x7b" = "]" ++ ": \x7b" := rfl
  have hname : "        entityName: \"" = "        entityName: " ++ "\"" := rfl
  have htable : "        tableName: \"" = "        tableName: " ++ "\"" := rfl
  have hquote : "\"," = "\"" ++ "," := rfl
  have hfields : "        \x7d," = "        \x7d" ++ "," := rfl
  have hkeys : "        keyFields: [" = "        keyFields: " ++ "[" := rfl
  rw [Description.text, textOfLines_concat, hopening, hname, htable, hquote, hfields, hkeys,
    entries, joinLines]
  split_ifs <;>
    simp only [block, withCommas, List.map_append, List.map_cons, List.map_nil, String.join_append,
      String.join_cons, String.join_nil, String.append_assoc, List.append_nil, List.nil_append,
      List.cons_append, String.append_empty]

/-! ## Entities -/

theorem code_ne_nil {name : String} (hname : IsFitName name) : code name ≠ [] := by
  simpa [code] using hname.wordsOf_ne_nil

/-- A line of its own, below the others. -/
theorem tells_indented {text : String} {items : List Item}
    (htext : Tells .clean .clean text items) :
    Tells .clean .word ("            " ++ text) items := by
  have hindent : Tells .clean .clean "            " [] :=
    @tells_of_fixed _ _ _ [] (by rfl)
  exact (hindent.append htext).loosen

/-- The constant of an entity. -/
theorem tells_constant {entity : Entity} (hname : IsName entity.name) :
    Tells .clean .word entity.constantName (code entity.constantName) :=
  tells_name (isFitName_constantName hname)
    (not_mem_constantName_of_avoids hname (by decide) (by decide) (by decide +kernel))

/-- The key of the entry of an entity. -/
theorem tells_constantKey {entity : Entity} (hname : IsName entity.name) :
    Tells .clean .clean ("    [" ++ entity.constantName ++ "]")
      (array [code entity.constantName]) := by
  have hopen : OpensBracket .square .clean "    [" [] :=
    @opens_of_fixed _ _ [] _ (by rfl)
  have hclose : ClosesBracket .square .clean "]" [] := @closes_of_fixed _ _ [] _ (by rfl)
  exact tells_group hopen
    ((tells_constant hname).part (code_ne_nil (isFitName_constantName hname))) hclose

/-- A mapping below a fixed key. -/
theorem tells_labelled {α : Type} {list : List α} {write : α → String} {items : α → List Item}
    {opening closing label : String}
    (hopening : (wordingFixed .clean .clean opening ((wordsOf label ++ [mark ":"]) ++
      [mark Bracket.curly.opener]) && othersOnly (wordsOf label ++ [mark ":"])) = true)
    (hlist : ∀ a ∈ list, Tells .clean .word (write a) (items a) ∧ items a ≠ [])
    (hclosing : ClosesBracket .curly .clean closing []) :
    Tells .clean .word (block opening (list.map write) closing)
        (pair (code label) (mapping (list.map items))) ∧
      pair (code label) (mapping (list.map items)) ≠ [] := by
  have hlabel := opens_of_fixed hopening
  have hall := (tells_block hlabel hlist hclosing).loosen
  rw [List.map_append, List.append_nil, List.append_assoc] at hall
  exact ⟨hall, pair_ne_nil _ _⟩

section Entity

variable {entities : List Entity} {entity : Entity}

theorem items_fields_describe : (describe entities entity).fields.map FieldEntry.items =
    entity.fields.map (fun field => columnItems field.name) ++
      (coveredRelations entities entity).flatMap fun (relation, target) =>
        target.fields.map fun field => relatedItems relation.name field.name := by
  simp only [describe, List.map_append, List.map_map, List.map_flatMap, relatedEntries]
  rfl

variable (hentities : ∀ entity ∈ entities, PlainEntity entity) (hentity : PlainEntity entity)

include hentities hentity

theorem tells_fields : ∀ entry ∈ (describe entities entity).fields,
    Tells .clean .word ("            " ++ entry.text) entry.items ∧ entry.items ≠ [] := by
  intro entry hentry
  rcases List.mem_append.mp hentry with hown | hreached
  · obtain ⟨field, hfield, rfl⟩ := List.mem_map.mp hown
    exact ⟨tells_indented (tells_column (hentity.fields field hfield)), pair_ne_nil _ _⟩
  · obtain ⟨⟨relation, target⟩, hpair, hrelated⟩ := List.mem_flatMap.mp hreached
    obtain ⟨field, hfield, rfl⟩ := List.mem_map.mp hrelated
    obtain ⟨hrelation, htarget⟩ := mem_coveredRelations hpair
    exact ⟨tells_indented (tells_related (hentity.relations relation hrelation)
      ((hentities target htarget).fields field hfield)), pair_ne_nil _ _⟩

theorem tells_joins : ∀ joined ∈ coveredRelations entities entity,
    Tells .clean .word ("            " ++ (joinOf joined.1 joined.2).text)
        (joinItems joined.1 joined.2) ∧
      joinItems joined.1 joined.2 ≠ [] := by
  rintro ⟨relation, target⟩ hpair
  obtain ⟨hrelation, htarget⟩ := mem_coveredRelations hpair
  exact ⟨tells_indented (tells_join (hentity.foreignKeys relation hrelation)
    (hentity.relations relation hrelation) (hentities target htarget).toDescribedNames),
    pair_ne_nil _ _⟩

/-- The entry of an entity reads as what there is to say about it. -/
theorem tells_entity :
    Tells .clean .word (describe entities entity).text (entityItems entities entity) := by
  have hclose : ClosesBracket .curly .clean "        \x7d" [] :=
    @closes_of_fixed _ _ [] _ (by rfl)
  have hlast : ClosesBracket .curly .word "    \x7d" [] :=
    @closes_of_fixed _ _ [] _ (by rfl)
  have hkey : OpensBracket .curly .clean ("    [" ++ entity.constantName ++ "]" ++ ": \x7b")
      (array [code entity.constantName] ++ [.word (mark ":")]) :=
    (tells_constantKey hentity.name).opens
      (@opens_of_fixed .clean _ [mark ":"] _ (by rfl))
  have hname := @tells_entry "        entityName: " _ "entityName" _ (by rfl)
    (tells_quoted (isFitName_of_isName hentity.name))
  have htable := @tells_entry "        tableName: " _ "tableName" _ (by rfl)
    (tells_quoted (isFitName_of_isName hentity.table))
  have hfields := @tells_labelled _ _ _ _ "        fieldMetadata: \x7b" _ "fieldMetadata"
    (by rfl) (tells_fields hentities hentity) hclose
  rw [items_fields_describe] at hfields
  have hkeys := @tells_entry "        keyFields: " _ "keyFields" _ (by rfl)
    (@tells_literals (entity.keyFields.map Field.name) (List.forall_mem_map.mpr fun key hkey =>
      hentity.fields key (List.mem_filter.mp hkey).1)).loosen
  rw [@List.map_map _ _ _ literal] at hkeys
  have hjoins := @tells_labelled _ _ _ _ "        joinMetadata: \x7b" _ "joinMetadata"
    (by rfl) (tells_joins hentities hentity) hclose
  have hempty : (describe entities entity).joins.isEmpty =
      (coveredRelations entities entity).isEmpty := List.isEmpty_map
  have htexts : ((describe entities entity).joins.map fun join => "            " ++ join.text) =
      (coveredRelations entities entity).map fun joined =>
        "            " ++ (joinOf joined.1 joined.2).text := List.map_map
  rw [Description.text_eq_block, Description.entries, entityItems, hempty, htexts]
  split_ifs
  · -- without relations to covered entities there are no joins
    have hall := @tells_block _ [(_, _), (_, _), (_, _), (_, _)] Prod.fst Prod.snd _ _ _ _ _ _ hkey
      (by
        simp only [List.forall_mem_cons]
        exact ⟨hname, htable, hfields, hkeys, by simp⟩) hlast
    rw [List.append_nil, List.append_assoc] at hall
    exact hall
  · have hall := @tells_block _ [(_, _), (_, _), (_, _), (_, _), (_, _)] Prod.fst Prod.snd _ _ _ _
      _ _ hkey
      (by
        simp only [List.forall_mem_cons]
        exact ⟨hname, htable, hfields, hkeys, hjoins, by simp⟩) hlast
    rw [List.append_nil, List.append_assoc] at hall
    exact hall

end Entity

/-! ## The metadata and the registrations -/

/-- The declaration of the metadata, in front of its value. -/
def metadataDeclaration : List Item :=
  code "private final record" ++ mapping [code "|psql:SQLMetadata...;|"] ++
    code "& readonly metadata ="

/-- The end of a statement. -/
def semicolon : Item := .word (mark ";")

theorem opens_metadataHead : OpensBracket .curly .clean metadataHead metadataDeclaration := by
  have hfront : OpensBracket .curly .clean "private final record \x7b"
      (code "private final record") :=
    opens_of_fixed (by rfl)
  obtain ⟨hmembers, hsome⟩ := @code_of_fixed "|psql:SQLMetadata...;|" (by rfl)
  have hinner := hmembers.part hsome
  have hback : ClosesBracket .curly .word "\x7d" [] := @closes_of_fixed _ _ [] _ (by rfl)
  have hend : OpensBracket .curly .word " & readonly metadata = \x7b"
      (code "& readonly metadata =") :=
    opens_of_fixed (by rfl)
  exact (tells_group hfront hinner hback).opens hend

theorem closes_value : ClosesBracket .curly .word "\x7d;" [semicolon] :=
  @closes_of_fixed _ _ [mark ";"] _ (by rfl)

theorem tells_metadata {entities : List Entity}
    (hentities : ∀ entity ∈ entities, PlainEntity entity) :
    Tells .clean .word (metadataText (entities.map (describe entities)))
      (metadataDeclaration ++ mapping (entities.map (entityItems entities)) ++ [semicolon]) := by
  have htext : metadataText (entities.map (describe entities)) = block metadataHead
      (entities.map fun entity => (describe entities entity).text) "\x7d;" :=
    calc metadataText (entities.map (describe entities))
        = String.join (([metadataHead] ++ withCommas
            ((entities.map (describe entities)).map Description.text)).map (· ++ "\n")) ++
              "\x7d;" := by
          rw [metadataText, ← metadataHead, textOfLines_concat]
      _ = block metadataHead (entities.map fun entity => (describe entities entity).text)
            "\x7d;" := by
          rw [block, List.singleton_append, List.map_cons, String.join_cons, List.map_map]
          simp only [String.append_assoc, Function.comp_def]
  rw [htext]
  exact tells_block opens_metadataHead (fun entity hentity =>
    ⟨tells_entity hentities (hentities entity hentity), pair_ne_nil _ _⟩) closes_value

theorem tells_specifics (datasource : Datasource) :
    Tells .clean .word ("psql:" ++ datasource.policy.sqlSpecifics)
        (code ("psql:" ++ datasource.policy.sqlSpecifics)) ∧
      code ("psql:" ++ datasource.policy.sqlSpecifics) ≠ [] := by
  cases datasource <;> exact code_of_fixed (by rfl)

/-- The text of a registration, argument by argument. -/
theorem text_registration (specifics constant : String) (hasCustomSchema : Bool) :
    Body.registration specifics hasCustomSchema constant =
      "    [" ++ constant ++ "]" ++ ": " ++ ("check new (" ++ commaList
        (["dbClient", "self.metadata.get(" ++ constant ++ ")", "psql:" ++ specifics] ++
          if hasCustomSchema then ["defaultSchema"] else []) ++ ")") := by
  have hopening : "]: check new (dbClient, self.metadata.get(" =
      "]" ++ (": " ++ ("check new (" ++ ("dbClient" ++ (", " ++ "self.metadata.get(")))) := rfl
  have hspecifics : "), psql:" = ")" ++ (", " ++ "psql:") := rfl
  have hschema : ", defaultSchema" = ", " ++ "defaultSchema" := rfl
  rw [Body.registration, hopening, hspecifics, hschema]
  split_ifs <;>
    simp only [commaList, String.intercalate_singleton, String.intercalate_cons_cons,
      String.append_assoc, List.cons_append, List.nil_append, List.append_nil, String.empty_append]

theorem tells_registration (datasource : Datasource) {entity : Entity}
    (hname : IsName entity.name) :
    Tells .clean .word
      (Body.registration datasource.policy.sqlSpecifics datasource.policy.hasCustomSchema
        entity.constantName)
      (registrationItems datasource.policy entity) := by
  have hclose : ClosesBracket .round .word ")" [] := @closes_of_fixed _ _ [] _ (by rfl)
  have hget : OpensBracket .round .clean "self.metadata.get(" (code "self.metadata.get") :=
    opens_of_fixed (by rfl)
  have hnew : OpensBracket .round .clean "check new (" (code "check new") :=
    opens_of_fixed (by rfl)
  have hconnection := @code_of_fixed "dbClient" (by rfl)
  have hschema := @code_of_fixed "defaultSchema" (by rfl)
  have hmetadata := tells_group hget
    ((tells_constant hname).part (code_ne_nil (isFitName_constantName hname))) hclose
  have hkey := (tells_constantKey hname).append tells_colon.ofWord
  rw [text_registration, registrationItems]
  split_ifs
  · -- a database with schemas is told the default one
    have hvalue := tells_group hnew (@tellsParts_commaList _ [(_, _), (_, _), (_, _), (_, _)]
      Prod.fst Prod.snd (by
        simp only [List.forall_mem_cons]
        exact ⟨hconnection, ⟨hmetadata, by simp⟩, tells_specifics datasource, hschema, by simp⟩))
      hclose
    exact tells_pair hkey hvalue
  · have hvalue := tells_group hnew (@tellsParts_commaList _ [(_, _), (_, _), (_, _)]
      Prod.fst Prod.snd (by
        simp only [List.forall_mem_cons]
        exact ⟨hconnection, ⟨hmetadata, by simp⟩, tells_specifics datasource, by simp⟩))
      hclose
    exact tells_pair hkey hvalue

/-- The lines of `init` in front of the registrations. -/
def connectingLines (policy : Policy) : List String :=
  [policy.clientType ++ "|error dbClient = new (" ++ connectArguments policy.access ++ ");",
    "if dbClient is error \x7b",
    "    return <persist:Error>error(dbClient.message());",
    "\x7d",
    "self.dbClient = dbClient;"]

theorem exists_linesWording_connecting (datasource : Datasource) :
    ∃ words, LinesWording (connectingLines datasource.policy) words := by
  have hclientType : Wording .clean .word datasource.policy.clientType
      (wordsOf datasource.policy.clientType) := by
    cases datasource <;> exact wording_of_fixed (by rfl)
  have harguments : Wording .clean .word (connectArguments datasource.policy.access)
      (wordsOf (connectArguments datasource.policy.access)) := by
    cases datasource.policy.access <;> exact wording_of_fixed (by decide +kernel)
  have hfixed : ∀ line ∈ ["if dbClient is error \x7b",
      "    return <persist:Error>error(dbClient.message());", "\x7d", "self.dbClient = dbClient;"],
      Wording .clean .word line (wordsOf line) := by
    simp only [List.forall_mem_cons]
    refine ⟨?_, ?_, ?_, ?_, by simp⟩ <;> exact wording_of_fixed (by rfl)
  have hnew : Wording .word .clean "|error dbClient = new (" (wordsOf "|error dbClient = new (") :=
    wording_of_fixed (by rfl)
  have hend : Wording .word .word ");" (wordsOf ");") := wording_of_fixed (by rfl)
  simp only [List.forall_mem_cons] at hfixed
  obtain ⟨hif, hreturn, hclose, hassign, -⟩ := hfixed
  exact ⟨_, .cons (((hclientType.append hnew).append harguments).append hend)
    (.cons hif (.cons hreturn (.cons hclose (.cons hassign .nil))))⟩

/-- The registrations are the last statement of `init`. -/
theorem exists_init {entities : List Entity} (hnames : ∀ entity ∈ entities, IsName entity.name)
    (datasource : Datasource) (params : List Param) :
    ∃ opening connecting registering,
      init datasource.policy params entities = .ok opening ∧
      bodyWords opening = connecting ++ registering ∧
      partsIn registering = some [code "self.persistClients =" ++
        mapping (entities.map (registrationItems datasource.policy)) ++ [semicolon]] := by
  have hopening : OpensBracket .curly .clean "self.persistClients = \x7b"
      (code "self.persistClients =") :=
    opens_of_fixed (by rfl)
  obtain ⟨connecting, hconnecting⟩ := exists_linesWording_connecting datasource
  obtain ⟨registering, hregistering, hspells⟩ := tells_block hopening (fun entity hentity =>
    ⟨tells_registration datasource (hnames entity hentity), pair_ne_nil _ _⟩) closes_value
  have hwording := Wording.append hconnecting hregistering
  have htext : Body.init datasource.policy.clientType (connectArguments datasource.policy.access)
      (withCommas (entities.map fun entity => Body.registration datasource.policy.sqlSpecifics
        datasource.policy.hasCustomSchema entity.constantName)) =
      String.join ((connectingLines datasource.policy).map (· ++ "\n")) ++
        block "self.persistClients = \x7b" (entities.map fun entity =>
          Body.registration datasource.policy.sqlSpecifics datasource.policy.hasCustomSchema
            entity.constantName) "\x7d;" := by
    simp only [Body.init, textOfLines_concat, block, connectingLines, List.map_append,
      List.map_cons, List.map_nil, String.join_append, String.join_cons, String.join_nil,
      String.append_assoc, String.empty_append]
  rw [← htext] at hwording
  have hempty : ((FunctionDef.named "init" publicQualifiers
      (some (.optional persistError))).withParams params).body = .block [] := rfl
  obtain ⟨statements, hbuilt, hwords⟩ := exists_bodyWords
    (isStatements_init_of_names datasource hnames) hwording "client/init" hempty
  exact ⟨_, connecting, registering, hbuilt, hwords,
    (hspells.part (List.append_ne_nil_of_right_ne_nil _ (List.cons_ne_nil _ _))).partsIn_eq⟩

end PersistLayer.Client
