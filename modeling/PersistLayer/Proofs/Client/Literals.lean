import PersistLayer.Proofs.Client.Relations

/-!
# How the metadata quotes its strings

The metadata of a client holds strings of the data model in two kinds of quotes.  The
columns, the keys and the fields of a relation are written as string literals, in which
every character is escaped that could not stand there.  The names of entities, tables
and relations are put between quotes as they are.

An escape makes a text longer and nothing makes it shorter.  So the metadata is what it
would be with literals throughout exactly when no name between bare quotes needs an escape
(`metadata_is_escaped_iff`).
-/

namespace PersistLayer.Client

open Schema Syntax

/-! ## What a literal denotes -/

/-- The character that an escape stands for. -/
def escapeOf? : Char → Option Char
  | '"' => some '"'
  | '\\' => some '\\'
  | 'n' => some '\n'
  | 't' => some '\t'
  | 'r' => some '\r'
  | _ => none

/-- The value of a literal whose opening quote has been read. -/
def valueInside : List Char → Option (List Char)
  | [] => none
  | c :: rest =>
    if c = '"' then if rest.isEmpty then some [] else none
    else if c = '\n' then none
    else if c = '\\' then
      match rest with
      | [] => none
      | d :: behind => (escapeOf? d).bind fun escaped => (valueInside behind).map (escaped :: ·)
    else (valueInside rest).map (c :: ·)

/-- The value that a text denotes as a string literal. -/
def denoted? (literal : String) : Option String :=
  match literal.toList with
  | '"' :: rest => (valueInside rest).map String.ofList
  | _ => none

theorem valueInside_escapedChar (c : Char) (rest : List Char) :
    valueInside (escapedChar c ++ rest) = (valueInside rest).map (c :: ·) := by
  unfold escapedChar
  split
  iterate 5 rfl
  case h_6 hquote hescape hfeed _ _ =>
    rw [List.singleton_append, valueInside.eq_def]
    simp only [if_neg (show c ≠ '"' from hquote), if_neg (show c ≠ '\n' from hfeed),
      if_neg (show c ≠ '\\' from hescape)]

/-- **A string literal denotes its value**, whatever characters are in it. -/
theorem denoted_stringLiteral (value : String) : denoted? (stringLiteral value) = some value := by
  have hinside : ∀ chars : List Char,
      valueInside (chars.flatMap escapedChar ++ ['"']) = some chars := by
    intro chars
    induction chars with
    | nil => rfl
    | cons c rest ih =>
        rw [List.flatMap_cons, List.append_assoc, valueInside_escapedChar, ih]
        rfl
  rw [denoted?, stringLiteral, String.toList_ofList]
  simp [hinside]

/-! ## Texts that differ in their escapes -/

/-- A value between quotes, with nothing in it escaped. -/
def bare (value : String) : String := "\"" ++ value ++ "\""

/-- Nothing in the value needs an escape. -/
def NeedsNoEscape (value : String) : Prop := ∀ c ∈ value.toList, escapedChar c = [c]

instance (value : String) : Decidable (NeedsNoEscape value) :=
  -- only the characters of the value are tried, not the whole alphabet
  List.decidableBAll (fun c => escapedChar c = [c]) value.toList

/-- A text is no longer than another, and as long only if something is the case, which makes
both the same. -/
structure Stretches (text other : String) (same : Prop) : Prop where
  le : text.toList.length ≤ other.toList.length
  of_length : text.toList.length = other.toList.length → same
  eq_of : same → text = other

theorem Stretches.eq_iff {text other : String} {same : Prop} (h : Stretches text other same) :
    text = other ↔ same :=
  ⟨fun heq => h.of_length (by rw [heq]), h.eq_of⟩

theorem Stretches.refl (text : String) : Stretches text text True :=
  ⟨le_rfl, fun _ => trivial, fun _ => rfl⟩

theorem Stretches.append {text other back behind : String} {same sameBehind : Prop}
    (hfront : Stretches text other same) (hback : Stretches back behind sameBehind) :
    Stretches (text ++ back) (other ++ behind) (same ∧ sameBehind) := by
  have hle := hfront.le
  have hleBehind := hback.le
  refine ⟨?_, ?_, ?_⟩
  · simp only [String.toList_append, List.length_append]
    omega
  · simp only [String.toList_append, List.length_append]
    intro hlength
    exact ⟨hfront.of_length (by omega), hback.of_length (by omega)⟩
  · rintro ⟨hsame, hsameBehind⟩
    rw [hfront.eq_of hsame, hback.eq_of hsameBehind]

theorem Stretches.congr {text other : String} {same same' : Prop} (h : Stretches text other same)
    (hiff : same ↔ same') : Stretches text other same' :=
  ⟨h.le, fun hlength => hiff.mp (h.of_length hlength), fun hsame => h.eq_of (hiff.mpr hsame)⟩

/-- Escapes make a value longer. -/
theorem stretches_stringLiteral (value : String) :
    Stretches (bare value) (stringLiteral value) (NeedsNoEscape value) := by
  have hchar : ∀ c, 1 ≤ (escapedChar c).length ∧
      ((escapedChar c).length = 1 → escapedChar c = [c]) := by
    intro c
    unfold escapedChar
    split <;> simp
  have hchars : ∀ chars : List Char,
      chars.length ≤ (chars.flatMap escapedChar).length ∧
        (chars.length = (chars.flatMap escapedChar).length → ∀ c ∈ chars, escapedChar c = [c]) := by
    intro chars
    induction chars with
    | nil => simp
    | cons c rest ih =>
        obtain ⟨hone, hsame⟩ := hchar c
        rw [List.flatMap_cons, List.length_append, List.length_cons, List.forall_mem_cons]
        exact ⟨by omega, fun hlength => ⟨hsame (by omega), ih.2 (by omega)⟩⟩
  obtain ⟨hle, hsame⟩ := hchars value.toList
  have hbare : (bare value).toList = '"' :: (value.toList ++ ['"']) := by simp [bare]
  have hliteral : (stringLiteral value).toList =
      '"' :: (value.toList.flatMap escapedChar ++ ['"']) := String.toList_ofList
  -- both have two quotes besides the characters
  have hbareLength : (bare value).toList.length = value.toList.length + 2 := by simp [hbare]
  have hliteralLength : (stringLiteral value).toList.length =
      (value.toList.flatMap escapedChar).length + 2 := by
    rw [hliteral, List.length_cons, List.length_append]
    rfl
  refine ⟨?_, ?_, fun hplain => ?_⟩
  · rw [hbareLength, hliteralLength]
    omega
  · rw [hbareLength, hliteralLength]
    exact fun hlength => hsame (by omega)
  · rw [← String.toList_inj, hbare, hliteral, List.flatMap_congr hplain, List.flatMap_singleton']

/-! ## Lines that differ in their escapes -/

/-- Lines, each with the line feed behind it, that are no longer than others. -/
def LinesStretch (lines others : List String) (same : Prop) : Prop :=
  Stretches (String.join (lines.map (· ++ "\n"))) (String.join (others.map (· ++ "\n"))) same

section Lines

variable {lines others rest behind : List String} {same sameBehind : Prop}

theorem LinesStretch.refl (lines : List String) : LinesStretch lines lines True := Stretches.refl _

theorem LinesStretch.append (hlines : LinesStretch lines others same)
    (hrest : LinesStretch rest behind sameBehind) :
    LinesStretch (lines ++ rest) (others ++ behind) (same ∧ sameBehind) := by
  rw [LinesStretch, List.map_append, List.map_append, String.join_append, String.join_append]
  exact Stretches.append hlines hrest

theorem LinesStretch.cons {line other : String} (hline : Stretches line other same)
    (hrest : LinesStretch rest behind sameBehind) :
    LinesStretch (line :: rest) (other :: behind) (same ∧ sameBehind) := by
  rw [LinesStretch, List.map_cons, List.map_cons, String.join_cons, String.join_cons]
  exact ((hline.append (.refl "\n")).congr (and_iff_left trivial)).append hrest

theorem LinesStretch.textOfLines (hlines : LinesStretch lines others same) (last : String) :
    Stretches (textOfLines (lines ++ [last])) (textOfLines (others ++ [last])) same := by
  rw [textOfLines_concat, textOfLines_concat]
  exact (Stretches.append hlines (.refl last)).congr (and_iff_left trivial)

/-- Items on lines of their own, of which each may differ. -/
theorem linesStretch_withCommas {α : Type} {items : List α} {write other : α → String}
    {same : α → Prop} (hitems : ∀ item ∈ items, Stretches (write item) (other item) (same item)) :
    LinesStretch (withCommas (items.map write)) (withCommas (items.map other))
      (∀ item ∈ items, same item) := by
  induction items with
  | nil => exact (LinesStretch.refl []).congr (by simp)
  | cons item rest ih =>
      obtain ⟨hitem, hrest⟩ := List.forall_mem_cons.mp hitems
      cases rest with
      | nil => exact (LinesStretch.cons hitem (.refl [])).congr (by simp)
      | cons next others =>
          have hcomma := (hitem.append (.refl ",")).congr (and_iff_left trivial)
          exact (LinesStretch.cons hcomma (ih hrest)).congr List.forall_mem_cons.symm

end Lines

/-! ## The metadata with literals throughout -/

/-- A member of a mapping whose value is a string. -/
def stringMember (label value : String) : String := label ++ ": " ++ stringLiteral value

/-- The entry of a field, spelled with literals. -/
def FieldEntry.literalText : FieldEntry → String
  | column name => quotedName name ++ ": \x7b" ++ stringMember "columnName" name ++ "\x7d"
  | related relation field =>
    stringLiteral (relation ++ "." ++ field) ++ ": \x7brelation: \x7b" ++
      stringMember "entityName" relation ++ ", " ++ stringMember "refField" field ++ "\x7d\x7d"

/-- The values of a field are written as literals. -/
theorem fieldText_eq (entry : FieldEntry) : entry.text = entry.literalText := by
  cases entry with
  | column name =>
      have hopening : ": \x7bcolumnName: " = ": \x7b" ++ ("columnName" ++ ": ") := rfl
      simp only [FieldEntry.text, FieldEntry.literalText, stringMember, hopening, String.append_assoc]
  | related relation field =>
      have hopening : ": \x7brelation: \x7bentityName: " =
          ": \x7brelation: \x7b" ++ ("entityName" ++ ": ") := rfl
      have hnext : ", refField: " = ", " ++ ("refField" ++ ": ") := rfl
      simp only [FieldEntry.text, FieldEntry.literalText, stringMember, hopening, hnext,
        String.append_assoc]

/-- The entry of a join, in which `write` writes the names of the relation and of the
table. -/
def Join.textWith (write : String → String) (join : Join) : String :=
  quotedName join.relation ++ ": \x7bentity: " ++ join.target ++ ", fieldName: " ++
    write join.relation ++ ", refTable: " ++ write join.targetTable ++ ", refColumns: [" ++
    commaList (join.targetColumns.map stringLiteral) ++ "], joinColumns: [" ++
    commaList (join.ownColumns.map stringLiteral) ++ "], 'type: psql:" ++
    joinKind join.cardinality ++ "\x7d"

/-- The lines of the joins of an entity. -/
def joinLinesWith (write : String → String) (joins : List Join) : List String :=
  if joins.isEmpty then []
  else
    ["        joinMetadata: \x7b"] ++
      withCommas (joins.map fun join => "            " ++ join.textWith write) ++ ["        \x7d"]

/-- The entry of an entity, in which `write` writes its name and its table. -/
def Description.textWith (write : String → String) (description : Description) : String :=
  textOfLines
    (["    [" ++ description.constant ++ "]: \x7b",
      "        entityName: " ++ write description.name ++ ",",
      "        tableName: " ++ write description.table ++ ",",
      "        fieldMetadata: \x7b"] ++
    withCommas (description.fields.map fun entry => "            " ++ entry.literalText) ++
    ["        \x7d,",
      "        keyFields: [" ++ commaList (description.keys.map stringLiteral) ++ "]" ++
        (if description.joins.isEmpty then "" else ",")] ++
    joinLinesWith write description.joins ++ ["    \x7d"])

/-- The member that declares the metadata. -/
def metadataTextWith (write : String → String) (descriptions : List Description) : String :=
  textOfLines
    (["private final record \x7b|psql:SQLMetadata...;|\x7d & readonly metadata = \x7b"] ++
      withCommas (descriptions.map (Description.textWith write)) ++ ["\x7d;"])

theorem joinText_eq (join : Join) : join.text = join.textWith bare := by
  have hfieldName : ", fieldName: \"" = ", fieldName: " ++ "\"" := rfl
  have hrefTable : "\", refTable: \"" = "\"" ++ (", refTable: " ++ "\"") := rfl
  have hrefColumns : "\", refColumns: [" = "\"" ++ ", refColumns: [" := rfl
  simp only [Join.text, Join.textWith, bare, hfieldName, hrefTable, hrefColumns,
    String.append_assoc]

theorem descriptionText_eq (description : Description) :
    description.text = description.textWith bare := by
  have hentityName : "        entityName: \"" = "        entityName: " ++ "\"" := rfl
  have htableName : "        tableName: \"" = "        tableName: " ++ "\"" := rfl
  have hcomma : "\"," = "\"" ++ "," := rfl
  simp only [Description.text, Description.textWith, joinLines, joinLinesWith, joinText_eq,
    fieldText_eq, bare, hentityName, htableName, hcomma, String.append_assoc]

/-- The metadata has its names between bare quotes. -/
theorem metadataText_eq (descriptions : List Description) :
    metadataText descriptions = metadataTextWith bare descriptions := by
  have htexts : Description.text = Description.textWith bare := funext descriptionText_eq
  rw [metadataText, metadataTextWith, htexts]

/-! ## Names that need an escape -/

/-- The names in a description that are put between quotes as they are. -/
def Description.bareNames (description : Description) : List String :=
  description.name :: description.table ::
    description.joins.flatMap fun join => [join.relation, join.targetTable]

/-- The names of a join need no escape. -/
theorem stretches_join (join : Join) :
    Stretches (join.textWith bare) (join.textWith stringLiteral)
      (NeedsNoEscape join.relation ∧ NeedsNoEscape join.targetTable) := by
  have hfixed := Stretches.refl
  have hrelation := stretches_stringLiteral join.relation
  have htable := stretches_stringLiteral join.targetTable
  have hfront := (hfixed (quotedName join.relation ++ ": \x7bentity: " ++ join.target ++
    ", fieldName: ")).append hrelation
  have hboth := (hfront.append (hfixed ", refTable: ")).append htable
  have hall := hboth.append (hfixed (", refColumns: [" ++
    commaList (join.targetColumns.map stringLiteral) ++ "], joinColumns: [" ++
    commaList (join.ownColumns.map stringLiteral) ++ "], 'type: psql:" ++
    joinKind join.cardinality ++ "\x7d"))
  simp only [true_and, and_true, ← String.append_assoc] at hall
  exact hall

theorem linesStretch_joins (joins : List Join) :
    LinesStretch (joinLinesWith bare joins) (joinLinesWith stringLiteral joins)
      (∀ join ∈ joins, NeedsNoEscape join.relation ∧ NeedsNoEscape join.targetTable) := by
  unfold joinLinesWith
  split_ifs with hempty
  · exact (LinesStretch.refl []).congr (by simp [List.isEmpty_iff.mp hempty])
  · have hentries := @linesStretch_withCommas Join joins
      (fun join => "            " ++ join.textWith bare)
      (fun join => "            " ++ join.textWith stringLiteral) _ fun join _ =>
        (Stretches.refl "            ").append (stretches_join join)
    have hall := ((LinesStretch.refl ["        joinMetadata: \x7b"]).append hentries).append
      (.refl ["        \x7d"])
    simpa only [true_and, and_true] using hall

/-- An entry grows unless none of its names needs an escape. -/
theorem stretches_description (description : Description) :
    Stretches (description.textWith bare) (description.textWith stringLiteral)
      (∀ name ∈ description.bareNames, NeedsNoEscape name) := by
  have hlineOf : ∀ (label value : String), Stretches (label ++ bare value ++ ",")
      (label ++ stringLiteral value ++ ",") (NeedsNoEscape value) := fun label value =>
    (((Stretches.refl label).append (stretches_stringLiteral value)).append (.refl ",")).congr
      (by simp)
  have hname := hlineOf "        entityName: " description.name
  have htable := hlineOf "        tableName: " description.table
  have hfirst := LinesStretch.cons (.refl ("    [" ++ description.constant ++ "]: \x7b"))
    (.cons hname (.cons htable (.refl ["        fieldMetadata: \x7b"])))
  have hfields := LinesStretch.refl
    (withCommas (description.fields.map fun entry => "            " ++ entry.literalText))
  have hkeys := LinesStretch.refl ["        \x7d,",
    "        keyFields: [" ++ commaList (description.keys.map stringLiteral) ++ "]" ++
      (if description.joins.isEmpty then "" else ",")]
  have hall := (((hfirst.append hfields).append hkeys).append
    (linesStretch_joins description.joins)).textOfLines "    \x7d"
  refine hall.congr ?_
  simp only [Description.bareNames, List.forall_mem_cons, List.forall_mem_flatMap,
    List.not_mem_nil, false_implies, implies_true, true_and, and_true, and_assoc]

theorem stretches_metadata (descriptions : List Description) :
    Stretches (metadataText descriptions) (metadataTextWith stringLiteral descriptions)
      (∀ name ∈ descriptions.flatMap Description.bareNames, NeedsNoEscape name) := by
  rw [metadataText_eq]
  have hentries := @linesStretch_withCommas Description descriptions _ _ _ fun description _ =>
    stretches_description description
  have hall := ((LinesStretch.refl
    ["private final record \x7b|psql:SQLMetadata...;|\x7d & readonly metadata = \x7b"]).append
      hentries).textOfLines "\x7d;"
  exact hall.congr (by rw [true_and, List.forall_mem_flatMap])

/-! ## The metadata of a client -/

/-- **The metadata of a client is escaped exactly when none of its bare names needs an
escape.**  Its class declares the metadata as a member.  The text of the member would be the
same with literals throughout, each of which denotes its value, exactly when no name that
is put between bare quotes, of an entity, a table or a relation, has a character that a
literal would escape. -/
theorem metadata_is_escaped_iff {flavour : Flavour} {model : DataModel} {client : ClientFile}
    (hclient : generate flavour model = .ok client) :
    ∃ definition metadata,
      ModuleMember.classDef definition ∈ client.source.members ∧
      ClassMember.field metadata ∈ definition.members ∧
      memberIn (metadataText ((covered model).map (describe (covered model)))) = .ok metadata ∧
      (metadataText ((covered model).map (describe (covered model))) =
          metadataTextWith stringLiteral ((covered model).map (describe (covered model))) ↔
        ∀ name ∈ ((covered model).map (describe (covered model))).flatMap Description.bareNames,
          NeedsNoEscape name) ∧
      ∀ value, denoted? (stringLiteral value) = some value := by
  obtain ⟨definition, hdefinition, hsource⟩ := exists_class_of_generate hclient
  obtain ⟨metadata, hfield, hmetadata⟩ := exists_metadata_of_clientClass hdefinition
  have hclass : ModuleMember.classDef definition ∈ client.source.members := by
    rw [hsource]
    simp
  exact ⟨definition, metadata, hclass, hfield, hmetadata, (stretches_metadata _).eq_iff,
    denoted_stringLiteral⟩

/-- The entities, tables and relations of this data model need no escape. -/
theorem metadata_is_escaped_staffModel : ∃ client,
    generate (.database .mysql "Client") staffModel = .ok client ∧
      metadataText ((covered staffModel).map (describe (covered staffModel))) =
        metadataTextWith stringLiteral
          ((covered staffModel).map (describe (covered staffModel))) := by
  obtain ⟨client, hclient⟩ := exists_client_staffModel
  obtain ⟨_, _, -, -, -, hescaped, -⟩ := metadata_is_escaped_iff hclient
  exact ⟨client, hclient, hescaped.mpr (by decide +kernel)⟩

/-! ## A table that needs an escape -/

/-- An entity whose table has a backslash in its name. -/
def backslashModel : DataModel where
  name := "m"
  entities := [⟨"E", some "a\\b", [⟨"id", .int, true, false, true⟩], []⟩]
  enumerations := []

/-- The metadata is the only member of a client that holds the table of an entity. -/
theorem exists_clientClass_of_metadata {flavour : Flavour} (hoffered : flavour.IsOffered)
    {entity : Entity} (hentity : NamedEntity { entity with table := none })
    (hmetadata : ∃ metadata, memberIn (metadataText [describe [entity] entity]) = .ok metadata) :
    ∃ definition, clientClass flavour [entity] = .ok definition := by
  obtain ⟨metadata, hmetadata⟩ := hmetadata
  obtain ⟨_, hplain, -⟩ := exists_clientClass hoffered (List.forall_mem_singleton.mpr hentity)
  simp only [clientClass, fields, bind_eq_ok_iff, pure_eq_ok_iff, readFragment_eq_ok_iff]
    at hplain ⊢
  obtain ⟨_, ⟨inclusion, hinclusion, connection, hconnection, clients, hclients, -, -, -⟩,
    opening, hopening, resources, hresources, query, hquery, execute, hexecute, closing, hclosing,
    -⟩ := hplain
  exact ⟨_, _, ⟨inclusion, hinclusion, connection, hconnection, clients, hclients, metadata,
    hmetadata, rfl⟩, opening, hopening, resources, hresources, query, hquery, execute, hexecute,
    closing, hclosing, rfl⟩

/-- A table is put between quotes although a literal would escape it, and what stands there
does not denote the table. -/
theorem backslash_is_not_escaped : ∃ client,
    generate (.database .mysql "Client") backslashModel = .ok client ∧
      metadataText ((covered backslashModel).map (describe (covered backslashModel))) ≠
        metadataTextWith stringLiteral
          ((covered backslashModel).map (describe (covered backslashModel))) ∧
      denoted? (bare "a\\b") ≠ some "a\\b" := by
  have hoffered : (Flavour.database .mysql "Client").IsOffered :=
    .database .mysql (by decide +kernel)
  have hnamed : ∀ entity ∈ covered backslashModel, NamedEntity { entity with table := none } := by
    decide +kernel
  have hmetadata : ∃ metadata, memberIn (metadataText
      ((covered backslashModel).map (describe (covered backslashModel)))) = .ok metadata :=
    exists_of_isOk (by decide +kernel)
  obtain ⟨definition, hdefinition⟩ :=
    exists_clientClass_of_metadata hoffered (hnamed _ (by decide)) hmetadata
  have hkeys : checkKeys (covered backslashModel) = .ok () := rfl
  have hdistinct : checkCollisions (covered backslashModel) = .ok () :=
    checkCollisions_of_not_collide (firstCollision_takenNames_eq_none_iff.mp (by decide +kernel))
  have hclient : ∃ client, generate (.database .mysql "Client") backslashModel = .ok client := by
    simp only [generate_of_ne_nil (show backslashModel.entities ≠ [] by decide), bind_eq_ok_iff,
      pure_eq_ok_iff]
    exact ⟨_, (), hkeys, (), hdistinct, definition, hdefinition, rfl⟩
  obtain ⟨client, hclient⟩ := hclient
  refine ⟨client, hclient, fun hsame => ?_, by decide +kernel⟩
  exact absurd ((stretches_metadata _).eq_iff.mp hsame) (by decide +kernel)

end PersistLayer.Client
