import PersistLayer.Proofs.Client.Fragments

/-!
# The metadata of a client can be read

The member that describes the covered entities is one construct, however many
entities, fields and joins it describes.  It has its value in braces, and whatever
stands between them leaves everything as it was.
-/

namespace PersistLayer.Client

open Schema Syntax

/-! ## Named descriptions -/

/-- The names in a join are names. -/
structure NamedJoin (join : Join) : Prop where
  relation : IsName join.relation
  target : IsName join.target
  targetTable : IsName join.targetTable

/-- The names in a description are names. -/
structure NamedDescription (description : Description) : Prop where
  constant : IsFitName description.constant
  name : IsName description.name
  table : IsName description.table
  columns : ∀ name, .column name ∈ description.fields → IsName name
  joins : ∀ join ∈ description.joins, NamedJoin join

theorem mem_coveredRelations {covered : List Entity} {entity target : Entity}
    {relation : Relation} (hmem : (relation, target) ∈ coveredRelations covered entity) :
    relation ∈ entity.relations ∧ target ∈ covered := by
  obtain ⟨other, hother, hfound⟩ := List.mem_filterMap.mp hmem
  obtain ⟨found, hfind, hpair⟩ := Option.map_eq_some_iff.mp hfound
  obtain ⟨rfl, rfl⟩ := Prod.mk.inj hpair
  exact ⟨hother, List.mem_of_find?_eq_some hfind⟩

theorem name_of_mem_coveredRelations {covered : List Entity} {entity target : Entity}
    {relation : Relation} (hmem : (relation, target) ∈ coveredRelations covered entity) :
    target.name = relation.target := by
  obtain ⟨other, -, hfound⟩ := List.mem_filterMap.mp hmem
  obtain ⟨found, hfind, hpair⟩ := Option.map_eq_some_iff.mp hfound
  obtain ⟨rfl, rfl⟩ := Prod.mk.inj hpair
  simpa using List.find?_some hfind

/-- The covered relations are those whose targets are covered, in order. -/
theorem map_fst_coveredRelations (covered : List Entity) (entity : Entity) :
    (coveredRelations covered entity).map Prod.fst =
      entity.relations.filter fun relation =>
        covered.any fun target => target.name == relation.target := by
  rw [coveredRelations, List.map_filterMap, ← List.filterMap_eq_filter]
  refine List.filterMap_congr fun relation _ => ?_
  cases hfound : covered.find? fun target => target.name == relation.target with
  | none =>
      have hskipped : (covered.any fun target => target.name == relation.target) = false := by
        simpa using List.find?_eq_none.mp hfound
      simp [Option.guard, hskipped]
  | some target =>
      have hname : (target.name == relation.target) = true := by
        simpa using List.find?_some hfound
      have hcovered : (covered.any fun target => target.name == relation.target) = true :=
        List.any_eq_true.mpr ⟨target, List.mem_of_find?_eq_some hfound, hname⟩
      simp [Option.guard, hcovered]

/-- The names of an entity that the metadata holds are names. -/
structure DescribedNames (entity : Entity) : Prop where
  name : IsName entity.name
  table : IsName entity.tableName
  fields : ∀ field ∈ entity.fields, IsName field.name
  relations : ∀ relation ∈ entity.relations, IsName relation.name

theorem NamedEntity.described {entity : Entity} (hentity : NamedEntity entity) :
    DescribedNames entity :=
  ⟨hentity.name, hentity.tableName, fun field hfield => (hentity.fields field hfield).1,
    hentity.relations⟩

theorem namedDescription_describe {covered : List Entity}
    (hcovered : ∀ entity ∈ covered, DescribedNames entity) {entity : Entity}
    (hentity : DescribedNames entity) : NamedDescription (describe covered entity) where
  constant := isFitName_constantName hentity.name
  name := hentity.name
  table := hentity.table
  columns := by
    intro name hname
    rcases List.mem_append.mp hname with hname | hname
    · obtain ⟨field, hfield, heq⟩ := List.mem_map.mp hname
      obtain rfl : field.name = name := by simpa using heq
      exact hentity.fields field hfield
    · -- the fields of a target are related ones
      obtain ⟨⟨relation, target⟩, -, hname⟩ := List.mem_flatMap.mp hname
      obtain ⟨field, -, heq⟩ := List.mem_map.mp hname
      cases heq
  joins := by
    intro join hjoin
    obtain ⟨⟨relation, target⟩, hpair, rfl⟩ := List.mem_map.mp hjoin
    obtain ⟨hrelation, htarget⟩ := mem_coveredRelations hpair
    exact ⟨hentity.relations relation hrelation, (hcovered target htarget).name,
      (hcovered target htarget).table⟩

/-- What is described of some entities is named as they are. -/
theorem namedDescriptions {entities : List Entity}
    (hentities : ∀ entity ∈ entities, DescribedNames entity) :
    ∀ description ∈ entities.map (describe entities), NamedDescription description := by
  intro description hdescription
  obtain ⟨entity, hentity, rfl⟩ := List.mem_map.mp hdescription
  exact namedDescription_describe hentities (hentities entity hentity)

/-! ## Entries -/

theorem fits_literals (values : List String) :
    Fits [] [] (commaList (values.map stringLiteral)) := by
  apply fits_commaList
  intro text htext
  obtain ⟨value, -, rfl⟩ := List.mem_map.mp htext
  exact fits_stringLiteral value

theorem fits_fieldEntry {entry : FieldEntry} (hname : ∀ name, entry = .column name → IsName name) :
    Fits [] [] entry.text := by
  have hclose : Fits [.bracket '{'] [] "\x7d" := fits_of_run rfl rfl
  cases entry with
  | column name =>
      have hopen : Fits [] [.bracket '{'] ": \x7bcolumnName: " := fits_of_run rfl rfl
      have hkey := (isFitName_of_isName (hname name rfl)).quotedName.fits
      exact ((hkey.append hopen).append ((fits_stringLiteral name).within _)).append hclose
  | related relation field =>
      have hopen : Fits [] [.bracket '{', .bracket '{'] ": \x7brelation: \x7bentityName: " :=
        fits_of_run rfl rfl
      have hnext : Fits [] [] ", refField: " := fits_neutral rfl rfl
      have hcloseBoth : Fits [.bracket '{', .bracket '{'] [] "\x7d\x7d" := fits_of_run rfl rfl
      have hkey := fits_stringLiteral (relation ++ "." ++ field)
      have hrelation := fits_stringLiteral relation
      exact ((((hkey.append hopen).append (hrelation.within _)).append (hnext.within _)).append
        ((fits_stringLiteral field).within _)).append hcloseBoth

theorem fits_join {join : Join} (hjoin : NamedJoin join) : Fits [] [] join.text := by
  have hopen : Fits [] [.bracket '{'] ": \x7bentity: " := fits_of_run rfl rfl
  have hfield : Fits [] [] (", fieldName: \"" ++ join.relation ++ "\"") :=
    fits_quoted (isFitName_of_isName hjoin.relation) (fun _ => rfl) (fun _ => rfl) rfl rfl
  have htable : Fits [] [.bracket '['] (", refTable: \"" ++ join.targetTable ++
      "\", refColumns: [") :=
    fits_quoted (isFitName_of_isName hjoin.targetTable) (fun _ => rfl) (fun _ => rfl) rfl rfl
  have hnext : Fits [.bracket '['] [.bracket '['] "], joinColumns: [" := fits_of_run rfl rfl
  have htype : Fits [.bracket '['] [] "], 'type: psql:" := fits_of_run rfl rfl
  have hkind : Fits [] [] (joinKind join.cardinality) := by
    cases join.cardinality <;> exact fits_neutral rfl rfl
  have hclose : Fits [.bracket '{'] [] "\x7d" := fits_of_run rfl rfl
  have hrelation := (isFitName_of_isName hjoin.relation).quotedName.fits
  have htarget := (isFitName_of_isName hjoin.target).fits
  have hcolumns := ((htable.append ((fits_literals join.targetColumns).within _)).append
    (hnext.append ((fits_literals join.ownColumns).within _))).append htype
  have hinner := ((htarget.append hfield).append hcolumns).append hkind
  have hall := ((hrelation.append hopen).append (hinner.within _)).append hclose
  -- the quote behind the name of the relation stands in one literal with what follows
  have hquote : "\", refTable: \"" = "\"" ++ ", refTable: \"" := rfl
  simpa only [Join.text, hquote, String.append_assoc] using hall

/-! ## Entities -/

theorem linesFit_joinLines {joins : List Join} (hjoins : ∀ join ∈ joins, NamedJoin join) :
    LinesFit [] [] (joinLines joins) := by
  have hopen : Fits [] [.bracket '{'] "        joinMetadata: \x7b" := fits_of_run rfl rfl
  have hclose : Fits [.bracket '{'] [] "        \x7d" := fits_of_run rfl rfl
  have hindent : Fits [] [] "            " := fits_neutral rfl rfl
  unfold joinLines
  split_ifs
  · exact .nil []
  · have hentries := @linesFit_withCommas (joins.map fun join => "            " ++ join.text)
      (by
        intro text htext
        obtain ⟨join, hjoin, rfl⟩ := List.mem_map.mp htext
        exact hindent.append (fits_join (hjoins join hjoin)))
    exact LinesFit.append (.opens hopen (hentries _)) (.closes hclose (.nil []))

theorem fits_description {description : Description} (hnames : NamedDescription description) :
    Fits [] [] description.text := by
  have hkey : Fits [] [.bracket '['] "    [" := fits_of_run rfl rfl
  have hvalue : Fits [.bracket '['] [.bracket '{'] "]: \x7b" := fits_of_run rfl rfl
  have hfirst := (hkey.append (hnames.constant.fits.within _)).append hvalue
  have hname : Fits [] [] ("        entityName: \"" ++ description.name ++ "\",") :=
    fits_quoted (isFitName_of_isName hnames.name) (fun _ => rfl) (fun _ => rfl) rfl rfl
  have htable : Fits [] [] ("        tableName: \"" ++ description.table ++ "\",") :=
    fits_quoted (isFitName_of_isName hnames.table) (fun _ => rfl) (fun _ => rfl) rfl rfl
  have hfields : Fits [] [.bracket '{'] "        fieldMetadata: \x7b" := fits_of_run rfl rfl
  have hindent : Fits [] [] "            " := fits_neutral rfl rfl
  have hentries := @linesFit_withCommas
    (description.fields.map fun entry => "            " ++ entry.text) (by
      intro text htext
      obtain ⟨entry, hentry, rfl⟩ := List.mem_map.mp htext
      exact hindent.append (fits_fieldEntry fun name h => hnames.columns name (h ▸ hentry)))
  have hfieldsEnd : Fits [.bracket '{'] [] "        \x7d," := fits_of_run rfl rfl
  have hkeys : Fits [] [] ("        keyFields: [" ++
      commaList (description.keys.map stringLiteral) ++ "]") :=
    fits_enclosed '[' (fits_of_run rfl rfl) (fits_literals description.keys) (fits_of_run rfl rfl)
  have hcomma : Fits [] [] (if description.joins.isEmpty then "" else ",") := by
    split_ifs <;> exact fits_neutral rfl rfl
  have hlast : Fits [.bracket '{'] [] "    \x7d" := fits_of_run rfl rfl
  have hjoins := (linesFit_joinLines hnames.joins).inside [.bracket '{']
  -- the brackets that are open from line to line: the entry's and those of its lists
  have hopening := LinesFit.opens hfirst (.keep hname (.keep htable (.opens hfields
    (.nil [.bracket '{', .bracket '{']))))
  have hmiddle := LinesFit.closes hfieldsEnd (.keep (hkeys.append hcomma) (.nil [.bracket '{']))
  exact ((((hopening.append (hentries _)).append hmiddle).append hjoins).append
    (.closes hlast (.nil []))).fits

/-- The head of the metadata: code up to the brace in front of the first entity. -/
def metadataHead : String :=
  "private final record \x7b|psql:SQLMetadata...;|\x7d & readonly metadata = \x7b"

theorem opensOne_metadataHead : OpensOne '{' .braced metadataHead where
  mode := by decide +kernel
  frames := by decide +kernel
  form := by decide +kernel

/-- **The metadata can be read**, whatever is described. -/
theorem exists_metadata {descriptions : List Description}
    (hnames : ∀ description ∈ descriptions, NamedDescription description) :
    ∃ snippet, memberIn (metadataText descriptions) = .ok snippet := by
  have hopen : Fits [] [.bracket '{'] metadataHead := fits_of_run rfl rfl
  have hclose : Fits [.bracket '{'] [] "\x7d;" := fits_of_run rfl rfl
  have htexts : ∀ text ∈ descriptions.map Description.text, Fits [] [] text := by
    intro text htext
    obtain ⟨description, hdescription, rfl⟩ := List.mem_map.mp htext
    exact fits_description (hnames description hdescription)
  have hlines := LinesFit.append (.opens hopen (linesFit_withCommas htexts _))
    (.closes hclose (.nil []))
  have hstatements : IsStatements (metadataText descriptions) :=
    hlines.isStatements List.getLast?_concat (by rfl)
  -- what stands between the braces
  have hinner : Neutral ("\n" ++ String.join
      ((withCommas (descriptions.map Description.text)).map (· ++ "\n"))) := by
    refine Neutral.append (neutral_of_run rfl) (neutral_join ?_)
    intro part hpart
    obtain ⟨text, htext, rfl⟩ := List.mem_map.mp hpart
    exact (fits_of_mem_withCommas htexts text htext).turns.append (neutral_of_run rfl)
  have heq : metadataText descriptions = metadataHead ++ ("\n" ++ String.join
      ((withCommas (descriptions.map Description.text)).map (· ++ "\n"))) ++ "\x7d;" := by
    rw [metadataText, textOfLines_concat, List.singleton_append, List.map_cons, String.join_cons]
    simp only [metadataHead, String.append_assoc]
  rw [heq] at hstatements ⊢
  exact exists_memberIn opensOne_metadataHead hinner hstatements

end PersistLayer.Client
