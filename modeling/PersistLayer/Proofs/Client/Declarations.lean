import PersistLayer.Proofs.Client.Outcome
import PersistLayer.Proofs.DataTypes

/-!
# Names that are declared twice

The file of a client and the file of data types belong to one module, and neither
generator sees what the other declares.  The client declares a constant for every entity
that it covers, in upper case, and its class; the data types are named as in the data
model, or by a suffix to the name of an entity.

Three kinds of names stay apart by how they are made.  Two constants differ, since the
client is refused otherwise.  Two names with a suffix differ, since the suffixes do.  And
no constant is a name with a suffix, since all suffixes hold an `e`.  What the generators
leave open are the names of the data model themselves: a constant may be named as an
entity, as in the case of an entity whose name is in upper case already, and so may a
type with a suffix.  Nothing else is declared twice (`declaredNames_nodup_iff`).
-/

namespace PersistLayer.Client

open Schema Syntax DataTypes

/-! ## Names that stay apart -/

/-- All suffixes, and the name of the client, hold the letter `e`. -/
theorem e_mem_of_mem_derivedNames {model : DataModel} {entity : Entity} {name : String}
    (hname : name ∈ derivedNames model entity) : 'e' ∈ name.toList := by
  have hsuffixes : ∀ suffix ∈ suffixes, 'e' ∈ suffix.toList := by decide
  obtain ⟨suffix, hsuffix, rfl⟩ := exists_suffix_of_mem_derivedNames hname
  rw [String.toList_append]
  exact List.mem_append_right _ (hsuffixes suffix hsuffix)

theorem constantName_not_mem_derivedNames (entity : Entity) {model : DataModel} {other : Entity} :
    entity.constantName ∉ derivedNames model other := fun hmem =>
  not_mem_constantName entity (by decide) (e_mem_of_mem_derivedNames hmem)

theorem constantName_ne_client (entity : Entity) : entity.constantName ≠ "Client" := by
  intro hsame
  have he : 'e' ∈ entity.constantName.toList := by
    rw [hsame]
    decide
  exact not_mem_constantName entity (by decide) he

theorem client_not_mem_derivedNames {model : DataModel} {entity : Entity} :
    "Client" ∉ derivedNames model entity := by
  have hends : ∀ suffix ∈ suffixes, ¬ suffix.toList <:+ "Client".toList := by decide +kernel
  intro hmem
  obtain ⟨suffix, hsuffix, hname⟩ := exists_suffix_of_mem_derivedNames hmem
  refine hends suffix hsuffix ?_
  rw [hname, String.toList_append]
  exact List.suffix_append _ _

/-! ## Both files -/

section Generated

variable {datasource : Datasource} {model : DataModel} {client : ClientFile}

theorem name_of_clientClass {flavour : Flavour} {entities : List Entity} {definition : ClassDef}
    (hdefinition : clientClass flavour entities = .ok definition) :
    definition.name = flavour.className := by
  simp only [clientClass, bind_eq_ok_iff, pure_eq_ok_iff] at hdefinition
  obtain ⟨_, -, _, -, _, -, _, -, _, -, _, -, rfl⟩ := hdefinition
  rfl

variable (hclient : generate (.database datasource "Client") model = .ok client)

include hclient

theorem declaredNames_of_generate : client.source.declaredNames =
    (covered model).map Entity.constantName ++ ["Client"] := by
  obtain ⟨definition, hdefinition, hsource⟩ := exists_class_of_generate hclient
  have hname : definition.name = "Client" := name_of_clientClass hdefinition
  have hconstants : (constants (covered model)).filterMap ModuleMember.declared =
      (covered model).map Entity.constantName := by
    rw [constants, List.filterMap_map, ← List.filterMap_eq_map]
    rfl
  simp only [SourceFile.declaredNames, hsource, List.filterMap_append, hconstants]
  simp [ModuleMember.declared, hname]

/-- **When a name is declared twice.**  With different names for all entities and
enumerations, none of them that of the client, the two files declare no name twice
exactly when no constant and no type with a suffix has the name of an entity or of an
enumeration. -/
theorem declaredNames_nodup_iff (hnames : (sourceNames model).Nodup)
    (hfree : "Client" ∉ sourceNames model) :
    ∃ types, DataTypes.generate model = some types ∧
      ((client.source.declaredNames ++ types.declaredNames).Nodup ↔
        (∀ entity ∈ covered model, entity.constantName ∉ sourceNames model) ∧
          ∀ entity ∈ model.entities, ∀ name ∈ derivedNames model entity,
            name ∉ sourceNames model) := by
  obtain ⟨types, htypes, hmembers⟩ := exists_file_of_ne_nil (entities_ne_nil_of_generate hclient)
  refine ⟨types, htypes, ?_⟩
  have hclientNames : ((covered model).map Entity.constantName ++ ["Client"]).Nodup := by
    refine List.nodup_append.mpr ⟨nodup_constantNames hclient, List.nodup_singleton _, ?_⟩
    simp only [List.mem_map, List.mem_singleton, forall_eq]
    rintro _ ⟨entity, -, rfl⟩
    exact constantName_ne_client entity
  rw [declaredNames_of_generate hclient, ((declaredNames_perm hmembers).append_left _).nodup_iff,
    List.nodup_append, nodup_sourceNames_append_iff hnames, and_iff_right hclientNames]
  constructor
  · rintro ⟨hsuffixed, hacross⟩
    refine ⟨?_, hsuffixed⟩
    intro entity hentity hmem
    exact hacross _ (List.mem_append_left _ (List.mem_map_of_mem hentity)) _
      (List.mem_append_left _ hmem) rfl
  · rintro ⟨hconstants, hsuffixed⟩
    refine ⟨hsuffixed, ?_⟩
    -- what is left is a name of the client against a name of the data types
    rintro name hname _ hmem rfl
    rcases List.mem_append.mp hname with hconstant | hclass
    · obtain ⟨entity, hentity, rfl⟩ := List.mem_map.mp hconstant
      rcases List.mem_append.mp hmem with hsource | hsuffix
      · exact hconstants entity hentity hsource
      · obtain ⟨other, -, hother⟩ := List.mem_flatMap.mp hsuffix
        exact constantName_not_mem_derivedNames entity hother
    · obtain rfl := List.mem_singleton.mp hclass
      rcases List.mem_append.mp hmem with hsource | hsuffix
      · exact hfree hsource
      · obtain ⟨other, -, hother⟩ := List.mem_flatMap.mp hsuffix
        exact client_not_mem_derivedNames hother

end Generated

/-- Two related entities, one of which has the beginning of the other's name, an entity that
no client covers although its name is in upper case, and an enumeration. -/
def officeModel : DataModel where
  name := "office"
  entities :=
    [⟨"Desk", none, [⟨"id", .int, true, false, true⟩], [⟨"room", "DeskRoom", .one, true, []⟩]⟩,
      ⟨"DeskRoom", none, [⟨"id", .int, true, false, true⟩], []⟩,
      ⟨"PLAN", none, [⟨"drawing", .other "Blob", true, false, false⟩], []⟩]
  enumerations := [⟨"Floor", ["GROUND", "FIRST"]⟩]

theorem declaredNames_officeModel :
    (sourceNames officeModel).Nodup ∧ "Client" ∉ sourceNames officeModel ∧
      ∃ client types, generate (.database .mysql "Client") officeModel = .ok client ∧
        DataTypes.generate officeModel = some types ∧
        (client.source.declaredNames ++ types.declaredNames).Nodup := by
  have hnames : (sourceNames officeModel).Nodup := by decide
  have hfree : "Client" ∉ sourceNames officeModel := by decide
  obtain ⟨client, hclient⟩ : ∃ client,
      generate (.database .mysql "Client") officeModel = .ok client :=
    exists_client_of_checks (by decide) (by decide +kernel) (by decide) (by decide +kernel)
  obtain ⟨types, htypes, hiff⟩ := declaredNames_nodup_iff hclient hnames hfree
  exact ⟨hnames, hfree, client, types, hclient, htypes,
    hiff.mpr ⟨by decide +kernel, by decide +kernel⟩⟩

/-- An entity whose name is in upper case. -/
def upperModel : DataModel where
  name := "m"
  entities := [⟨"ORDER", none, [⟨"id", .int, true, false, true⟩], []⟩]
  enumerations := []

/-- The client of an entity whose name is in upper case declares a constant under the name of
its record type. -/
theorem order_is_declared_twice :
    (sourceNames upperModel).Nodup ∧ "Client" ∉ sourceNames upperModel ∧
      ∃ client types, generate (.database .mysql "Client") upperModel = .ok client ∧
        DataTypes.generate upperModel = some types ∧
        ¬ (client.source.declaredNames ++ types.declaredNames).Nodup := by
  obtain ⟨client, hclient⟩ : ∃ client,
      generate (.database .mysql "Client") upperModel = .ok client :=
    exists_client_of_checks (by decide) (by decide +kernel) (by decide) (by decide +kernel)
  obtain ⟨types, htypes, hmembers⟩ := exists_file_of_ne_nil (entities_ne_nil_of_generate hclient)
  refine ⟨by decide, by decide, client, types, hclient, htypes, ?_⟩
  have hconstant : "ORDER" ∈ client.source.declaredNames := by
    rw [declaredNames_of_generate hclient]
    decide +kernel
  have htype : "ORDER" ∈ types.declaredNames := by
    rw [(declaredNames_perm hmembers).mem_iff]
    decide
  intro hnodup
  exact (List.nodup_append.mp hnodup).2.2 _ hconstant _ htype rfl

end PersistLayer.Client
