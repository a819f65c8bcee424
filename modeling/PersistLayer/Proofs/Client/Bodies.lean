import PersistLayer.Proofs.Client.Fragments

/-!
# The bodies of client functions can be read

The statements of every function of a client, whatever its entity, its keys and its
constant are called.
-/

namespace PersistLayer.Client

open Schema Syntax

/-! ## Keys -/

section Keys

variable {keys : List Field} (hkeys : ∀ key ∈ keys, IsName key.name)

include hkeys

theorem fits_keyName {key : Field} (hkey : key ∈ keys) : Fits [] [] (quotedName key.name) :=
  (isFitName_of_isName (hkeys key hkey)).quotedName.fits

theorem fits_argument : Fits [] [] (Key.argument keys) := by
  have hopen : Fits [] [.bracket '{'] "\x7b" := fits_of_run rfl rfl
  have hclose : Fits [.bracket '{'] [] "\x7d" := fits_of_run rfl rfl
  have hcolon : Fits [] [] ": " := fits_neutral rfl rfl
  have hmany : Fits [] [] ("\x7b" ++ commaList (keys.map fun key =>
      stringLiteral key.name ++ ": " ++ quotedName key.name) ++ "\x7d") := by
    refine fits_enclosed '{' hopen (fits_commaList ?_) hclose
    intro text htext
    obtain ⟨key, hkey, rfl⟩ := List.mem_map.mp htext
    exact ((fits_stringLiteral _).append hcolon).append (fits_keyName hkeys hkey)
  unfold Key.argument
  split
  · exact fits_keyName hkeys List.mem_cons_self
  · exact hmany

theorem fits_projection : Fits [] [] (Key.projection keys) := by
  have hopen : Fits [] [.bracket '['] "[" := fits_of_run rfl rfl
  have hclose : Fits [.bracket '['] [] "]" := fits_of_run rfl rfl
  have hinserted : Fits [] [] "inserted." := fits_neutral rfl rfl
  have hmany : Fits [] [] ("[" ++ commaList (keys.map fun key =>
      "inserted." ++ quotedName key.name) ++ "]") := by
    refine fits_enclosed '[' hopen (fits_commaList ?_) hclose
    intro text htext
    obtain ⟨key, hkey, rfl⟩ := List.mem_map.mp htext
    exact hinserted.append (fits_keyName hkeys hkey)
  unfold Key.projection
  split
  · exact hinserted.append (fits_keyName hkeys List.mem_cons_self)
  · exact hmany

/-- The segments of a client path, which no slash begins. -/
theorem fits_segment : ∀ text ∈ keys.map (fun key => "[" ++ quotedName key.name ++ "]"),
    Fits [] [] text ∧ BeginsOther text := by
  have hopen : Fits [] [.bracket '['] "[" := fits_of_run rfl rfl
  have hclose : Fits [.bracket '['] [] "]" := fits_of_run rfl rfl
  have hbegins : BeginsOther "[" := ⟨'[', [], rfl, by decide⟩
  intro text htext
  obtain ⟨key, hkey, rfl⟩ := List.mem_map.mp htext
  exact ⟨fits_enclosed '[' hopen (fits_keyName hkeys hkey) hclose, (hbegins.append _).append _⟩

/-- A call on the path of a record.  The slashes in it stand next to names and brackets,
so none begins a comment. -/
theorem fits_recordCall {base call resource : String} (hbase : Fits [] [] base)
    (hcall : call = base ++ "/") (hresource : IsFitName resource) :
    Fits [] [] (call ++ resource ++ "/" ++ Key.clientPath keys ++ ".get();") := by
  have hsegment := fits_segment hkeys
  have hget : Fits [] [] ".get();" := fits_neutral rfl rfl
  have hslash : Spaced "/" := rfl
  have hpath : Neutral (Key.clientPath keys) :=
    neutral_intercalate_slash fun text h => ⟨(hsegment text h).1.turns, (hsegment text h).2⟩
  have hspaced : Spaced (Key.clientPath keys) :=
    spaced_intercalate hslash fun text h => (hsegment text h).1.spaced
  have hbegins : BeginsOther (Key.clientPath keys ++ ".get();") := by
    rcases keys with _ | ⟨key, rest⟩
    · exact ⟨'.', _, rfl, by decide⟩
    · exact ((hsegment _ List.mem_cons_self).2.intercalate _ _).append _
  subst hcall
  refine ⟨?_, ?_⟩
  · have hback : Neutral (resource ++ ("/" ++ (Key.clientPath keys ++ ".get();"))) :=
      hresource.isInert.neutral.append (neutral_slash (hpath.append hget.turns) hbegins)
    have hall : Turns [] [] (base ++ ("/" ++ (resource ++ ("/" ++
        (Key.clientPath keys ++ ".get();"))))) :=
      hbase.turns.append (neutral_slash hback (hresource.isInert.beginsOther.append _))
    simpa only [String.append_assoc] using hall
  · exact (((((hbase.spaced.append hslash).append hresource.fits.spaced).append hslash).append
      hspaced).append hget.spaced)

end Keys

/-! ## Bodies -/

/-- The lines that return what is selected of the created records. -/
theorem linesFit_select {insertType projection : String} (hinsert : IsFitName insertType)
    (hprojection : Fits [] [] projection) :
    LinesFit [] [] ["return from " ++ insertType ++ " inserted in data",
      "    select " ++ projection ++ ";"] := by
  have hreturn : Fits [] [] "return from " := fits_neutral rfl rfl
  have hdata : Fits [] [] " inserted in data" := fits_neutral rfl rfl
  have hselect : Fits [] [] "    select " := fits_neutral rfl rfl
  have hend : Fits [] [] ";" := fits_neutral rfl rfl
  exact .keep ((hreturn.append hinsert.fits).append hdata)
    (.keep ((hselect.append hprojection).append hend) (.nil []))

section Bodies

variable {constant : String} (hconstant : IsFitName constant)

include hconstant

theorem linesFit_sqlClient : LinesFit [] [] (Body.sqlClientLines constant) := by
  have hlock : Fits [] [.bracket '{'] "lock \x7b" := fits_of_run rfl rfl
  have hopen : Fits [] [.bracket '('] "    sqlClient = self.persistClients.get(" :=
    fits_of_run rfl rfl
  have hclose : Fits [.bracket '('] [] ");" := fits_of_run rfl rfl
  have hunlock : Fits [.bracket '{'] [] "\x7d" := fits_of_run rfl rfl
  have hget := fits_enclosed '(' hopen hconstant.fits hclose
  exact .keep (fits_neutral rfl rfl) (.opens hlock (.keep hget (.closes hunlock (.nil []))))

theorem isStatements_post {insertType projection : String} (hinsert : IsFitName insertType)
    (hprojection : Fits [] [] projection) :
    IsStatements (Body.post constant insertType projection) := by
  have hquery : Fits [] [] "_ = check sqlClient.runBatchInsertQuery(data);" :=
    fits_neutral rfl rfl
  have hlines := LinesFit.keep hquery (linesFit_select hinsert hprojection)
  exact ((linesFit_sqlClient hconstant).append hlines).isStatements rfl
    (getLast?_append_eq (by rfl))

variable {resource : String} (hresource : IsFitName resource) {keys : List Field}
  (hkeys : ∀ key ∈ keys, IsName key.name)

include hresource hkeys

omit hresource in
/-- The lines of an update in front of the one that returns the record. -/
theorem linesFit_update : LinesFit [] [] (Body.sqlClientLines constant ++
    ["_ = check sqlClient.runUpdateQuery(" ++ Key.argument keys ++ ", value);"]) := by
  have hopen : Fits [] [.bracket '('] "_ = check sqlClient.runUpdateQuery(" := fits_of_run rfl rfl
  have hclose : Fits [.bracket '('] [] ", value);" := fits_of_run rfl rfl
  have hquery := fits_enclosed '(' hopen (fits_argument hkeys) hclose
  exact (linesFit_sqlClient hconstant).append (.keep hquery (.nil []))

theorem isStatements_put :
    IsStatements (Body.put constant resource (Key.argument keys) (Key.clientPath keys)) := by
  have hreturn : Fits [] [] "return self->" := fits_neutral rfl rfl
  have hcall := @fits_recordCall _ hkeys _ "return self->/" _ hreturn rfl hresource
  have hlines := (linesFit_update hconstant hkeys).append (.keep hcall (.nil []))
  exact hlines.isStatements rfl (getLast?_append_eq (by rfl))

theorem isStatements_delete {entity : String} (hentity : IsFitName entity) :
    IsStatements (Body.delete entity constant resource (Key.argument keys)
      (Key.clientPath keys)) := by
  have hopen : Fits [] [.bracket '('] "_ = check sqlClient.runDeleteQuery(" := fits_of_run rfl rfl
  have hclose : Fits [.bracket '('] [] ");" := fits_of_run rfl rfl
  have hresult : Fits [] [] " result = check self->" := fits_neutral rfl rfl
  have hquery := fits_enclosed '(' hopen (fits_argument hkeys) hclose
  have hcall := @fits_recordCall _ hkeys _ (entity ++ " result = check self->/") _
    (hentity.fits.append hresult) (by rw [String.append_assoc]; rfl) hresource
  have hlines := LinesFit.keep hcall ((linesFit_sqlClient hconstant).append
    (.keep hquery (.keep (fits_neutral rfl rfl : Fits [] [] "return result;") (.nil []))))
  exact @LinesFit.isStatements _ hlines "return result;" rfl (by rfl)

end Bodies

/-- A condition on an error, whose body is one line. -/
theorem linesFit_if {condition line : String}
    (hcondition : Fits [] [.bracket '{'] condition) (hline : Fits [] [] line) :
    LinesFit [] [] [condition, line, "\x7d"] := by
  have hclose : Fits [.bracket '{'] [] "\x7d" := fits_of_run rfl rfl
  exact .opens hcondition (.keep hline (.closes hclose (.nil [])))

theorem isStatements_close : IsStatements Body.close := by
  have hif : Fits [] [.bracket '{'] "if result is error \x7b" := fits_of_run rfl rfl
  have hresult : Fits [] [] "error? result = self.dbClient.close();" := fits_neutral rfl rfl
  have hreturn : Fits [] [] "    return <persist:Error>error(result.message());" :=
    fits_neutral rfl rfl
  have hend : Fits [] [] "return result;" := fits_neutral rfl rfl
  have hlines := LinesFit.keep hresult ((linesFit_if hif hreturn).append (.keep hend (.nil [])))
  exact @LinesFit.isStatements _ hlines "return result;" rfl (by rfl)

/-- The registration of an SQL client. -/
theorem fits_registration {specifics constant : String} (hspecifics : Fits [] [] specifics)
    (hconstant : IsFitName constant) (hasCustomSchema : Bool) :
    Fits [] [] (Body.registration specifics hasCustomSchema constant) := by
  have hkey : Fits [] [.bracket '['] "    [" := fits_of_run rfl rfl
  have hnew : Fits [.bracket '['] [.bracket '(', .bracket '(']
      "]: check new (dbClient, self.metadata.get(" := fits_of_run rfl rfl
  have hmiddle : Fits [.bracket '(', .bracket '('] [.bracket '('] "), psql:" :=
    fits_of_run rfl rfl
  have hschema : Fits [] [] (if hasCustomSchema then ", defaultSchema" else "") := by
    cases hasCustomSchema <;> exact fits_neutral rfl rfl
  have hclose : Fits [.bracket '('] [] ")" := fits_of_run rfl rfl
  have hname := hconstant.fits
  exact (((((((hkey.append (hname.within _)).append hnew).append (hname.within _)).append
    hmiddle).append (hspecifics.within _)).append (hschema.within _)).append hclose)

/-- Opening the connection, with any number of registrations. -/
theorem isStatements_init {clientType connectArguments : String}
    (hclientType : Fits [] [] clientType) (hconnect : Fits [] [] connectArguments)
    {registrations : List String} (hregistrations : ∀ text ∈ registrations, Fits [] [] text) :
    IsStatements (Body.init clientType connectArguments (withCommas registrations)) := by
  have hnew : Fits [] [.bracket '('] "|error dbClient = new (" := fits_of_run rfl rfl
  have hend : Fits [.bracket '('] [] ");" := fits_of_run rfl rfl
  have hconnection := ((hclientType.append hnew).append (hconnect.within _)).append hend
  have hif : Fits [] [.bracket '{'] "if dbClient is error \x7b" := fits_of_run rfl rfl
  have hreturn : Fits [] [] "    return <persist:Error>error(dbClient.message());" :=
    fits_neutral rfl rfl
  have hassign : Fits [] [] "self.dbClient = dbClient;" := fits_neutral rfl rfl
  have hclients : Fits [] [.bracket '{'] "self.persistClients = \x7b" := fits_of_run rfl rfl
  have hclose : Fits [.bracket '{'] [] "\x7d;" := fits_of_run rfl rfl
  have hopening := LinesFit.keep hconnection ((linesFit_if hif hreturn).append
    (.keep hassign (.opens hclients (.nil [.bracket '{']))))
  have hlines := (hopening.append (linesFit_withCommas hregistrations _)).append
    (.closes hclose (.nil []))
  exact hlines.isStatements List.getLast?_concat (by rfl)

end PersistLayer.Client
