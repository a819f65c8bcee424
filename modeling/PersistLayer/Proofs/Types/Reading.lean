import PersistLayer.Proofs.Render.File
import PersistLayer.Proofs.Types.Splicing

/-!
# Types are read back

The written form of a type is read from left to right.  What has been read is a piece at the
end, which may still grow into a larger type, the members of the same union in front of it,
and the brackets around both.  A bar puts the piece to the members in front; `?` and `[]` take
the piece alone as their operand, since a union stands in parentheses there; and what closes a
bracket takes the whole union.

Read where a type can begin, the written form adds the members of the spliced type to those
in front, whatever stands around (`readsAs_text`).  So the written form determines the spliced
type, and nothing more (`text_eq_iff_spliced_eq`).
-/

namespace PersistLayer.Syntax

/-! ## The reader -/

/-- The piece at the end of what has been read. -/
inductive TypeFocus where
  /-- A type begins here. -/
  | start
  | name (scope : Option (List Char)) (text : List Char)
  | whole (type : TypeDesc)
  /-- A type and an opening bracket behind it. -/
  | bracket (type : TypeDesc)
  /-- The word `record` and a blank. -/
  | record
  /-- The word `record`, a blank and an opening brace. -/
  | brace
  /-- A comma, which a blank follows. -/
  | comma

/-- An open bracket with the types that are complete in it. -/
inductive TypeBracket where
  | group
  | tuple (done : List TypeDesc)
  | stream
  | completion (row : TypeDesc)
  | typedesc

/-- What has been read of a type: the piece at the end, the members of the same union in
front of it, and the open brackets with the members in front of each, the innermost first. -/
structure TypeReader where
  focus : TypeFocus
  before : List TypeDesc
  outer : List (TypeBracket × List TypeDesc)

/-- The type that the piece is when it ends here. -/
def TypeFocus.type? : TypeFocus → Option TypeDesc
  | name scope text => some (.named (scope.map String.ofList) (String.ofList text))
  | whole type => some type
  | _ => none

/-- The piece when an identifier character begins a name or goes on with it. -/
def TypeFocus.spell (c : Char) : TypeFocus → Option TypeFocus
  | start => some (name none [c])
  | name scope text => some (name scope (text ++ [c]))
  | _ => none

/-- The piece when another character goes on with a part of it. -/
def TypeFocus.follow (c : Char) : TypeFocus → Option TypeFocus
  | name none text =>
    if c = ':' then some (name (some text) [])
    else if c = ' ' ∧ text = "record".toList then some record
    else none
  | record => if c = '{' then some brace else none
  | brace => if c = '}' then some (whole .openRecord) else none
  | comma => if c = ' ' then some start else none
  | bracket type => if c = ']' then some (whole (.array type)) else none
  | _ => none

/-- The bracket that a character opens behind the piece. -/
def TypeFocus.opening (c : Char) : TypeFocus → Option TypeBracket
  | start => if c = '(' then some .group else if c = '[' then some (.tuple []) else none
  | name none text =>
    if c = '<' ∧ text = "stream".toList then some .stream
    else if c = '<' ∧ text = "typedesc".toList then some .typedesc
    else none
  | _ => none

/-- The bracket when a comma stands behind one more type. -/
def TypeBracket.next (type : TypeDesc) : TypeBracket → Option TypeBracket
  | tuple done => some (tuple (done ++ [type]))
  | stream => some (completion type)
  | _ => none

/-- The type that the bracket is when a character closes it behind one more type. -/
def TypeBracket.close (c : Char) (type : TypeDesc) : TypeBracket → Option TypeDesc
  | group => if c = ')' then some type else none
  | tuple done => if c = ']' then some (.tuple (done ++ [type])) else none
  | stream => none
  | completion row => if c = '>' then some (.stream row type) else none
  | typedesc => if c = '>' then some (.typedesc type) else none

namespace TypeReader

/-- Nothing has been read. -/
def initial : TypeReader := ⟨.start, [], []⟩

/-- The members of the union that ends here. -/
def members? (reader : TypeReader) : Option (List TypeDesc) :=
  reader.focus.type?.map fun last => reader.before ++ [last]

/-- Reads a character behind a type. -/
def behind (last : TypeDesc) (before : List TypeDesc) (outer : List (TypeBracket × List TypeDesc))
    (c : Char) : Option TypeReader :=
  if c = '?' then some ⟨.whole (.optional last), before, outer⟩
  else if c = '[' then some ⟨.bracket last, before, outer⟩
  else if c = '|' then some ⟨.start, before ++ [last], outer⟩
  else
    match outer with
    | [] => none
    | (bracket, members) :: outer =>
      let type := TypeDesc.choice (before ++ [last])
      if c = ',' then (bracket.next type).map fun next => ⟨.comma, [], (next, members) :: outer⟩
      else (bracket.close c type).map fun closed => ⟨.whole closed, members, outer⟩

/-- Reads the character that closes a tuple without members. -/
def closeEmpty (c : Char) : TypeReader → Option TypeReader
  | ⟨.start, [], (.tuple [], before) :: outer⟩ =>
    if c = ']' then some ⟨.whole (.tuple []), before, outer⟩ else none
  | _ => none

/-- Reads a character that is no identifier character. -/
def sign (reader : TypeReader) (c : Char) : Option TypeReader :=
  match reader.focus.opening c, reader.focus.follow c, reader.focus.type? with
  | some bracket, _, _ => some ⟨.start, [], (bracket, reader.before) :: reader.outer⟩
  | none, some focus, _ => some { reader with focus }
  | none, none, some last => behind last reader.before reader.outer c
  | none, none, none => reader.closeEmpty c

/-- Reads a character, unless it cannot stand there. -/
def step (reader : TypeReader) (c : Char) : Option TypeReader :=
  if isIdentifierChar c then (reader.focus.spell c).map fun focus => { reader with focus }
  else reader.sign c

/-- Reads a text, unless some character cannot stand where it does. -/
def run (reader : TypeReader) (text : List Char) : Option TypeReader := text.foldlM step reader

end TypeReader

/-- The type that is written as the text, spliced. -/
def readType (text : String) : Option TypeDesc := do
  let reader ← TypeReader.initial.run text.toList
  let members ← reader.members?
  if reader.outer.isEmpty then some (.choice members) else none

namespace TypeReader

variable {reader next : TypeReader} {c : Char} {front : List Char} {before members : List TypeDesc}
  {outer : List (TypeBracket × List TypeDesc)}

theorem run_cons (hstep : reader.step c = some next) (rest : List Char) :
    reader.run (c :: rest) = next.run rest := by
  rw [run, List.foldlM_cons, hstep]
  rfl

theorem run_append (hrun : reader.run front = some next) (back : List Char) :
    reader.run (front ++ back) = next.run back := by
  rw [run, List.foldlM_append, ← run, hrun]
  rfl

theorem step_sign (hc : isIdentifierChar c = false) : reader.step c = reader.sign c := by
  rw [step, if_neg (by simp [hc])]

/-! ## Names -/

theorem run_name_append {text : List Char} (htext : ∀ c ∈ text, isIdentifierChar c = true)
    (scope : Option (List Char)) (front : List Char) :
    run ⟨.name scope front, before, outer⟩ text =
      some ⟨.name scope (front ++ text), before, outer⟩ := by
  induction text generalizing front with
  | nil => rw [List.append_nil]; rfl
  | cons c rest ih =>
      rw [List.forall_mem_cons] at htext
      have hstep : step ⟨.name scope front, before, outer⟩ c =
          some ⟨.name scope (front ++ [c]), before, outer⟩ := by
        rw [step, if_pos htext.1]
        rfl
      rw [run_cons hstep, ih htext.2, List.append_assoc, List.singleton_append]

theorem run_name {name : String} (hname : IsName name) :
    run ⟨.start, before, outer⟩ name.toList = some ⟨.name none name.toList, before, outer⟩ := by
  obtain ⟨hne, hchars⟩ := hname
  obtain ⟨c, rest, htext⟩ : ∃ c rest, name.toList = c :: rest := by
    apply List.exists_cons_of_ne_nil
    simpa using hne
  rw [htext, List.forall_mem_cons] at hchars
  have hstep : step ⟨.start, before, outer⟩ c = some ⟨.name none [c], before, outer⟩ := by
    rw [step, if_pos hchars.1]
    rfl
  rw [htext, run_cons hstep, run_name_append hchars.2]
  rfl

/-! ## Behind a type -/

/-- A union with the given members ends here, inside the given brackets. -/
structure Ends (reader : TypeReader) (members : List TypeDesc)
    (outer : List (TypeBracket × List TypeDesc)) : Prop where
  members : reader.members? = some members
  outer : reader.outer = outer

theorem ends_whole (type : TypeDesc) : Ends ⟨.whole type, before, outer⟩ (before ++ [type]) outer :=
  ⟨rfl, rfl⟩

/-- Behind a type a sign is read alike, whatever the last piece of the type is. -/
theorem Ends.step_eq {last : TypeDesc} (hends : reader.Ends (before ++ [last]) outer)
    (hc : isIdentifierChar c = false) (hsign : c ∉ [':', ' ', '<']) :
    reader.step c = behind last before outer c := by
  obtain ⟨hmembers, rfl⟩ := hends
  obtain ⟨focus, front, outer⟩ := reader
  obtain ⟨type, htype, hsame⟩ := Option.map_eq_some_iff.mp hmembers
  obtain ⟨rfl, rfl⟩ : front = before ∧ type = last := by simpa using hsame
  simp only [List.mem_cons, List.not_mem_nil, or_false, not_or] at hsign
  obtain ⟨hcolon, hblank, hangle⟩ := hsign
  rw [step_sign hc]
  cases focus with
  | name scope text => cases scope <;> simp_all [sign, TypeFocus.opening, TypeFocus.follow]
  | whole type => simp_all [sign, TypeFocus.opening, TypeFocus.follow]
  | _ => cases htype

theorem Ends.exists (hends : reader.Ends members outer) :
    ∃ front last, members = front ++ [last] := by
  obtain ⟨last, -, hmembers⟩ := Option.map_eq_some_iff.mp hends.members
  exact ⟨reader.before, last, hmembers.symm⟩

theorem Ends.step_bar (hends : reader.Ends members outer) :
    reader.step '|' = some ⟨.start, members, outer⟩ := by
  obtain ⟨front, last, rfl⟩ := hends.exists
  exact hends.step_eq (by decide) (by decide)

theorem Ends.step_comma {bracket inner : TypeBracket}
    (hends : reader.Ends members ((bracket, before) :: outer))
    (hnext : bracket.next (.choice members) = some inner) :
    reader.step ',' = some ⟨.comma, [], (inner, before) :: outer⟩ := by
  obtain ⟨front, last, rfl⟩ := hends.exists
  rw [hends.step_eq (by decide) (by decide)]
  simp [behind, hnext]

theorem Ends.step_close {bracket : TypeBracket} {type : TypeDesc}
    (hends : reader.Ends members ((bracket, before) :: outer))
    (hclose : bracket.close c (.choice members) = some type) (hc : c ∈ [')', ']', '>']) :
    reader.step c = some ⟨.whole type, before, outer⟩ := by
  obtain ⟨front, last, rfl⟩ := hends.exists
  simp only [List.mem_cons, List.not_mem_nil, or_false] at hc
  rcases hc with rfl | rfl | rfl
  all_goals
    rw [hends.step_eq (by decide) (by decide)]
    simp [behind, hclose]

end TypeReader

/-! ## Texts that are read as types -/

/-- Read where a type begins, the text adds members to those in front. -/
def ReadsAs (text : String) (members : List TypeDesc) : Prop :=
  ∀ before outer, ∃ reader, TypeReader.run ⟨.start, before, outer⟩ text.toList = some reader ∧
    reader.Ends (before ++ members) outer

namespace ReadsAs

open TypeReader

variable {text : String} {type : TypeDesc} {members : List TypeDesc}

theorem of_name {name : String} (hname : IsName name) : ReadsAs name [.named none name] := by
  intro before outer
  refine ⟨_, run_name hname, ?_, rfl⟩
  simp [TypeReader.members?, TypeFocus.type?]

theorem of_qualified {scope name : String} (hscope : IsName scope) (hname : IsName name) :
    ReadsAs (scope ++ ":" ++ name) [.named (some scope) name] := by
  intro before outer
  refine ⟨⟨.name (some scope.toList) name.toList, before, outer⟩, ?_, ?_, rfl⟩
  · have hcolon : step ⟨.name none scope.toList, before, outer⟩ ':' =
        some ⟨.name (some scope.toList) [], before, outer⟩ := step_sign (by decide)
    calc run ⟨.start, before, outer⟩ (scope ++ ":" ++ name).toList
        = run ⟨.start, before, outer⟩ (scope.toList ++ (':' :: name.toList)) := by simp
      _ = run ⟨.name none scope.toList, before, outer⟩ (':' :: name.toList) :=
          run_append (run_name hscope) _
      _ = run ⟨.name (some scope.toList) [], before, outer⟩ name.toList := run_cons hcolon _
      _ = some ⟨.name (some scope.toList) name.toList, before, outer⟩ := by
          rw [run_name_append hname.2, List.nil_append]
  · simp [TypeReader.members?, TypeFocus.type?]

theorem of_openRecord : ReadsAs "record \x7b\x7d" [.openRecord] := by
  intro before outer
  have hword : IsName "record" := by decide +kernel
  have hbrace : step ⟨.name none "record".toList, before, outer⟩ ' ' =
      some ⟨.record, before, outer⟩ := step_sign (by decide)
  refine ⟨⟨.whole .openRecord, before, outer⟩, ?_, ends_whole _⟩
  calc run ⟨.start, before, outer⟩ "record \x7b\x7d".toList
      = run ⟨.start, before, outer⟩ ("record".toList ++ " \x7b\x7d".toList) := rfl
    _ = run ⟨.name none "record".toList, before, outer⟩ " \x7b\x7d".toList :=
        run_append (run_name hword) _
    _ = run ⟨.record, before, outer⟩ "\x7b\x7d".toList := run_cons hbrace _
    _ = some ⟨.whole .openRecord, before, outer⟩ := rfl

theorem optional (hreads : ReadsAs text [type]) : ReadsAs (text ++ "?") [.optional type] := by
  intro before outer
  obtain ⟨reader, hrun, hends⟩ := hreads before outer
  have hstep : reader.step '?' = some ⟨.whole (.optional type), before, outer⟩ :=
    hends.step_eq (by decide) (by decide)
  refine ⟨⟨.whole (.optional type), before, outer⟩, ?_, ends_whole _⟩
  rw [String.toList_append, run_append hrun]
  exact run_cons hstep []

theorem array (hreads : ReadsAs text [type]) : ReadsAs (text ++ "[]") [.array type] := by
  intro before outer
  obtain ⟨reader, hrun, hends⟩ := hreads before outer
  have hopen : reader.step '[' = some ⟨.bracket type, before, outer⟩ :=
    hends.step_eq (by decide) (by decide)
  have hclose : step ⟨.bracket type, before, outer⟩ ']' =
      some ⟨.whole (.array type), before, outer⟩ := step_sign (by decide)
  refine ⟨⟨.whole (.array type), before, outer⟩, ?_, ends_whole _⟩
  calc run ⟨.start, before, outer⟩ (text ++ "[]").toList
      = run reader ['[', ']'] := by rw [String.toList_append, run_append hrun]; rfl
    _ = run ⟨.bracket type, before, outer⟩ [']'] := run_cons hopen _
    _ = some ⟨.whole (.array type), before, outer⟩ := run_cons hclose []

/-- A text in a bracket. -/
theorem enclosed {opening closing : String} {bracket : TypeBracket} {closer : Char}
    (hopening : ∀ before outer, run ⟨.start, before, outer⟩ opening.toList =
      some ⟨.start, [], (bracket, before) :: outer⟩)
    (hreads : ReadsAs text members) (hclosing : closing.toList = [closer])
    (hcloser : closer ∈ [')', ']', '>'])
    (hclose : bracket.close closer (.choice members) = some type) :
    ReadsAs (opening ++ text ++ closing) [type] := by
  intro before outer
  obtain ⟨reader, hrun, hends⟩ := hreads [] ((bracket, before) :: outer)
  refine ⟨⟨.whole type, before, outer⟩, ?_, ends_whole _⟩
  calc run ⟨.start, before, outer⟩ (opening ++ text ++ closing).toList
      = run ⟨.start, before, outer⟩ (opening.toList ++ (text.toList ++ [closer])) := by
        rw [String.append_assoc, String.toList_append, String.toList_append, hclosing]
    _ = run ⟨.start, [], (bracket, before) :: outer⟩ (text.toList ++ [closer]) :=
        run_append (hopening before outer) _
    _ = run reader [closer] := run_append hrun _
    _ = some ⟨.whole type, before, outer⟩ := run_cons (hends.step_close hclose hcloser) []

theorem group (hreads : ReadsAs text members) : ReadsAs ("(" ++ text ++ ")") [.choice members] := by
  have hopening (before outer) : run ⟨.start, before, outer⟩ "(".toList =
      some ⟨.start, [], (.group, before) :: outer⟩ := rfl
  exact enclosed hopening hreads rfl (by decide) rfl

theorem run_word_angle {word : String} {bracket : TypeBracket} (hword : IsName word)
    (hopening : TypeFocus.opening '<' (.name none word.toList) = some bracket)
    (before : List TypeDesc) (outer : List (TypeBracket × List TypeDesc)) :
    run ⟨.start, before, outer⟩ (word ++ "<").toList =
      some ⟨.start, [], (bracket, before) :: outer⟩ := by
  have hstep : step ⟨.name none word.toList, before, outer⟩ '<' =
      some ⟨.start, [], (bracket, before) :: outer⟩ := by
    rw [step_sign (by decide), sign, hopening]
  rw [String.toList_append, run_append (run_name hword)]
  exact run_cons hstep []

theorem typedesc (hreads : ReadsAs text members) :
    ReadsAs ("typedesc<" ++ text ++ ">") [.typedesc (.choice members)] := by
  have hword : IsName "typedesc" := by decide +kernel
  exact enclosed (run_word_angle hword rfl) hreads rfl (by decide) rfl

theorem run_comma {reader : TypeReader} {bracket inner : TypeBracket} {before : List TypeDesc}
    {outer : List (TypeBracket × List TypeDesc)}
    (hends : reader.Ends members ((bracket, before) :: outer))
    (hnext : bracket.next (.choice members) = some inner) :
    reader.run ", ".toList = some ⟨.start, [], (inner, before) :: outer⟩ :=
  run_cons (hends.step_comma hnext) [' ']

theorem stream {completion : String} {others : List TypeDesc} (hreads : ReadsAs text members)
    (hcompletion : ReadsAs completion others) :
    ReadsAs ("stream<" ++ text ++ ", " ++ completion ++ ">")
      [.stream (.choice members) (.choice others)] := by
  have hword : IsName "stream" := by decide +kernel
  have hopening (before outer) : run ⟨.start, before, outer⟩ ("stream<" ++ text ++ ", ").toList =
      some ⟨.start, [], (.completion (.choice members), before) :: outer⟩ := by
    have hfirst : run ⟨.start, before, outer⟩ "stream<".toList =
        some ⟨.start, [], (.stream, before) :: outer⟩ := run_word_angle hword rfl before outer
    obtain ⟨reader, hrun, hends⟩ := hreads [] ((.stream, before) :: outer)
    rw [List.nil_append] at hends
    calc run ⟨.start, before, outer⟩ ("stream<" ++ text ++ ", ").toList
        = run ⟨.start, before, outer⟩ ("stream<".toList ++ (text.toList ++ ", ".toList)) := by
          rw [String.append_assoc, String.toList_append, String.toList_append]
      _ = run ⟨.start, [], (.stream, before) :: outer⟩ (text.toList ++ ", ".toList) :=
          run_append hfirst _
      _ = run reader ", ".toList := run_append hrun _
      _ = some ⟨.start, [], (.completion (.choice members), before) :: outer⟩ :=
          run_comma hends rfl
  exact enclosed hopening hcompletion rfl (by decide) rfl

/-! ### Several types -/

variable {types : List TypeDesc}

theorem union (hne : types ≠ [])
    (hreads : ∀ type ∈ types, ReadsAs type.text type.spliced.members) :
    ReadsAs ("|".intercalate (types.map TypeDesc.text)) (TypeDesc.splicedMembers types) := by
  induction types with
  | nil => exact absurd rfl hne
  | cons type rest ih =>
      rw [List.forall_mem_cons] at hreads
      cases rest with
      | nil => simpa [TypeDesc.splicedMembers] using hreads.1
      | cons next others =>
          intro before outer
          obtain ⟨reader, hrun, hends⟩ := hreads.1 before outer
          obtain ⟨last, hlast, hall⟩ := ih (by simp) hreads.2 (before ++ type.spliced.members) outer
          refine ⟨last, ?_, by rwa [TypeDesc.splicedMembers, ← List.append_assoc]⟩
          -- the members in front of the bar are behind the reader when it reads the others
          have htext : ("|".intercalate ((type :: next :: others).map TypeDesc.text)).toList =
              type.text.toList ++
                '|' :: ("|".intercalate ((next :: others).map TypeDesc.text)).toList := by
            rw [List.map_cons, List.map_cons, String.intercalate_cons_cons, String.append_assoc,
              String.toList_append, String.toList_append]
            rfl
          calc run ⟨.start, before, outer⟩
                ("|".intercalate ((type :: next :: others).map TypeDesc.text)).toList
              = run reader ('|' :: ("|".intercalate ((next :: others).map TypeDesc.text)).toList) := by
                rw [htext, run_append hrun]
            _ = run ⟨.start, before ++ type.spliced.members, outer⟩
                  ("|".intercalate ((next :: others).map TypeDesc.text)).toList :=
                run_cons hends.step_bar _
            _ = some last := hlast

/-- The last types of a tuple and the bracket that closes it. -/
theorem run_tuple (hne : types ≠ [])
    (hreads : ∀ type ∈ types, ReadsAs type.text type.spliced.members)
    (hchooses : ∀ type ∈ types, type.Chooses) (done before : List TypeDesc)
    (outer : List (TypeBracket × List TypeDesc)) :
    run ⟨.start, [], (.tuple done, before) :: outer⟩
        (", ".intercalate (types.map TypeDesc.text) ++ "]").toList =
      some ⟨.whole (.tuple (done ++ types.map TypeDesc.spliced)), before, outer⟩ := by
  induction types generalizing done with
  | nil => exact absurd rfl hne
  | cons type rest ih =>
      rw [List.forall_mem_cons] at hreads hchooses
      obtain ⟨reader, hrun, hends⟩ := hreads.1 [] ((.tuple done, before) :: outer)
      rw [List.nil_append] at hends
      have hwhole := TypeDesc.choice_members_spliced hchooses.1
      cases rest with
      | nil =>
          -- the last type is closed by the bracket
          have hclose : TypeBracket.close ']' (.choice type.spliced.members) (.tuple done) =
              some (.tuple (done ++ [type.spliced])) := by
            rw [hwhole]
            rfl
          calc run ⟨.start, [], (.tuple done, before) :: outer⟩
                (", ".intercalate ([type].map TypeDesc.text) ++ "]").toList
              = run reader [']'] := by
                rw [List.map_singleton, String.intercalate_singleton, String.toList_append,
                  run_append hrun]
                rfl
            _ = some ⟨.whole (.tuple (done ++ [type.spliced])), before, outer⟩ :=
                run_cons (hends.step_close hclose (by decide)) []
      | cons next others =>
          -- any other type is done behind the comma
          have hcomma := run_comma hends (by rw [TypeBracket.next, hwhole])
          have hrest := ih (by simp) hreads.2 hchooses.2 (done ++ [type.spliced])
          have htext : (", ".intercalate ((type :: next :: others).map TypeDesc.text) ++ "]").toList =
              type.text.toList ++ (", ".toList ++
                (", ".intercalate ((next :: others).map TypeDesc.text) ++ "]").toList) := by
            rw [List.map_cons, List.map_cons, String.intercalate_cons_cons]
            simp only [String.toList_append, List.append_assoc]
          calc run ⟨.start, [], (.tuple done, before) :: outer⟩
                (", ".intercalate ((type :: next :: others).map TypeDesc.text) ++ "]").toList
              = run reader (", ".toList ++
                  (", ".intercalate ((next :: others).map TypeDesc.text) ++ "]").toList) := by
                rw [htext, run_append hrun]
            _ = run ⟨.start, [], (.tuple (done ++ [type.spliced]), before) :: outer⟩
                  (", ".intercalate ((next :: others).map TypeDesc.text) ++ "]").toList :=
                run_append hcomma _
            _ = some ⟨.whole (.tuple (done ++ (type :: next :: others).map TypeDesc.spliced)),
                  before, outer⟩ := by
                rw [hrest, List.append_assoc, List.singleton_append]
                rfl

theorem tuple (hreads : ∀ type ∈ types, ReadsAs type.text type.spliced.members)
    (hchooses : ∀ type ∈ types, type.Chooses) :
    ReadsAs ("[" ++ ", ".intercalate (types.map TypeDesc.text) ++ "]")
      [.tuple (types.map TypeDesc.spliced)] := by
  intro before outer
  refine ⟨⟨.whole (.tuple (types.map TypeDesc.spliced)), before, outer⟩, ?_, ends_whole _⟩
  have hopening : run ⟨.start, before, outer⟩ "[".toList =
      some ⟨.start, [], (.tuple [], before) :: outer⟩ := rfl
  rw [String.append_assoc, String.toList_append, run_append hopening]
  by_cases hne : types = []
  · rw [hne]
    rfl
  · exact run_tuple hne hreads hchooses [] before outer

/-- The operand of `?` or `[]` is one piece: a union stands in parentheses. -/
theorem operand (hreads : ReadsAs type.text type.spliced.members) (hchooses : type.Chooses) :
    ReadsAs (type.operand type.text) [type.spliced] := by
  have hwhole := TypeDesc.choice_members_spliced hchooses
  unfold TypeDesc.operand
  split_ifs with hunion
  · rw [← hwhole]
    exact hreads.group
  · cases type with
    | union members => exact absurd rfl hunion
    | _ => exact hreads

end ReadsAs

/-! ## Types are written unambiguously -/

/-- **The written form of a type is read as the members of the spliced type.** -/
theorem readsAs_text {type : TypeDesc} (hnames : type.Names IsName) (hchooses : type.Chooses) :
    ReadsAs type.text type.spliced.members := by
  induction type using TypeDesc.induction with
  | named scope name =>
      cases scope with
      | none => exact .of_name hnames
      | some scope => exact .of_qualified hnames.1 hnames.2
  | optional inner ih => exact (ReadsAs.operand (ih hnames hchooses) hchooses).optional
  | array inner ih => exact (ReadsAs.operand (ih hnames hchooses) hchooses).array
  | union types ih =>
      obtain ⟨hlength, hall⟩ := hchooses
      rw [TypeDesc.choosesAll_iff] at hall
      rw [TypeDesc.text, TypeDesc.texts_eq]
      apply ReadsAs.union
      · rintro rfl
        simp at hlength
      · exact fun type hmem => ih type hmem (namesAll_iff.mp hnames type hmem) (hall type hmem)
  | tuple types ih =>
      -- a tuple, unlike a union, may be empty
      have hall := TypeDesc.choosesAll_iff.mp hchooses
      rw [TypeDesc.text, TypeDesc.texts_eq, TypeDesc.spliced, TypeDesc.splicedAll_eq]
      apply ReadsAs.tuple
      · exact fun type hmem => ih type hmem (namesAll_iff.mp hnames type hmem) (hall type hmem)
      · exact hall
  | stream row completion ihRow ihCompletion =>
      -- a union between angles is read as its members and chosen from when the angle closes
      have hstream := (ihRow hnames.1 hchooses.1).stream (ihCompletion hnames.2 hchooses.2)
      rw [TypeDesc.choice_members_spliced hchooses.1,
        TypeDesc.choice_members_spliced hchooses.2] at hstream
      exact hstream
  | typedesc inner ih =>
      have hinner : inner.Chooses := hchooses
      have htypedesc := (ih hnames hinner).typedesc
      rw [TypeDesc.choice_members_spliced hinner] at htypedesc
      exact htypedesc
  | openRecord => exact .of_openRecord

/-- A type is read back, spliced. -/
theorem readType_text {type : TypeDesc} (hnames : type.Names IsName) (hchooses : type.Chooses) :
    readType type.text = some type.spliced := by
  obtain ⟨reader, hrun, hmembers, houter⟩ := readsAs_text hnames hchooses [] []
  rw [readType, TypeReader.initial, hrun]
  simp [hmembers, houter, TypeDesc.choice_members_spliced hchooses]

/-- **Types are written unambiguously.**  Two types whose names are names, and whose unions
have at least two members each, are written alike exactly when they are the same type once
each union that is a member of a union is spliced into it. -/
theorem text_eq_iff_spliced_eq {type other : TypeDesc} (hnames : type.Names IsName)
    (hchooses : type.Chooses) (hothers : other.Names IsName) (hother : other.Chooses) :
    type.text = other.text ↔ type.spliced = other.spliced := by
  constructor
  · intro htext
    have hread := readType_text hothers hother
    rw [← htext, readType_text hnames hchooses] at hread
    exact Option.some.inj hread
  · intro hspliced
    calc type.text = type.spliced.text := (TypeDesc.text_spliced hchooses).symm
      _ = other.spliced.text := by rw [hspliced]
      _ = other.text := TypeDesc.text_spliced hother

/-- The members of a union are written alike in whatever way they are nested. -/
theorem text_eq_iff_spliced_eq_of_nested :
    (TypeDesc.array (.union [.union [.plain "int", .plain "string"],
      .optional (.qualified "persist" "Error")])).text =
    (TypeDesc.array (.union [.plain "int",
      .union [.plain "string", .optional (.qualified "persist" "Error")]])).text := by
  have hnames : IsName "int" ∧ IsName "string" ∧ IsName "persist" ∧ IsName "Error" := by
    decide +kernel
  obtain ⟨hint, hstring, hpersist, herror⟩ := hnames
  refine (text_eq_iff_spliced_eq ?_ ?_ ?_ ?_).mpr rfl
  · exact ⟨⟨hint, hstring, trivial⟩, ⟨hpersist, herror⟩, trivial⟩
  · exact ⟨by decide, ⟨by decide, trivial, trivial, trivial⟩, trivial, trivial⟩
  · exact ⟨hint, ⟨hstring, ⟨hpersist, herror⟩, trivial⟩, trivial⟩
  · exact ⟨by decide, trivial, ⟨by decide, trivial, trivial, trivial⟩, trivial⟩

end PersistLayer.Syntax
