import PersistLayer.Proofs.Scanner.Outline
import PersistLayer.Proofs.Text.Lines
import PersistLayer.Syntax.Render

/-!
# Texts that leave everything as it was

A text is neutral when whatever reads it in code is in code behind it, with the
same brackets open.  Neutral texts are put together from neutral ones, and an
opening and a closing text make a neutral text around one.

Names, types and string literals are neutral.  A value that ends with a slash is
not, because a slash may begin a comment; it is `Whole`, and becomes neutral with
any character behind it that is no slash.
-/

namespace PersistLayer.Syntax

/-! ## What a text does to the brackets around it -/

/-- Reading the text in code leads from the brackets `before` to the brackets
`after`, whatever else is open around them. -/
def Turns (before after : List Enclosure) (text : String) : Prop :=
  ∀ outer, Outline.run ⟨.code, before ++ outer⟩ text.toList = some ⟨.code, after ++ outer⟩

/-- Reading the text in code leaves everything as it was. -/
def Neutral (text : String) : Prop := Turns [] [] text

/-- Reading the text in code leaves everything as it was, but for a slash that may
begin a comment. -/
def Whole (text : String) : Prop :=
  ∃ phase, (phase = .code ∨ phase = .slash) ∧
    ∀ outer, Outline.run ⟨.code, outer⟩ text.toList = some ⟨phase, outer⟩

theorem turns_of_run {before after : List Enclosure} {text : String}
    (hrun : Outline.run ⟨.code, before⟩ text.toList = some ⟨.code, after⟩) :
    Turns before after text :=
  fun outer => Outline.run_enclose hrun outer

section Texts

variable {before middle after : List Enclosure} {front back inner text : String}

theorem Turns.append (hfront : Turns before middle front) (hback : Turns middle after back) :
    Turns before after (front ++ back) := by
  intro outer
  rw [String.toList_append, Outline.run_append, hfront outer, Option.bind_some]
  exact hback outer

theorem neutral_of_run (hrun : Outline.run .initial text.toList = some .initial) : Neutral text :=
  turns_of_run hrun

theorem neutral_empty : Neutral "" := neutral_of_run rfl

/-- A neutral text may stand inside any brackets. -/
theorem Neutral.turns (htext : Neutral text) (enclosures : List Enclosure) :
    Turns enclosures enclosures text :=
  fun outer => htext (enclosures ++ outer)

theorem Neutral.append (hfront : Neutral front) (hback : Neutral back) :
    Neutral (front ++ back) :=
  Turns.append hfront hback

/-- A neutral text between an opening and a closing one. -/
theorem neutral_enclosed (opener : Char) (hfront : Turns [] [.bracket opener] front)
    (hinner : Neutral inner) (hback : Turns [.bracket opener] [] back) :
    Neutral (front ++ inner ++ back) :=
  (hfront.append (hinner.turns _)).append hback

theorem Neutral.whole (htext : Neutral text) : Whole text :=
  ⟨.code, .inl rfl, htext⟩

theorem Neutral.append_whole (hfront : Neutral front) (hback : Whole back) :
    Whole (front ++ back) := by
  obtain ⟨phase, hphase, hrun⟩ := hback
  refine ⟨phase, hphase, ?_⟩
  intro outer
  have hfirst : Outline.run ⟨.code, outer⟩ front.toList = some ⟨.code, outer⟩ := hfront outer
  rw [String.toList_append, Outline.run_append, hfirst, Option.bind_some]
  exact hrun outer

/-- In code and behind a slash, a character that is no slash is read alike. -/
theorem Outline.run_slash {text : List Char} (hne : text ≠ []) (hslash : text.head? ≠ some '/')
    (enclosures : List Enclosure) :
    Outline.run ⟨.slash, enclosures⟩ text = Outline.run ⟨.code, enclosures⟩ text := by
  cases text with
  | nil => exact absurd rfl hne
  | cons c rest =>
      have hc : c ≠ '/' := by simpa using hslash
      simp [Outline.run_cons, Outline.step, hc]

/-- The text begins with a character that is no slash. -/
def BeginsOther (text : String) : Prop :=
  ∃ c rest, text.toList = c :: rest ∧ c ≠ '/'

theorem BeginsOther.append (hfront : BeginsOther front) (back : String) :
    BeginsOther (front ++ back) := by
  obtain ⟨c, rest, htext, hc⟩ := hfront
  exact ⟨c, rest ++ back.toList, by simp [htext], hc⟩

theorem Whole.append_turns (hfront : Whole front) (hback : Turns before after back)
    (hbegins : BeginsOther back) : Turns before after (front ++ back) := by
  obtain ⟨phase, hphase, hrun⟩ := hfront
  obtain ⟨c, rest, htext, hc⟩ := hbegins
  intro outer
  rw [String.toList_append, Outline.run_append, hrun, Option.bind_some]
  rcases hphase with rfl | rfl
  · exact hback outer
  · rw [Outline.run_slash (by simp [htext]) (by simpa [htext] using hc)]
    exact hback outer

theorem neutral_slash (htext : Neutral text) (hbegins : BeginsOther text) :
    Neutral ("/" ++ text) := by
  refine Whole.append_turns ⟨.slash, .inr rfl, ?_⟩ htext hbegins
  intro outer
  rfl

/-! ## Several texts -/

theorem neutral_join {texts : List String} (htexts : ∀ text ∈ texts, Neutral text) :
    Neutral (String.join texts) := by
  induction texts with
  | nil => exact neutral_empty
  | cons text rest ih =>
      rw [String.join_cons]
      exact (htexts text List.mem_cons_self).append
        (ih fun other h => htexts other (List.mem_cons_of_mem _ h))

theorem neutral_intercalate {separator : String} (hseparator : Neutral separator)
    {texts : List String} (htexts : ∀ text ∈ texts, Neutral text) :
    Neutral (separator.intercalate texts) := by
  refine intercalate_induction neutral_empty htexts ?_
  intro text hmem back hback
  exact ((htexts text hmem).append hseparator).append hback

/-- Whole texts with commas between them are whole. -/
theorem whole_intercalate {separator : String} (hseparator : Neutral separator)
    (hbegins : BeginsOther separator) {texts : List String}
    (htexts : ∀ text ∈ texts, Whole text) : Whole (separator.intercalate texts) := by
  refine intercalate_induction neutral_empty.whole htexts ?_
  intro text hmem back hback
  exact Neutral.append_whole ((htexts text hmem).append_turns hseparator hbegins) hback

theorem BeginsOther.intercalate {text : String} (hbegins : BeginsOther text) (separator : String)
    (rest : List String) : BeginsOther (separator.intercalate (text :: rest)) := by
  cases rest with
  | nil => simpa using hbegins
  | cons next others =>
      rw [String.intercalate_cons_cons]
      exact (hbegins.append _).append _

/-- Texts with slashes between them are neutral when none begins with a slash. -/
theorem neutral_intercalate_slash {texts : List String}
    (htexts : ∀ text ∈ texts, Neutral text ∧ BeginsOther text) :
    Neutral ("/".intercalate texts) := by
  induction texts with
  | nil => exact neutral_empty
  | cons text rest ih =>
      obtain ⟨htext, -⟩ := htexts text List.mem_cons_self
      cases rest with
      | nil => simpa using htext
      | cons next others =>
          have hrest := ih fun other h => htexts other (List.mem_cons_of_mem _ h)
          obtain ⟨-, hnext⟩ := htexts next (by simp)
          rw [String.intercalate_cons_cons, String.append_assoc]
          exact htext.append (neutral_slash hrest (hnext.intercalate _ _))

end Texts

/-! ## Names -/

/-- A name is written with characters that neither open nor close anything. -/
def IsInertName (name : String) : Prop :=
  name ≠ "" ∧ ∀ c ∈ name.toList, isInert c = true

theorem Outline.run_of_inert {text : List Char} (htext : ∀ c ∈ text, isInert c = true)
    (enclosures : List Enclosure) :
    Outline.run ⟨.code, enclosures⟩ text = some ⟨.code, enclosures⟩ :=
  run_eq_self fun c hc => codeStep_of_isInert (htext c hc) enclosures

theorem neutral_of_inert {text : String} (htext : ∀ c ∈ text.toList, isInert c = true) :
    Neutral text :=
  fun outer => Outline.run_of_inert htext outer

theorem IsInertName.neutral {name : String} (hname : IsInertName name) : Neutral name :=
  neutral_of_inert hname.2

theorem IsInertName.beginsOther {name : String} (hname : IsInertName name) :
    BeginsOther name := by
  obtain ⟨c, rest, hchars⟩ : ∃ c rest, name.toList = c :: rest := by
    refine List.exists_cons_of_ne_nil ?_
    simpa using hname.1
  refine ⟨c, rest, hchars, ?_⟩
  rintro rfl
  have hslash := hname.2 '/' (by simp [hchars])
  exact absurd hslash (by decide)

theorem quotedName_ne_empty {name : String} (hname : name ≠ "") : quotedName name ≠ "" := by
  unfold quotedName
  split_ifs
  · simp
  · exact hname

/-- What holds of the apostrophe and of the characters of a name holds of the characters of the
name as it is written. -/
theorem forall_mem_quotedName {p : Char → Prop} {name : String} (hapostrophe : p '\'')
    (hname : ∀ c ∈ name.toList, p c) : ∀ c ∈ (quotedName name).toList, p c := by
  unfold quotedName
  split_ifs
  · simpa using ⟨hapostrophe, hname⟩
  · exact hname

/-- The apostrophe in front of a reserved word changes nothing. -/
theorem IsInertName.quotedName {name : String} (hname : IsInertName name) :
    IsInertName (quotedName name) :=
  ⟨quotedName_ne_empty hname.1, forall_mem_quotedName (by decide) hname.2⟩

theorem neutral_indentation (depth : Nat) : Neutral (indentation depth) := by
  refine neutral_of_inert ?_
  intro c hc
  rw [indentation, String.toList_ofList] at hc
  rw [List.eq_of_mem_replicate hc]
  decide

/-! ## String literals -/

/-- A character of a string literal, as it is written, stays in the literal. -/
theorem Outline.run_escapedChar (c : Char) (enclosures : List Enclosure) :
    Outline.run ⟨.string false, enclosures⟩ (escapedChar c) =
      some ⟨.string false, enclosures⟩ := by
  unfold escapedChar
  split
  -- five characters are written as a pair that begins with a backslash
  iterate 5 rfl
  case h_6 hquote hbackslash hfeed _ _ =>
    have hne : c ≠ '"' ∧ c ≠ '\\' ∧ c ≠ '\n' := ⟨hquote, hbackslash, hfeed⟩
    simp [run_cons, step, hne]

theorem neutral_stringLiteral (value : String) : Neutral (stringLiteral value) := by
  have hbody : ∀ text : List Char, ∀ outer,
      Outline.run ⟨.string false, outer⟩ (text.flatMap escapedChar) =
        some ⟨.string false, outer⟩ := by
    intro text outer
    induction text with
    | nil => rfl
    | cons c rest ih =>
        rw [List.flatMap_cons, Outline.run_append, Outline.run_escapedChar, Option.bind_some, ih]
  intro outer
  have hopen : Outline.step ⟨.code, outer⟩ '"' = some ⟨.string false, outer⟩ := rfl
  calc Outline.run ⟨.code, [] ++ outer⟩ (stringLiteral value).toList
      = Outline.run ⟨.string false, outer⟩ (value.toList.flatMap escapedChar ++ ['"']) := by
        rw [stringLiteral, String.toList_ofList, List.nil_append, Outline.run_cons, hopen,
          Option.bind_some]
    _ = Outline.run ⟨.string false, outer⟩ ['"'] := by
        rw [Outline.run_append, hbody, Option.bind_some]
    _ = some ⟨.code, [] ++ outer⟩ := rfl

/-! ## Types -/

section Types

variable (isName : String → Prop)

mutual

/-- All names in a type descriptor are names. -/
def TypeDesc.Names : TypeDesc → Prop
  | .named none name => isName name
  | .named (some scope) name => isName scope ∧ isName name
  | .optional inner => inner.Names
  | .array inner => inner.Names
  | .union members => TypeDesc.NamesAll members
  | .tuple members => TypeDesc.NamesAll members
  | .stream row completion => row.Names ∧ completion.Names
  | .typedesc inner => inner.Names
  | .openRecord => True

/-- All names in several type descriptors are names. -/
def TypeDesc.NamesAll : List TypeDesc → Prop
  | [] => True
  | type :: rest => type.Names ∧ TypeDesc.NamesAll rest

end

variable {isName}

theorem neutral_operand {type : TypeDesc} {text : String} (htext : Neutral text) :
    Neutral (type.operand text) := by
  unfold TypeDesc.operand
  split_ifs
  · exact neutral_enclosed '(' (turns_of_run rfl) htext (turns_of_run rfl)
  · exact htext

mutual

theorem neutral_type (hname : ∀ name, isName name → IsInertName name) :
    ∀ type : TypeDesc, type.Names isName → Neutral type.text
  | .named none name, h => by
      simp only [TypeDesc.Names, TypeDesc.text] at h ⊢
      exact (hname _ h).neutral
  | .named (some scope) name, h => by
      simp only [TypeDesc.Names, TypeDesc.text] at h ⊢
      exact ((hname _ h.1).neutral.append (neutral_of_run rfl)).append (hname _ h.2).neutral
  | .optional inner, h => by
      simp only [TypeDesc.Names, TypeDesc.text] at h ⊢
      exact (neutral_operand (neutral_type hname inner h)).append (neutral_of_run rfl)
  | .array inner, h => by
      simp only [TypeDesc.Names, TypeDesc.text] at h ⊢
      exact (neutral_operand (neutral_type hname inner h)).append (neutral_of_run rfl)
  -- the bar between two members is neutral, and so is the comma between two of a tuple
  | .union members, h => by
      simp only [TypeDesc.Names, TypeDesc.text] at h ⊢
      exact neutral_intercalate (neutral_of_run rfl) (neutral_types hname members h)
  | .tuple members, h => by
      simp only [TypeDesc.Names, TypeDesc.text] at h ⊢
      exact neutral_enclosed '[' (turns_of_run rfl)
        (neutral_intercalate (neutral_of_run rfl) (neutral_types hname members h))
        (turns_of_run rfl)
  | .stream row completion, h => by
      simp only [TypeDesc.Names, TypeDesc.text] at h ⊢
      have hrow := neutral_type hname row h.1
      have hcompletion := neutral_type hname completion h.2
      exact ((((neutral_of_run rfl).append hrow).append (neutral_of_run rfl)).append
        hcompletion).append (neutral_of_run rfl)
  | .typedesc inner, h => by
      simp only [TypeDesc.Names, TypeDesc.text] at h ⊢
      exact ((neutral_of_run rfl).append (neutral_type hname inner h)).append (neutral_of_run rfl)
  | .openRecord, _ => neutral_of_run rfl

theorem neutral_types (hname : ∀ name, isName name → IsInertName name) :
    ∀ types : List TypeDesc, TypeDesc.NamesAll isName types →
      ∀ text ∈ TypeDesc.texts types, Neutral text
  | [], _ => by simp [TypeDesc.texts]
  | type :: rest, h => by
      simp only [TypeDesc.NamesAll, TypeDesc.texts, List.forall_mem_cons] at h ⊢
      exact ⟨neutral_type hname type h.1, neutral_types hname rest h.2⟩

end

end Types

end PersistLayer.Syntax
