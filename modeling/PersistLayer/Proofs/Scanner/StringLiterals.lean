import PersistLayer.Proofs.Scanner.Run
import PersistLayer.Syntax.Name

/-!
# String literals read back

The renderer escapes five characters of a string literal, two of them with a backslash in
front and three with a backslash and a letter.  The scanner drops the backslash and keeps
the character behind it, whichever it is.  So it reads a literal as one token, and the text
of this token is the value with letters in the place of line feeds, tabs and carriage
returns.  The value itself is read back exactly when it has none of these
(`stringLiteral_reads_back_iff`).
-/

namespace PersistLayer.Syntax

/-- The character that the scanner reads where a character is written between double
quotes. -/
def charReadBack : Char → Char
  | '\n' => 'n'
  | '\t' => 't'
  | '\r' => 'r'
  | c => c

/-- The text that the scanner reads in the string literal for a value. -/
def readBack (value : String) : String := String.ofList (value.toList.map charReadBack)

/-- The characters that are escaped with a letter. -/
def IsLetterEscaped (c : Char) : Prop := c = '\n' ∨ c = '\t' ∨ c = '\r'

theorem charReadBack_eq_iff (c : Char) : charReadBack c = c ↔ ¬IsLetterEscaped c := by
  unfold charReadBack IsLetterEscaped
  split
  · decide
  · decide
  · decide
  · simp_all

theorem readBack_eq_iff (value : String) :
    readBack value = value ↔ ∀ c ∈ value.toList, ¬IsLetterEscaped c := by
  have hchars : value.toList.map charReadBack = value.toList ↔
      ∀ c ∈ value.toList, charReadBack c = c := by
    rw [← List.map_inj_left, List.map_id']
  rw [← String.toList_inj, readBack, String.toList_ofList, hchars]
  exact forall₂_congr fun c _ => charReadBack_eq_iff c

/-! ## Reading a literal -/

section Literal

variable (frames : List Frame) (start place : Place) (line : Nat) (read : List Char)

/-- The scanner inside a string literal, with the text read so far backwards. -/
def Scanner.inString : Scanner := ⟨.string line false, frames, place, start, read⟩

variable (houtside : inTemplate frames = false)

include houtside

/-- A character is read as one character, whether it is written as one or as two. -/
theorem Scanner.inString_escapedChar (c : Char) :
    (inString frames start place line read).run (escapedChar c) =
        inString frames start (place.afterText (escapedChar c)) line (charReadBack c :: read) ∧
      (inString frames start place line read).emits (escapedChar c) = [] := by
  have hescaped : ∀ d, (inString frames start place line read).run ['\\', d] =
        inString frames start (place.afterText ['\\', d]) line (d :: read) ∧
      (inString frames start place line read).emits ['\\', d] = [] := by
    intro d
    simp [run, emits, step, stringStep, inString, pass, take, houtside]
  unfold escapedChar
  split
  iterate 5 exact hescaped _
  case h_6 hquote hescape hfeed htab hreturn =>
    have hkept : charReadBack c = c := by
      rw [charReadBack_eq_iff]
      rintro (h | h | h)
      · exact hfeed h
      · exact htab h
      · exact hreturn h
    have htaken : (inString frames start place line read).step c =
        (inString frames start (place.after c) line (c :: read), []) := by
      simp only [step, inString, stringStep, if_neg (show c ≠ '"' from hquote),
        if_neg (show c ≠ '\n' from hfeed), if_neg (show c ≠ '\\' from hescape)]
      rfl
    rw [run_cons, emits_cons, htaken, hkept]
    exact ⟨rfl, rfl⟩

/-- The characters of a value are read one after the other, and none ends the literal. -/
theorem Scanner.inString_flatMap (chars : List Char) :
    (inString frames start place line read).run (chars.flatMap escapedChar) =
        inString frames start (place.afterText (chars.flatMap escapedChar)) line
          ((chars.map charReadBack).reverse ++ read) ∧
      (inString frames start place line read).emits (chars.flatMap escapedChar) = [] := by
  induction chars generalizing place read with
  | nil => exact ⟨rfl, rfl⟩
  | cons c rest ih =>
      obtain ⟨hrun, hemits⟩ := inString_escapedChar frames start place line read houtside c
      obtain ⟨hrest, hnone⟩ := ih (place.afterText (escapedChar c)) (charReadBack c :: read)
      constructor
      · calc (inString frames start place line read).run ((c :: rest).flatMap escapedChar)
            = (inString frames start (place.afterText (escapedChar c)) line
                (charReadBack c :: read)).run (rest.flatMap escapedChar) := by
              rw [List.flatMap_cons, run_append, hrun]
          _ = _ := by
              rw [hrest, ← Place.afterText_append]
              simp
      · rw [List.flatMap_cons, emits_append, hrun, hemits, hnone]
        rfl

end Literal

/-- In front of a literal the scanner reports one token, which spans it. -/
theorem Scanner.fresh_stringLiteral {frames : List Frame} (place : Place)
    (houtside : inTemplate frames = false) (value : String) :
    ((fresh frames place).run (stringLiteral value).toList).mode = .code ∧
      ((fresh frames place).run (stringLiteral value).toList).frames = frames ∧
      (fresh frames place).emits (stringLiteral value).toList =
        [.token ⟨.string, readBack value, place.offset,
          (place.afterText (stringLiteral value).toList).offset, place.line, frames.length⟩] := by
  have hopen : (fresh frames place).step '"' =
      (inString frames place (place.after '"') place.line [], []) := by
    simp [step, codeStep, opening, fresh, inString, houtside, Text.isBlank]
  obtain ⟨hrun, hemits⟩ :=
    inString_flatMap frames place (place.after '"') place.line [] houtside value.toList
  -- the opening quote, the characters of the value, and the quote that ends the token
  rw [stringLiteral, String.toList_ofList, run_cons, emits_cons, hopen, run_append, emits_append,
    hrun, hemits, Place.afterText_cons, Place.afterText_append]
  refine ⟨?_, ?_, ?_⟩
  · simp [run, step, stringStep, inString]
  · simp [run, step, stringStep, inString]
  · simp [emits, step, stringStep, inString, tokenReports, houtside, readBack, Place.after]

/-- A string literal is one token, which spans the text. -/
theorem tokenize_stringLiteral (value : String) :
    tokenize (stringLiteral value) =
      .ok ⟨[⟨.string, readBack value, 0, Text.byteLength (stringLiteral value).toList, 0, 0⟩],
        []⟩ := by
  obtain ⟨hmode, hframes, hemits⟩ := Scanner.fresh_stringLiteral origin inTemplate_nil value
  have hfinish : ((Scanner.fresh [] origin).run (stringLiteral value).toList).finish = [] := by
    simp [Scanner.finish, hmode, hframes, openReports]
  have hreports : scan (stringLiteral value).toList =
      [.token
        ⟨.string, readBack value, 0, Text.byteLength (stringLiteral value).toList, 0, 0⟩] := by
    rw [scan_eq_reports, Scanner.initial_eq_fresh, Scanner.reports_eq_emits, hfinish, hemits,
      offset_origin]
    rfl
  rw [tokenize, hreports]
  rfl

/-- Every string literal is read as one string token that spans it, and the text of the token
is the value if and only if there is no line feed, tab or carriage return in the value. -/
theorem stringLiteral_reads_back_iff (value : String) :
    tokenize (stringLiteral value) =
        .ok ⟨[⟨.string, readBack value, 0, Text.byteLength (stringLiteral value).toList, 0, 0⟩],
          []⟩ ∧
      (readBack value = value ↔ '\n' ∉ value.toList ∧ '\t' ∉ value.toList ∧
        '\r' ∉ value.toList) := by
  refine ⟨tokenize_stringLiteral value, ?_⟩
  rw [readBack_eq_iff]
  constructor
  · intro hplain
    refine ⟨?_, ?_, ?_⟩
    · exact fun hmem => hplain _ hmem (.inl rfl)
    · exact fun hmem => hplain _ hmem (.inr (.inl rfl))
    · exact fun hmem => hplain _ hmem (.inr (.inr rfl))
  · rintro ⟨hfeed, htab, hreturn⟩ c hc (rfl | rfl | rfl)
    · exact hfeed hc
    · exact htab hc
    · exact hreturn hc

/-- The literal for a line feed is read as the letter `n`. -/
theorem line_feed_is_read_as_letter :
    tokenize (stringLiteral "\n") = .ok ⟨[⟨.string, "n", 0, 4, 0, 0⟩], []⟩ ∧
      ¬∃ scanned token, tokenize (stringLiteral "\n") = .ok scanned ∧
        scanned.tokens = [token] ∧ token.text = "\n" := by
  have hread : tokenize (stringLiteral "\n") = .ok ⟨[⟨.string, "n", 0, 4, 0, 0⟩], []⟩ := by
    decide
  refine ⟨hread, ?_⟩
  rintro ⟨scanned, token, hscanned, htokens, htext⟩
  rw [hread] at hscanned
  obtain rfl := Except.ok.inj hscanned
  obtain rfl := List.singleton_inj.mp htokens
  exact absurd htext (by decide)

end PersistLayer.Syntax
