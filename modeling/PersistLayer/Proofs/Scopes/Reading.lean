import PersistLayer.Fragment
import PersistLayer.Proofs.Scanner.Tokens
import PersistLayer.Syntax.Name

/-!
# The scopes in a text

A type of another module is written with the name of its scope in front, as in
`persist:Error`.  The scopes in a text are the words that stand in front of a colon with
a name directly behind it, outside string literals (`scopesOf`).

They are read by a scanner of three states, one character after the other, so that they
can be read off the parts that a text is put together from (`Reads`).  A line feed ends
whatever is being read, and the scopes in a text of lines are those in its lines.
-/

namespace PersistLayer.Syntax

/-! ## Reading scopes -/

/-- What is being read: a word, which is kept backwards and may be empty, a word with a
colon behind it, or a string literal. -/
inductive Reading where
  | word (reversed : List Char)
  | colon (reversed : List Char)
  | quoted (escaped : Bool)
  deriving Repr, DecidableEq

namespace Reading

/-- Nothing is being read. -/
def idle : Reading := .word []

/-- Whether a string literal is being read. -/
def isQuoted : Reading → Bool
  | quoted _ => true
  | _ => false

/-- What is read from a character on that goes on with nothing.  A raw reading reads
string literals as it reads code. -/
def start (raw : Bool) (c : Char) : Reading :=
  if isIdentifierChar c then .word [c] else if !raw && c == '"' then .quoted false else idle

/-- Reads a character, which may be the one that shows a word to be a scope. -/
def step (raw : Bool) : Reading → Char → Reading × Option String
  | word reversed, c =>
    if isIdentifierChar c then (.word (c :: reversed), none)
    else if c = ':' ∧ reversed ≠ [] then (.colon reversed, none)
    else (start raw c, none)
  | colon reversed, c =>
    (start raw c, if isIdentifierChar c then some (String.ofList reversed.reverse) else none)
  | quoted escaped, c =>
    if c = '\n' then (idle, none)
    else if escaped then (.quoted false, none)
    else if c = '\\' then (.quoted true, none)
    else if c = '"' then (idle, none)
    else (.quoted false, none)

/-- What is being read behind a text. -/
def run (raw : Bool) (reading : Reading) : List Char → Reading
  | [] => reading
  | c :: rest => (reading.step raw c).1.run raw rest

/-- The scopes in a text. -/
def scopes (raw : Bool) (reading : Reading) : List Char → List String
  | [] => []
  | c :: rest => (reading.step raw c).2.toList ++ (reading.step raw c).1.scopes raw rest

variable {raw : Bool}

@[simp] theorem run_nil (reading : Reading) : reading.run raw [] = reading := rfl

@[simp] theorem scopes_nil (reading : Reading) : reading.scopes raw [] = [] := rfl

theorem run_append (reading : Reading) (front back : List Char) :
    reading.run raw (front ++ back) = (reading.run raw front).run raw back := by
  induction front generalizing reading with
  | nil => rfl
  | cons c rest ih => exact ih _

theorem scopes_append (reading : Reading) (front back : List Char) :
    reading.scopes raw (front ++ back) =
      reading.scopes raw front ++ (reading.run raw front).scopes raw back := by
  induction front generalizing reading with
  | nil => rfl
  | cons c rest ih => rw [List.cons_append, scopes, ih, scopes, run, List.append_assoc]

/-! ## Line feeds and blanks -/

@[simp] theorem step_feed (reading : Reading) : reading.step raw '\n' = (idle, none) := by
  have hname : isIdentifierChar '\n' = false := by decide
  cases reading <;> simp [step, start, hname]

/-- A line is read to its end, whatever stands below it. -/
theorem run_line (reading : Reading) (line back : List Char) :
    reading.run raw (line ++ '\n' :: back) = idle.run raw back := by
  rw [run_append, run, step_feed]

theorem scopes_line (reading : Reading) (line back : List Char) :
    reading.scopes raw (line ++ '\n' :: back) =
      reading.scopes raw line ++ idle.scopes raw back := by
  rw [scopes_append, scopes, step_feed]
  rfl

/-- A blank is no part of a scope. -/
theorem step_blank {c : Char} (hc : Text.isBlank c = true) {reading : Reading} :
    (reading.step raw c).2 = none ∧
      (reading.isQuoted = false → (reading.step raw c).1 = idle) := by
  have hword : isIdentifierChar c = false := by
    by_contra hword
    rw [isBlank_eq_false_of_isIdentifierChar (by simpa using hword)] at hc
    cases hc
  have hne : c ≠ ':' ∧ c ≠ '"' := by
    constructor <;>
      · rintro rfl
        revert hc
        decide
  cases reading with
  | word => simp [step, start, hword, hne]
  | colon => simp [step, start, hword, hne]
  | quoted escaped =>
      simp only [step, isQuoted, reduceCtorEq, false_implies, and_true]
      split_ifs <;> rfl

theorem scopes_blanks {blanks : List Char} (hblanks : ∀ c ∈ blanks, Text.isBlank c = true)
    (reading : Reading) : reading.scopes raw blanks = [] := by
  induction blanks generalizing reading with
  | nil => rfl
  | cons c rest ih =>
      obtain ⟨hc, hrest⟩ := List.forall_mem_cons.mp hblanks
      rw [scopes, (step_blank hc).1, ih hrest]
      rfl

theorem run_blanks {blanks : List Char} (hblanks : ∀ c ∈ blanks, Text.isBlank c = true) :
    idle.run raw blanks = idle := by
  induction blanks with
  | nil => rfl
  | cons c rest ih =>
      obtain ⟨hc, hrest⟩ := List.forall_mem_cons.mp hblanks
      rw [run, (step_blank hc).2 rfl, ih hrest]

/-! ## Quotes and colons -/

/-- Only a quote begins a string literal, and for a raw reading not even that. -/
theorem isQuoted_step {reading : Reading} (hreading : reading.isQuoted = false) {c : Char}
    (hc : raw = true ∨ c ≠ '"') : (reading.step raw c).1.isQuoted = false := by
  have hstart : (start raw c).isQuoted = false := by
    unfold start
    split_ifs with hword hquote
    · rfl
    · rcases hc with rfl | hne
      · cases hquote
      · simp [hne] at hquote
    · rfl
  cases reading with
  | word =>
      simp only [step]
      split_ifs
      · rfl
      · rfl
      · exact hstart
  | colon => exact hstart
  | quoted => cases hreading

theorem isQuoted_run {reading : Reading} (hreading : reading.isQuoted = false) {text : List Char}
    (htext : raw = true ∨ '"' ∉ text) : (reading.run raw text).isQuoted = false := by
  induction text generalizing reading with
  | nil => exact hreading
  | cons c rest ih =>
      simp only [List.mem_cons, not_or] at htext
      exact ih (isQuoted_step hreading (htext.imp_right fun h => Ne.symm h.1))
        (htext.imp_right And.right)

/-- Without a colon there is no scope. -/
theorem scopes_of_no_colon {text : List Char} (htext : ':' ∉ text) {reading : Reading}
    (hreading : ∀ reversed, reading ≠ .colon reversed) : reading.scopes raw text = [] := by
  induction text generalizing reading with
  | nil => rfl
  | cons c rest ih =>
      simp only [List.mem_cons, not_or] at htext
      have hstart : ∀ reversed, start raw c ≠ .colon reversed := by
        intro reversed
        unfold start
        split_ifs <;> simp [idle]
      -- a scope ends behind a colon, and only a colon leads there
      have hstep : (reading.step raw c).2 = none ∧
          ∀ reversed, (reading.step raw c).1 ≠ .colon reversed := by
        cases reading with
        | word =>
            simp only [step, Ne.symm htext.1, false_and, if_false]
            split_ifs
            · exact ⟨rfl, by simp⟩
            · exact ⟨rfl, hstart⟩
        | colon reversed => exact absurd rfl (hreading reversed)
        | quoted escaped =>
            simp only [step]
            split_ifs <;> simp [idle]
      rw [scopes, hstep.1, ih htext.2 hstep.2]
      rfl

/-- Nor is there one when a blank stands in front of such a text, whatever was being read. -/
theorem scopes_of_blank_no_colon {c : Char} (hc : Text.isBlank c = true) {text : List Char}
    (htext : ':' ∉ text) (reading : Reading) : reading.scopes raw (c :: text) = [] := by
  have hbehind : ∀ reversed, (reading.step raw c).1 ≠ .colon reversed := by
    intro reversed
    cases reading with
    | quoted escaped =>
        simp only [step]
        split_ifs <;> simp [idle]
    | word | colon =>
        rw [(step_blank hc).2 rfl]
        simp [idle]
  rw [scopes, (step_blank hc).1, scopes_of_no_colon htext hbehind]
  rfl

end Reading

/-- The scopes that are written in a text. -/
def scopesOf (text : String) : List String := Reading.idle.scopes false text.toList

/-! ## Reading texts in parts -/

/-- What may be being read between two parts of a text: nothing, anything but a string
literal, or a string literal. -/
inductive Stance where
  | idle
  | loose
  | inside
  deriving Repr, DecidableEq

/-- The reading is one of those that the stance allows. -/
def Stance.holds : Stance → Reading → Bool
  | idle, reading => reading == .idle
  | loose, reading => !reading.isQuoted
  | inside, reading => reading == .quoted false

/-- A text is read from one stance to another, with the scopes that are given. -/
structure Reads (raw : Bool) (before after : Stance) (text : String) (scopes : List String) :
    Prop where
  scopes_eq : ∀ reading, before.holds reading = true → reading.scopes raw text.toList = scopes
  holds : ∀ reading, before.holds reading = true →
    after.holds (reading.run raw text.toList) = true

/-- The text goes on with no word and with no scope. -/
def breaks : List Char → Bool
  | [] => false
  | c :: rest => !isIdentifierChar c && (c != ':' || rest.head?.any fun d => !isIdentifierChar d)

/-- The reading that stands for a stance. -/
def Stance.reading : Stance → Reading
  | idle | loose => .idle
  | inside => .quoted false

/-- A fixed text is read from one stance to another. -/
def readsFixed (raw : Bool) (before after : Stance) (text : String) (scopes : List String) :
    Bool :=
  (before != .loose || breaks text.toList) && before.reading.scopes raw text.toList == scopes &&
    after.holds (before.reading.run raw text.toList)

/-- What breaks off a word is read as if nothing had been there. -/
theorem Reading.eq_of_breaks {raw : Bool} {text : List Char} (hbreaks : breaks text = true)
    {reading : Reading} (hloose : reading.isQuoted = false) :
    reading.scopes raw text = idle.scopes raw text ∧
      reading.run raw text = idle.run raw text := by
  cases text with
  | nil => cases hbreaks
  | cons c rest =>
      simp only [breaks, Bool.and_eq_true, Bool.not_eq_true', Bool.or_eq_true, bne_iff_ne,
        Option.any_eq_true] at hbreaks
      obtain ⟨hword, hcolon⟩ := hbreaks
      rcases hcolon with hcolon | ⟨d, hd, hnext⟩
      · cases reading with
        | word => simp [scopes, run, step, idle, hword, hcolon]
        | colon => simp [scopes, run, step, idle, hword, hcolon]
        | quoted => cases hloose
      · -- behind a colon the next character decides
        obtain ⟨more, rfl⟩ := List.head?_eq_some_iff.mp hd
        cases reading with
        | word reversed =>
            by_cases hc : c = ':' ∧ reversed ≠ []
            · obtain ⟨rfl, hne⟩ := hc
              have hidle : Reading.idle.step raw ':' = (idle, none) := by
                cases raw <;> decide
              have hstep : (Reading.word reversed).step raw ':' = (.colon reversed, none) := by
                simp [step, hword, hne]
              have hsame : (Reading.colon reversed).step raw d = Reading.idle.step raw d := by
                simp [step, idle, hnext]
              simp [scopes, run, hstep, hidle, hsame]
            · simp [scopes, run, step, idle, hword, hc]
        | colon => simp [scopes, run, step, idle, hword]
        | quoted => cases hloose

section Parts

variable {raw : Bool} {before middle after : Stance} {front back text : String}
  {scopes more : List String}

theorem Reads.append (hfront : Reads raw before middle front scopes)
    (hback : Reads raw middle after back more) :
    Reads raw before after (front ++ back) (scopes ++ more) where
  scopes_eq := by
    intro reading hreading
    rw [String.toList_append, Reading.scopes_append, hfront.scopes_eq reading hreading,
      hback.scopes_eq _ (hfront.holds reading hreading)]
  holds := by
    intro reading hreading
    rw [String.toList_append, Reading.run_append]
    exact hback.holds _ (hfront.holds reading hreading)

theorem reads_of_fixed (hfixed : readsFixed raw before after text scopes = true) :
    Reads raw before after text scopes := by
  simp only [readsFixed, Bool.and_eq_true, Bool.or_eq_true, bne_iff_ne, beq_iff_eq] at hfixed
  obtain ⟨⟨hbreaks, hscopes⟩, hafter⟩ := hfixed
  have hsame : ∀ reading, before.holds reading = true →
      reading.scopes raw text.toList = before.reading.scopes raw text.toList ∧
        reading.run raw text.toList = before.reading.run raw text.toList := by
    intro reading hreading
    cases before with
    | idle | inside =>
        simp only [Stance.holds, beq_iff_eq] at hreading
        subst hreading
        exact ⟨rfl, rfl⟩
    | loose =>
        have hbreaks : breaks text.toList = true := by simpa using hbreaks
        exact Reading.eq_of_breaks hbreaks (by simpa [Stance.holds] using hreading)
  refine ⟨?_, ?_⟩
  · intro reading hreading
    rw [(hsame reading hreading).1, hscopes]
  · intro reading hreading
    rw [(hsame reading hreading).2, hafter]

/-- A text without scopes leads another. -/
theorem Reads.leads (hfront : Reads raw before middle front [])
    (hback : Reads raw middle after back scopes) : Reads raw before after (front ++ back) scopes :=
  hfront.append hback

/-- A text without scopes ends another. -/
theorem Reads.ends (hfront : Reads raw before middle front scopes)
    (hback : Reads raw middle after back []) : Reads raw before after (front ++ back) scopes := by
  simpa using hfront.append hback

theorem reads_empty (raw : Bool) (stance : Stance) : Reads raw stance stance "" [] :=
  ⟨fun _ _ => rfl, fun _ h => h⟩

/-- Where nothing is being read, no string literal is. -/
theorem Reads.loosen (htext : Reads raw before .idle text scopes) :
    Reads raw before .loose text scopes where
  scopes_eq := htext.scopes_eq
  holds := by
    intro reading hreading
    have hidle := htext.holds reading hreading
    simp only [Stance.holds, beq_iff_eq] at hidle ⊢
    rw [hidle]
    rfl

theorem Reads.ofLoose (htext : Reads raw .loose after text scopes) :
    Reads raw .idle after text scopes := by
  have hloose : ∀ reading, Stance.idle.holds reading = true →
      Stance.loose.holds reading = true := by
    intro reading hidle
    simp only [Stance.holds, beq_iff_eq] at hidle ⊢
    rw [hidle]
    rfl
  exact ⟨fun reading h => htext.scopes_eq reading (hloose reading h),
    fun reading h => htext.holds reading (hloose reading h)⟩

theorem Reads.scopesOf_eq (htext : Reads false .idle after text scopes) :
    scopesOf text = scopes :=
  htext.scopes_eq .idle rfl

end Parts

/-! ## Names and literals -/

/-- A text that holds no scope and no literal, whatever else is in it. -/
def IsPlain (text : String) : Prop := ∀ c ∈ text.toList, c ≠ ':' ∧ c ≠ '"'

/-- Without a quote a text leaves no string literal open. -/
theorem reads_unquoted {raw : Bool} {text : String} (htext : '"' ∉ text.toList) :
    Reads raw .idle .loose text (Reading.idle.scopes raw text.toList) := by
  refine ⟨?_, ?_⟩
  · intro reading hidle
    rw [beq_iff_eq.mp hidle]
  · intro reading hidle
    rw [beq_iff_eq.mp hidle, Stance.holds, Reading.isQuoted_run rfl (.inr htext)]
    rfl

theorem reads_plain {raw : Bool} {text : String} (hplain : IsPlain text) :
    Reads raw .idle .loose text [] := by
  have hcolon : ':' ∉ text.toList := fun h => (hplain _ h).1 rfl
  have hquote : '"' ∉ text.toList := fun h => (hplain _ h).2 rfl
  have hnone : Reading.idle.scopes raw text.toList = [] :=
    Reading.scopes_of_no_colon hcolon (by simp [Reading.idle])
  rw [← hnone]
  exact reads_unquoted hquote

/-- What goes on in a string literal without ending it. -/
theorem reads_inside {text : String} (htext : ∀ c ∈ text.toList, c ≠ '"' ∧ c ≠ '\\' ∧ c ≠ '\n') :
    Reads false .inside .inside text [] := by
  have hall : ∀ chars : List Char, (∀ c ∈ chars, c ≠ '"' ∧ c ≠ '\\' ∧ c ≠ '\n') →
      (Reading.quoted false).scopes false chars = [] ∧
        (Reading.quoted false).run false chars = .quoted false := by
    intro chars hchars
    induction chars with
    | nil => exact ⟨rfl, rfl⟩
    | cons c rest ih =>
        obtain ⟨hc, hrest⟩ := List.forall_mem_cons.mp hchars
        have hstep : (Reading.quoted false).step false c = (.quoted false, none) := by
          simp [Reading.step, hc]
        rw [Reading.scopes, Reading.run, hstep]
        exact ih hrest
  refine ⟨?_, ?_⟩
  · intro reading hinside
    simp only [Stance.holds, beq_iff_eq] at hinside
    rw [hinside]
    exact (hall _ htext).1
  · intro reading hinside
    simp only [Stance.holds, beq_iff_eq] at hinside ⊢
    rw [hinside]
    exact (hall _ htext).2

/-- A string literal holds no scope, whatever its value. -/
theorem reads_stringLiteral (value : String) : Reads false .loose .idle (stringLiteral value) [] := by
  have hopen : Reads false .loose .inside "\"" [] := reads_of_fixed (by decide +kernel)
  have hclose : Reads false .inside .idle "\"" [] := reads_of_fixed (by decide +kernel)
  have hchar : ∀ c, Reads false .inside .inside (String.ofList (escapedChar c)) [] := by
    intro c
    unfold escapedChar
    split
    iterate 5 exact reads_of_fixed (by decide +kernel)
    case h_6 hquote hbackslash hfeed _ _ =>
      exact reads_inside (by simpa using ⟨hquote, hbackslash, hfeed⟩)
  have hbody : Reads false .inside .inside (String.ofList (value.toList.flatMap escapedChar)) [] := by
    induction value.toList with
    | nil => exact reads_of_fixed (by decide +kernel)
    | cons c rest ih =>
        rw [List.flatMap_cons, String.ofList_append]
        exact (hchar c).append ih
  have hall := (hopen.append hbody).append hclose
  have htext : "\"" ++ String.ofList (value.toList.flatMap escapedChar) ++ "\"" =
      stringLiteral value := by
    rw [← String.toList_inj, stringLiteral]
    simp
  rwa [htext] at hall

/-! ## Lists and lines -/

section Items

variable {α : Type} {raw : Bool} {items : List α} {write : α → String} {scopes : α → List String}

theorem reads_join
    (hitems : ∀ item ∈ items, Reads raw .idle .idle (write item) (scopes item)) :
    Reads raw .idle .idle (String.join (items.map write)) (items.flatMap scopes) := by
  induction items with
  | nil => exact reads_empty raw .idle
  | cons item rest ih =>
      obtain ⟨hitem, hrest⟩ := List.forall_mem_cons.mp hitems
      rw [List.map_cons, String.join_cons, List.flatMap_cons]
      exact hitem.append (ih hrest)

/-- Texts with something between neighbours that is no part of a scope. -/
theorem reads_intercalate {separator : String} {after : Stance}
    (hseparator : Reads raw after .idle separator []) (hend : Reads raw .idle after "" [])
    (hitems : ∀ item ∈ items, Reads raw .idle after (write item) (scopes item)) :
    Reads raw .idle after (separator.intercalate (items.map write)) (items.flatMap scopes) := by
  induction items with
  | nil => exact hend
  | cons item rest ih =>
      obtain ⟨hitem, hrest⟩ := List.forall_mem_cons.mp hitems
      cases rest with
      | nil => simpa using hitem
      | cons next others =>
          rw [List.map_cons, List.map_cons, String.intercalate_cons_cons, List.flatMap_cons,
            ← List.append_nil (scopes item)]
          exact (hitem.append hseparator).append (ih hrest)

theorem flatMap_nil_eq_nil : (items.flatMap fun _ => ([] : List String)) = [] :=
  List.flatMap_eq_nil_iff.mpr fun _ _ => rfl

theorem reads_join_none (hitems : ∀ item ∈ items, Reads raw .idle .idle (write item) []) :
    Reads raw .idle .idle (String.join (items.map write)) [] := by
  rw [← @flatMap_nil_eq_nil _ items]
  exact reads_join hitems

theorem reads_intercalate_none {separator : String}
    (hseparator : Reads raw .loose .idle separator [])
    (hitems : ∀ item ∈ items, Reads raw .idle .loose (write item) []) :
    Reads raw .idle .loose (separator.intercalate (items.map write)) [] := by
  rw [← @flatMap_nil_eq_nil _ items]
  exact reads_intercalate hseparator (reads_empty raw .idle).loosen hitems

end Items

/-- A line is read from nothing to nothing. -/
theorem reads_line (line : String) : Reads false .idle .idle (line ++ "\n") (scopesOf line) := by
  have htext : (line ++ "\n").toList = line.toList ++ '\n' :: [] := String.toList_append
  refine ⟨?_, ?_⟩
  · intro reading hidle
    rw [beq_iff_eq.mp hidle, htext, Reading.scopes_line, Reading.scopes_nil, List.append_nil]
    rfl
  · intro reading hidle
    rw [htext, Reading.run_line]
    rfl

/-- The scopes in a text of lines are those in its lines. -/
theorem scopes_textOfLines (raw : Bool) (lines : List String) :
    Reading.idle.scopes raw (textOfLines lines).toList =
      lines.flatMap fun line => Reading.idle.scopes raw line.toList := by
  induction lines with
  | nil => rfl
  | cons line rest ih =>
      cases rest with
      | nil => simp [textOfLines]
      | cons next others =>
          have htext : (textOfLines (line :: next :: others)).toList =
              line.toList ++ '\n' :: (textOfLines (next :: others)).toList := by
            rw [textOfLines, String.intercalate_cons_cons, ← textOfLines]
            simp
          rw [htext, Reading.scopes_line, ih]
          rfl

end PersistLayer.Syntax
