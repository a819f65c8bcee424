import PersistLayer.Proofs.Render.Wording

/-!
# What stands in brackets

Words with brackets among them make a tree: all that stands in a pair of brackets is one
item for the code around it, and commas cut it into parts.  `partsIn` reads the parts of
some words.  It refuses brackets that do not match, and a comma that does not stand between
two parts.  The parts say all there is to say about the words (`words_of_partsIn`), so
they show where the commas are.

A piece of text with nothing open at its ends has the same items wherever it stands
(`Tells`), and pieces with commas between them are the parts of the brackets around
(`tells_group`).
-/

namespace PersistLayer.Syntax

/-! ## Items -/

/-- The kinds of brackets. -/
inductive Bracket where
  | round
  | square
  | curly
  deriving DecidableEq

/-- The word that opens a pair of brackets. -/
def Bracket.opener : Bracket → String
  | round => "("
  | square => "["
  | curly => "\x7b"

/-- The word that closes a pair of brackets. -/
def Bracket.closer : Bracket → String
  | round => ")"
  | square => "]"
  | curly => "\x7d"

/-- A word, or a pair of brackets with the parts between them. -/
inductive Item where
  | word (word : Word)
  | group (bracket : Bracket) (parts : List (List Item))

/-- What a word is for the items around it. -/
inductive Role where
  | comma
  | opening (bracket : Bracket)
  | closing (bracket : Bracket)
  | other
  deriving DecidableEq

/-- Only the comma and the brackets have a role of their own, and only as marks: in a string
literal they are text. -/
def roleOf (word : Word) : Role :=
  if word = mark "," then .comma
  else if word = mark "(" then .opening .round
  else if word = mark "[" then .opening .square
  else if word = mark "\x7b" then .opening .curly
  else if word = mark ")" then .closing .round
  else if word = mark "]" then .closing .square
  else if word = mark "\x7d" then .closing .curly
  else .other

@[simp] theorem roleOf_comma : roleOf (mark ",") = .comma := rfl

@[simp] theorem roleOf_opener (bracket : Bracket) :
    roleOf (mark bracket.opener) = .opening bracket := by
  cases bracket <;> rfl

@[simp] theorem roleOf_closer (bracket : Bracket) :
    roleOf (mark bracket.closer) = .closing bracket := by
  cases bracket <;> rfl

/-- A word without commas and delimiters is no more than a word. -/
theorem roleOf_eq_other {word : Word} (hword : ∀ c ∈ word.2.toList, c ≠ ',' ∧ isInert c = true) :
    roleOf word = .other := by
  have hmark : ∀ text : String, text.toList.any (fun c => c == ',' || !isInert c) = true →
      word ≠ mark text := by
    rintro text hany rfl
    obtain ⟨c, hc, hfails⟩ := List.any_eq_true.mp hany
    obtain ⟨hcomma, hinert⟩ := hword c hc
    simp [hcomma, hinert] at hfails
  rw [roleOf, if_neg (hmark "," rfl), if_neg (hmark "(" rfl), if_neg (hmark "[" rfl),
    if_neg (hmark "\x7b" rfl), if_neg (hmark ")" rfl), if_neg (hmark "]" rfl),
    if_neg (hmark "\x7d" rfl)]

/-! ## Reading items -/

/-- What is read of the code in a pair of brackets: the parts that a comma ended, and the
items behind them. -/
structure Level where
  parts : List (List Item)
  current : List Item

/-- No code has been read. -/
def Level.empty : Level := ⟨[], []⟩

/-- Items stand behind those of the part that no comma has ended. -/
def Level.add (level : Level) (items : List Item) : Level :=
  { level with current := level.current ++ items }

/-- A comma ends a part that is not empty. -/
def Level.cut? (level : Level) : Option Level :=
  if level.current.isEmpty then none else some ⟨level.parts ++ [level.current], []⟩

/-- All parts, when the code ends.  Behind a comma there must be one more. -/
def Level.close? (level : Level) : Option (List (List Item)) :=
  if level.current.isEmpty then if level.parts.isEmpty then some [] else none
  else some (level.parts ++ [level.current])

/-- What is read of some words: the code in the innermost brackets, and for all brackets
that are open the code in front of them. -/
structure Bracketing where
  inner : Level
  outer : List (Bracket × Level)

/-- Reads a word. -/
def Bracketing.step (reading : Bracketing) (word : Word) : Option Bracketing :=
  match roleOf word with
  | .other => some { reading with inner := reading.inner.add [.word word] }
  | .comma => reading.inner.cut?.map fun inner => { reading with inner }
  | .opening bracket => some ⟨.empty, (bracket, reading.inner) :: reading.outer⟩
  | .closing bracket =>
    match reading.outer with
    | [] => none
    | (opened, around) :: outer =>
      if opened = bracket then
        reading.inner.close?.map fun parts => ⟨around.add [.group bracket parts], outer⟩
      else none

/-- The parts of some words, if all brackets match and all commas stand between parts. -/
def partsIn (words : List Word) : Option (List (List Item)) :=
  (words.foldlM Bracketing.step ⟨.empty, []⟩).bind fun reading =>
    if reading.outer.isEmpty then reading.inner.close? else none

/-! ## The words of items -/

mutual

/-- The words of an item. -/
def Item.words : Item → List Word
  | .word word => [word]
  | .group bracket parts =>
    mark bracket.opener :: (wordsOfParts parts ++ [mark bracket.closer])

/-- The words of neighbouring items. -/
def wordsOfItems : List Item → List Word
  | [] => []
  | item :: rest => item.words ++ wordsOfItems rest

/-- The words of parts, with commas between neighbours. -/
def wordsOfParts : List (List Item) → List Word
  | [] => []
  | [last] => wordsOfItems last
  | part :: next :: rest => wordsOfItems part ++ mark "," :: wordsOfParts (next :: rest)

end

theorem wordsOfItems_append (items more : List Item) :
    wordsOfItems (items ++ more) = wordsOfItems items ++ wordsOfItems more := by
  induction items with
  | nil => rfl
  | cons item rest ih => rw [List.cons_append, wordsOfItems, wordsOfItems, ih, List.append_assoc]

theorem commaSeparated_concat (front : List (List Word)) (last : List Word) :
    commaSeparated (front ++ [last]) =
      (front.flatMap fun words => words ++ [mark ","]) ++ last := by
  induction front with
  | nil => simp [commaSeparated]
  | cons words rest ih =>
      obtain ⟨next, others, hrest⟩ := List.exists_cons_of_ne_nil
        (show rest ++ [last] ≠ [] by simp)
      calc commaSeparated (words :: (rest ++ [last]))
          = words ++ [mark ","] ++ commaSeparated (rest ++ [last]) := by
            rw [hrest, commaSeparated, List.intercalate_cons_cons]
            rfl
        _ = words ++ [mark ","] ++ ((rest.flatMap fun words => words ++ [mark ","]) ++ last) := by
            rw [ih]
        _ = _ := by rw [List.flatMap_cons, List.append_assoc, List.append_assoc, List.append_assoc]

theorem wordsOfParts_eq (parts : List (List Item)) :
    wordsOfParts parts = commaSeparated (parts.map wordsOfItems) := by
  induction parts with
  | nil => rfl
  | cons part rest ih =>
      cases rest with
      | nil => simp [wordsOfParts, commaSeparated]
      | cons next others =>
          calc wordsOfParts (part :: next :: others)
              = wordsOfItems part ++ mark "," :: wordsOfParts (next :: others) := rfl
            _ = wordsOfItems part ++ [mark ","] ++
                  commaSeparated ((next :: others).map wordsOfItems) := by
                rw [ih, List.append_assoc, List.singleton_append]
            _ = _ := by
                rw [commaSeparated, commaSeparated, List.map_cons, List.map_cons, List.map_cons,
                  List.intercalate_cons_cons]

/-- The words that were read at a level. -/
def Level.words (level : Level) : List Word :=
  (level.parts.flatMap fun part => wordsOfItems part ++ [mark ","]) ++ wordsOfItems level.current

/-- All words that were read. -/
def Bracketing.words (reading : Bracketing) : List Word :=
  (reading.outer.reverse.flatMap fun (bracket, around) => around.words ++ [mark bracket.opener]) ++
    reading.inner.words

theorem Level.words_add (level : Level) (items : List Item) :
    (level.add items).words = level.words ++ wordsOfItems items := by
  rw [words, words, add, wordsOfItems_append, List.append_assoc]

theorem Level.words_of_close {level : Level} {parts : List (List Item)}
    (hclose : level.close? = some parts) : wordsOfParts parts = level.words := by
  unfold close? at hclose
  split_ifs at hclose with hcurrent hparts
  · obtain rfl := Option.some.inj hclose
    rw [words, List.isEmpty_iff.mp hcurrent, List.isEmpty_iff.mp hparts]
    rfl
  · -- the last part has no comma behind it
    obtain rfl := Option.some.inj hclose
    rw [wordsOfParts_eq, List.map_append, List.map_singleton, commaSeparated_concat,
      List.flatMap_map, words]

theorem Level.words_of_cut {level cut : Level} (hcut : level.cut? = some cut) :
    cut.words = level.words ++ [mark ","] := by
  unfold cut? at hcut
  split_ifs at hcut
  obtain rfl := Option.some.inj hcut
  simp [words, wordsOfItems]

/-- Whatever a word is, it is the one for its role. -/
theorem word_of_roleOf (word : Word) :
    match roleOf word with
    | .comma => word = mark ","
    | .opening bracket => word = mark bracket.opener
    | .closing bracket => word = mark bracket.closer
    | .other => True := by
  unfold roleOf
  split_ifs <;> trivial

/-- A word is read once. -/
theorem Bracketing.words_of_step {reading next : Bracketing} {word : Word}
    (hstep : reading.step word = some next) : next.words = reading.words ++ [word] := by
  have hword := word_of_roleOf word
  unfold step at hstep
  split at hstep
  case h_1 =>
    obtain rfl := Option.some.inj hstep
    simp [words, Level.words_add, wordsOfItems, Item.words]
  case h_2 hrole =>
    rw [hrole] at hword
    obtain ⟨cut, hcut, rfl⟩ := Option.map_eq_some_iff.mp hstep
    rw [words, words, Level.words_of_cut hcut, hword, List.append_assoc]
  case h_3 bracket hrole =>
    rw [hrole] at hword
    obtain rfl := Option.some.inj hstep
    simp [words, Level.words, Level.empty, wordsOfItems, hword]
  case h_4 bracket hrole =>
    rw [hrole] at hword
    split at hstep
    · cases hstep
    case h_2 opened around outer houter =>
      -- the bracket closes the one that is open, or the word is refused
      split_ifs at hstep with hmatch
      obtain ⟨parts, hclose, rfl⟩ := Option.map_eq_some_iff.mp hstep
      simp [words, houter, Level.words_add, wordsOfItems, Item.words, hmatch, hword,
        Level.words_of_close hclose]

theorem Bracketing.words_of_foldlM {words : List Word} {reading last : Bracketing}
    (hread : words.foldlM step reading = some last) : last.words = reading.words ++ words := by
  induction words generalizing reading with
  | nil =>
      obtain rfl := Option.some.inj hread
      rw [List.append_nil]
  | cons word rest ih =>
      rw [List.foldlM_cons] at hread
      obtain ⟨next, hstep, hrest⟩ := Option.bind_eq_some_iff.mp hread
      rw [ih hrest, words_of_step hstep, List.append_assoc, List.singleton_append]

/-- **The parts say all about the words**: what brackets are where, and that commas stand
between neighbouring parts and nowhere else. -/
theorem words_of_partsIn {words : List Word} {parts : List (List Item)}
    (hread : partsIn words = some parts) : wordsOfParts parts = words := by
  obtain ⟨last, hlast, hclose⟩ := Option.bind_eq_some_iff.mp hread
  split_ifs at hclose with houter
  have hall := Bracketing.words_of_foldlM hlast
  rw [Level.words_of_close hclose]
  rw [Bracketing.words, List.isEmpty_iff.mp houter] at hall
  exact hall

/-! ## Words that items are read from -/

/-- The items are read from the words, wherever they stand. -/
def Spells (words : List Word) (items : List Item) : Prop :=
  ∀ inner outer, words.foldlM Bracketing.step ⟨inner, outer⟩ = some ⟨inner.add items, outer⟩

/-- The parts are read from the words, if nothing else stands in the brackets. -/
def SpellsParts (words : List Word) (parts : List (List Item)) : Prop :=
  ∃ level : Level, level.close? = some parts ∧
    ∀ outer, words.foldlM Bracketing.step ⟨.empty, outer⟩ = some ⟨level, outer⟩

theorem spells_nil : Spells [] [] := fun inner outer => by simp [Level.add]

theorem Spells.append {words more : List Word} {items rest : List Item}
    (hfront : Spells words items) (hback : Spells more rest) :
    Spells (words ++ more) (items ++ rest) := by
  intro inner outer
  rw [List.foldlM_append, hfront, Option.bind_eq_bind, Option.bind_some, hback]
  simp [Level.add]

/-- Words that are neither commas nor brackets. -/
theorem spells_words {words : List Word} (hwords : ∀ word ∈ words, roleOf word = .other) :
    Spells words (words.map .word) := by
  induction words with
  | nil => exact spells_nil
  | cons word rest ih =>
      obtain ⟨hword, hrest⟩ := List.forall_mem_cons.mp hwords
      have hone : Spells [word] [.word word] := by
        intro inner outer
        simp [Bracketing.step, hword]
      exact hone.append (ih hrest)

/-- Brackets are one item. -/
theorem SpellsParts.group {words : List Word} {parts : List (List Item)}
    (hparts : SpellsParts words parts) (bracket : Bracket) :
    Spells (mark bracket.opener :: (words ++ [mark bracket.closer])) [.group bracket parts] := by
  obtain ⟨level, hclose, hread⟩ := hparts
  intro inner outer
  simp [Bracketing.step, hread, hclose]

theorem SpellsParts.partsIn_eq {words : List Word} {parts : List (List Item)}
    (hparts : SpellsParts words parts) : partsIn words = some parts := by
  obtain ⟨level, hclose, hread⟩ := hparts
  simp [partsIn, hread, hclose]

theorem Spells.part {words : List Word} {items : List Item} (hwords : Spells words items)
    (hne : items ≠ []) : SpellsParts words [items] :=
  ⟨⟨[], items⟩, by simp [Level.close?, hne], fun outer => by
    rw [hwords]
    simp [Level.add, Level.empty]⟩

/-- Parts with commas between. -/
theorem spellsParts_commaSeparated {α : Type} {list : List α} {words : α → List Word}
    {items : α → List Item} (hlist : ∀ a ∈ list, Spells (words a) (items a) ∧ items a ≠ []) :
    SpellsParts (commaSeparated (list.map words)) (list.map items) := by
  rcases List.eq_nil_or_concat list with rfl | ⟨front, last, rfl⟩
  · exact ⟨.empty, rfl, fun outer => rfl⟩
  rw [List.concat_eq_append, List.forall_mem_append, List.forall_mem_singleton] at hlist
  obtain ⟨hfront, hlast, hne⟩ := hlist
  -- each part in front is ended by the comma behind it
  have hread : ∀ (parts : List (List Item)) (outer : List (Bracket × Level)),
      (front.flatMap fun a => words a ++ [mark ","]).foldlM Bracketing.step ⟨⟨parts, []⟩, outer⟩ =
        some ⟨⟨parts ++ front.map items, []⟩, outer⟩ := by
    clear hlast
    induction front with
    | nil => simp
    | cons a rest ih =>
        obtain ⟨⟨hspells, hpart⟩, hrest⟩ := List.forall_mem_cons.mp hfront
        intro parts outer
        rw [List.flatMap_cons, List.append_assoc, List.foldlM_append, hspells]
        simp [Bracketing.step, Level.add, Level.cut?, hpart, ih hrest]
  refine ⟨⟨front.map items, items last⟩, by simp [Level.close?, hne], fun outer => ?_⟩
  have hwords : commaSeparated ((front.concat last).map words) =
      (front.flatMap fun a => words a ++ [mark ","]) ++ words last := by
    rw [List.concat_eq_append, List.map_append, List.map_singleton, commaSeparated_concat,
      List.flatMap_map]
  rw [hwords, List.foldlM_append, Level.empty, hread, Option.bind_eq_bind, Option.bind_some, hlast]
  simp [Level.add]

/-! ## The items of a text -/

/-- A piece of text that may stand behind an edge, the edge behind it, and its items. -/
def Tells (before after : Edge) (text : String) (items : List Item) : Prop :=
  ∃ words, Wording before after text words ∧ Spells words items

/-- A text that may stand between brackets, and the parts that it is cut into. -/
def TellsParts (text : String) (parts : List (List Item)) : Prop :=
  ∃ words, Wording .clean .word text words ∧ SpellsParts words parts

/-- A piece of text with an opening bracket at its end, and the items in front of it. -/
def OpensBracket (bracket : Bracket) (before : Edge) (text : String) (items : List Item) : Prop :=
  ∃ words, Wording before .clean text (words ++ [mark bracket.opener]) ∧ Spells words items

/-- A piece of text with a closing bracket at its beginning, and the items behind it. -/
def ClosesBracket (bracket : Bracket) (after : Edge) (text : String) (items : List Item) : Prop :=
  ∃ words, Wording .word after text (mark bracket.closer :: words) ∧ Spells words items

/-- None of the words is a comma or a bracket. -/
def othersOnly (words : List Word) : Bool := words.all fun word => roleOf word == .other

theorem spells_of_othersOnly {words : List Word} (hwords : othersOnly words = true) :
    Spells words (words.map .word) :=
  spells_words fun word hword => by simpa using List.all_eq_true.mp hwords word hword

section Texts

variable {before middle after : Edge} {text more opening closing inner : String}
  {items rest : List Item} {parts : List (List Item)} {words : List Word} {bracket : Bracket}

theorem tells_of_fixed
    (hfixed : (wordingFixed before after text words && othersOnly words) = true) :
    Tells before after text (words.map .word) := by
  obtain ⟨hwording, hwords⟩ := Bool.and_eq_true_iff.mp hfixed
  exact ⟨words, wording_of_fixed hwording, spells_of_othersOnly hwords⟩

theorem opens_of_fixed
    (hfixed : (wordingFixed before .clean text (words ++ [mark bracket.opener]) &&
      othersOnly words) = true) : OpensBracket bracket before text (words.map .word) := by
  obtain ⟨hwording, hwords⟩ := Bool.and_eq_true_iff.mp hfixed
  exact ⟨words, wording_of_fixed hwording, spells_of_othersOnly hwords⟩

theorem closes_of_fixed (hfixed : (wordingFixed .word after text (mark bracket.closer :: words) &&
    othersOnly words) = true) : ClosesBracket bracket after text (words.map .word) := by
  obtain ⟨hwording, hwords⟩ := Bool.and_eq_true_iff.mp hfixed
  exact ⟨words, wording_of_fixed hwording, spells_of_othersOnly hwords⟩

theorem Tells.append (hfront : Tells before middle text items)
    (hback : Tells middle after more rest) :
    Tells before after (text ++ more) (items ++ rest) := by
  obtain ⟨words, hwording, hspells⟩ := hfront
  obtain ⟨others, hmore, hrest⟩ := hback
  exact ⟨words ++ others, hwording.append hmore, hspells.append hrest⟩

theorem Tells.loosen (htext : Tells before .clean text items) : Tells before .word text items := by
  obtain ⟨words, hwording, hspells⟩ := htext
  exact ⟨words, hwording.loosen, hspells⟩

theorem Tells.ofWord (htext : Tells .word after text items) : Tells .clean after text items := by
  obtain ⟨words, hwording, hspells⟩ := htext
  exact ⟨words, hwording.ofWord, hspells⟩

theorem Tells.opens (hfront : Tells before middle text items)
    (hback : OpensBracket bracket middle more rest) :
    OpensBracket bracket before (text ++ more) (items ++ rest) := by
  obtain ⟨words, hwording, hspells⟩ := hfront
  obtain ⟨others, hmore, hrest⟩ := hback
  refine ⟨words ++ others, ?_, hspells.append hrest⟩
  rw [List.append_assoc]
  exact hwording.append hmore

/-- **Brackets around parts are one item.** -/
theorem tells_group (hopening : OpensBracket bracket before opening items)
    (hinner : TellsParts inner parts) (hclosing : ClosesBracket bracket after closing rest) :
    Tells before after (opening ++ inner ++ closing) (items ++ .group bracket parts :: rest) := by
  obtain ⟨front, hfront, hfrontSpells⟩ := hopening
  obtain ⟨words, hwording, hspells⟩ := hinner
  obtain ⟨back, hback, hbackSpells⟩ := hclosing
  refine ⟨_, (hfront.append hwording).append hback, ?_⟩
  have hall := (hfrontSpells.append (hspells.group bracket)).append hbackSpells
  simpa using hall

/-- What stands alone is one part. -/
theorem Tells.part (htext : Tells .clean .word text items) (hne : items ≠ []) :
    TellsParts text [items] := by
  obtain ⟨words, hwording, hspells⟩ := htext
  exact ⟨words, hwording, hspells.part hne⟩

/-- A list of written parts. -/
theorem tellsParts_commaList {α : Type} {list : List α} {write : α → String}
    {items : α → List Item}
    (hlist : ∀ a ∈ list, Tells .clean .word (write a) (items a) ∧ items a ≠ []) :
    TellsParts (commaList (list.map write)) (list.map items) := by
  choose! words hwording hspells using fun a ha => (hlist a ha).1
  exact ⟨_, wording_commaList hwording,
    spellsParts_commaSeparated fun a ha => ⟨hspells a ha, (hlist a ha).2⟩⟩

end Texts

end PersistLayer.Syntax
