import Mathlib.Data.List.TakeWhile
import PersistLayer.Command.EnvFile
import PersistLayer.Proofs.Text.Blank

/-!
# What an environment file says

The reader of values goes through a text once and keeps track of the part that it is in.
`Means` says without any state what a text of a value stands for: which pieces it can be made
of, and what each piece stands for.  `Says` does the same for a line, and the reader of lines
finds exactly that (`readAssignment_eq_some_iff`).

`Sets` puts lines in order.  A variable that is set already keeps its value, whether the process
has it or an earlier line, so the process comes before the file and the first assignment in a
file before the later ones.
-/

namespace PersistLayer.Command.EnvFile

/-! ## Values -/

section Values

variable (lookup : String → Option String)

/-- What the name of a variable stands for.  A variable that is not set stands for nothing. -/
def valueOf (name : List Char) : List Char := ((lookup (String.ofList name)).getD "").toList

/-- A character that stands for itself outside quotes or, where `inDouble` is true, between
double quotes. -/
def IsLiteral (inDouble : Bool) (c : Char) : Prop :=
  c ∉ ['$', '\\', '"'] ∧ (inDouble = false → c ∉ ['\'', ' ', '\t'])

/-- What a text of a value stands for, when it begins outside quotes or between double quotes.
A name behind `$` ends at the first character that cannot belong to it, and that character
stands for itself whatever it is, unless it begins the next variable. -/
inductive Means : Bool → List Char → List Char → Prop
  | ends : Means false [] []
  | backslash : Means false ['\\'] []
  | literal {inDouble : Bool} {c : Char} {rest value : List Char} (hc : IsLiteral inDouble c)
      (hrest : Means inDouble rest value) : Means inDouble (c :: rest) (c :: value)
  | escaped {inDouble : Bool} {c meant : Char} {rest value : List Char}
      (hc : unescape? c = some meant) (hrest : Means inDouble rest value) :
      Means inDouble ('\\' :: c :: rest) (meant :: value)
  | single {body rest value : List Char} (hbody : '\'' ∉ body) (hrest : Means false rest value) :
      Means false ('\'' :: (body ++ '\'' :: rest)) (body ++ value)
  | opens {rest value : List Char} (hrest : Means true rest value) :
      Means false ('"' :: rest) value
  | closes {rest value : List Char} (hrest : Means false rest value) :
      Means true ('"' :: rest) value
  | braced {inDouble : Bool} {name rest value : List Char} (hname : '\x7d' ∉ name)
      (hrest : Means inDouble rest value) :
      Means inDouble ('$' :: '\x7b' :: (name ++ '\x7d' :: rest)) (valueOf lookup name ++ value)
  | namedAtEnd {name : List Char} (hname : ∀ c ∈ name, Text.isAlphanumeric c = true) :
      Means false ('$' :: name) (valueOf lookup name)
  | namedTwice {inDouble : Bool} {name rest value : List Char}
      (hname : ∀ c ∈ name, Text.isAlphanumeric c = true) (hrest : Means inDouble ('$' :: rest) value) :
      Means inDouble ('$' :: (name ++ '$' :: rest)) (valueOf lookup name ++ value)
  | named {inDouble : Bool} {name rest value : List Char} {c : Char}
      (hname : ∀ c ∈ name, Text.isAlphanumeric c = true) (hc : Text.isAlphanumeric c = false)
      (hmark : c ≠ '$') (hbrace : c = '\x7b' → name ≠ []) (hrest : Means inDouble rest value) :
      Means inDouble ('$' :: (name ++ c :: rest)) (valueOf lookup name ++ c :: value)
  | behind {c : Char} {blanks remark : List Char} (hblanks : ∀ b ∈ c :: blanks, b ∈ [' ', '\t'])
      (hremark : ∀ d ∈ remark.head?, d = '#') : Means false (c :: (blanks ++ remark)) []

end Values

/-! ## Parts of a value -/

section Parts

variable {lookup : String → Option String} {inDouble : Bool} {back text : List Char}
  {value : String}

/-- The value of the variable that was named comes behind the value so far. -/
theorem Value.substitute_mk (part : Part) (name : List Char) :
    Value.substitute ⟨part, inDouble, name, back⟩ lookup =
      ⟨part, inDouble, [], (valueOf lookup name.reverse).reverse ++ back⟩ := rfl

/-- Outside quotes a value may end anywhere. -/
theorem readValue_nil (hempty : lookup "" = none) :
    readValue lookup ⟨.plain, inDouble, [], back⟩ [] = some value ↔
      inDouble = false ∧ value = String.ofList back.reverse := by
  cases inDouble <;> simp [readValue, Value.substitute, hempty, eq_comm]

/-- Between single quotes everything stands for itself. -/
theorem readValue_single : readValue lookup ⟨.single, inDouble, [], back⟩ text = some value ↔
    ∃ body rest, text = body ++ '\'' :: rest ∧ '\'' ∉ body ∧
      readValue lookup ⟨.plain, inDouble, [], body.reverse ++ back⟩ rest = some value := by
  induction text generalizing back with
  | nil => simp [readValue]
  | cons c rest ih =>
      rw [readValue]
      dsimp only
      split_ifs with hc
      · subst hc
        constructor
        · intro hread
          exact ⟨[], rest, rfl, List.not_mem_nil, hread⟩
        · rintro ⟨_ | ⟨d, body⟩, behind, htext, hbody, hread⟩
          · obtain ⟨-, rfl⟩ := List.cons.inj htext
            exact hread
          · -- the quote that is read ends the body, so the body has no character
            obtain ⟨rfl, -⟩ := List.cons.inj htext
            exact absurd List.mem_cons_self hbody
      · rw [ih]
        constructor
        · rintro ⟨body, behind, rfl, hbody, hread⟩
          exact ⟨c :: body, behind, rfl, by simp [hbody, Ne.symm hc], by simpa using hread⟩
        · rintro ⟨_ | ⟨d, body⟩, behind, htext, hbody, hread⟩
          · exact absurd (List.cons.inj htext).1 hc
          · obtain ⟨rfl, rfl⟩ := List.cons.inj htext
            exact ⟨body, behind, rfl, fun hmem => hbody (List.mem_cons_of_mem _ hmem),
              by simpa using hread⟩

/-- Between braces everything up to the closing one is the name. -/
theorem readValue_bracedName {name : List Char} :
    readValue lookup ⟨.bracedName, inDouble, name, back⟩ text = some value ↔
      ∃ front rest, text = front ++ '\x7d' :: rest ∧ '\x7d' ∉ front ∧
        readValue lookup ⟨.plain, inDouble, [],
          (valueOf lookup (name.reverse ++ front)).reverse ++ back⟩ rest = some value := by
  induction text generalizing name with
  | nil => simp [readValue]
  | cons c rest ih =>
      rw [readValue]
      dsimp only
      split_ifs with hc
      · subst hc
        constructor
        · intro hread
          exact ⟨[], rest, rfl, List.not_mem_nil, by simpa [valueOf, Value.substitute] using hread⟩
        · rintro ⟨_ | ⟨d, front⟩, behind, htext, hfront, hread⟩
          · obtain ⟨-, rfl⟩ := List.cons.inj htext
            simpa [valueOf, Value.substitute] using hread
          · -- the brace that is read ends the name
            obtain ⟨rfl, -⟩ := List.cons.inj htext
            exact absurd List.mem_cons_self hfront
      · rw [ih]
        constructor
        · rintro ⟨front, behind, rfl, hfront, hread⟩
          exact ⟨c :: front, behind, rfl, by simp [hfront, Ne.symm hc], by simpa using hread⟩
        · rintro ⟨_ | ⟨d, front⟩, behind, htext, hfront, hread⟩
          · exact absurd (List.cons.inj htext).1 hc
          · obtain ⟨rfl, rfl⟩ := List.cons.inj htext
            exact ⟨front, behind, rfl, fun hmem => hfront (List.mem_cons_of_mem _ hmem),
              by simpa using hread⟩

/-- A mark begins a variable. -/
theorem readValue_begin (rest : List Char) :
    readValue lookup ⟨.plain, inDouble, [], back⟩ ('$' :: rest) =
      readValue lookup ⟨.name, inDouble, [], back⟩ rest := rfl

/-- A brace right behind a mark begins a name in braces. -/
theorem readValue_brace (rest : List Char) :
    readValue lookup ⟨.plain, inDouble, [], back⟩ ('$' :: '\x7b' :: rest) =
      readValue lookup ⟨.bracedName, inDouble, [], back⟩ rest := rfl

/-- Letters and digits behind `$` are read into the name. -/
theorem readValue_name {name front rest : List Char}
    (hfront : ∀ c ∈ front, Text.isAlphanumeric c = true) :
    readValue lookup ⟨.name, inDouble, name, back⟩ (front ++ rest) =
      readValue lookup ⟨.name, inDouble, front.reverse ++ name, back⟩ rest := by
  induction front generalizing name with
  | nil => rfl
  | cons c others ih =>
      obtain ⟨hc, hothers⟩ := List.forall_mem_cons.mp hfront
      rw [List.cons_append, readValue]
      dsimp only
      rw [if_pos hc, ih hothers, List.reverse_cons, List.append_assoc, List.singleton_append]

/-- Behind the blanks that end a value stands nothing, or a remark. -/
theorem readValue_done (hempty : lookup "" = none) :
    readValue lookup ⟨.done, false, [], back⟩ text = some value ↔
      value = String.ofList back.reverse ∧ ∃ blanks remark, text = blanks ++ remark ∧
        (∀ b ∈ blanks, b ∈ [' ', '\t']) ∧ ∀ d ∈ remark.head?, d = '#' := by
  induction text with
  | nil => simp [readValue, Value.substitute, hempty, eq_comm]
  | cons c rest ih =>
      rw [readValue]
      dsimp only
      split_ifs with hblank hremark
      · have hc : c ∈ [' ', '\t'] := by simpa using hblank
        rw [ih]
        refine and_congr_right fun _ => ⟨?_, ?_⟩
        · rintro ⟨blanks, remark, rfl, hblanks, hhead⟩
          exact ⟨c :: blanks, remark, rfl, List.forall_mem_cons.mpr ⟨hc, hblanks⟩, hhead⟩
        · rintro ⟨_ | ⟨d, blanks⟩, remark, htext, hblanks, hhead⟩
          · -- a remark does not begin with a blank
            obtain rfl : c :: rest = remark := htext
            obtain rfl : c = '#' := hhead c rfl
            exact absurd hc (by decide)
          · obtain ⟨rfl, rfl⟩ := List.cons.inj htext
            exact ⟨blanks, remark, rfl, (List.forall_mem_cons.mp hblanks).2, hhead⟩
      · subst hremark
        simp only [Option.some.injEq, eq_comm]
        exact ⟨fun hvalue => ⟨hvalue, [], '#' :: rest, rfl, by simp, by simp⟩, And.left⟩
      · refine iff_of_false (by simp) ?_
        rintro ⟨-, _ | ⟨d, blanks⟩, remark, htext, hblanks, hhead⟩
        · obtain rfl : c :: rest = remark := htext
          exact hremark (hhead c rfl)
        · obtain ⟨rfl, rfl⟩ := List.cons.inj htext
          exact hblank (by simpa using hblanks c List.mem_cons_self)

/-- A name is read to the first character that cannot belong to it. -/
theorem readValue_mark (rest : List Char) : ∃ name behind, rest = name ++ behind ∧
    (∀ c ∈ name, Text.isAlphanumeric c = true) ∧
    (∀ c ∈ behind.head?, Text.isAlphanumeric c = false) ∧
    readValue lookup ⟨.plain, inDouble, [], back⟩ ('$' :: rest) =
      readValue lookup ⟨.name, inDouble, name.reverse, back⟩ behind := by
  have hname : ∀ c ∈ rest.takeWhile Text.isAlphanumeric, Text.isAlphanumeric c = true :=
    fun c hc => List.mem_takeWhile_imp hc
  have hread := @readValue_name lookup inDouble back [] _ (rest.dropWhile Text.isAlphanumeric) hname
  rw [List.takeWhile_append_dropWhile, List.append_nil] at hread
  refine ⟨_, _, (List.takeWhile_append_dropWhile).symm, hname, ?_, hread⟩
  intro c hc
  have hhead := List.head?_dropWhile_not Text.isAlphanumeric rest
  rw [Option.mem_def.mp hc] at hhead
  simpa using hhead

/-- Every text below a length that is read as the value stands for it. -/
def ReadsBelow (lookup : String → Option String) (value : String) (length : Nat) : Prop :=
  ∀ {text : List Char} {inDouble : Bool} {back : List Char}, text.length < length →
    readValue lookup ⟨.plain, inDouble, [], back⟩ text = some value →
    ∃ meant, Means lookup inDouble text meant ∧ value = String.ofList (back.reverse ++ meant)

/-- A text that begins with a variable. -/
theorem exists_means_of_mark {rest : List Char}
    (hbelow : ReadsBelow lookup value (rest.length + 1))
    (hread : readValue lookup ⟨.plain, inDouble, [], back⟩ ('$' :: rest) = some value) :
    ∃ meant, Means lookup inDouble ('$' :: rest) meant ∧
      value = String.ofList (back.reverse ++ meant) := by
  obtain ⟨name, behind, rfl, hname, hbehind, heq⟩ := @readValue_mark lookup inDouble back rest
  rw [heq] at hread
  cases behind with
  | nil =>
      -- only outside quotes may a value end
      cases inDouble
      · refine ⟨valueOf lookup name, by simpa using Means.namedAtEnd hname, ?_⟩
        simpa [readValue, Value.substitute, valueOf, eq_comm] using hread
      · simp [readValue] at hread
  | cons c more =>
      have hc := hbehind c rfl
      rw [readValue] at hread
      dsimp only at hread
      rw [if_neg (by simp [hc])] at hread
      split_ifs at hread with hbrace hmark
      · -- a brace is read as one only right behind the mark
        obtain ⟨rfl, rfl⟩ : c = '\x7b' ∧ name = [] := by simpa using hbrace
        obtain ⟨front, last, rfl, hfront, hlast⟩ := readValue_bracedName.mp hread
        obtain ⟨meant, hmeant, hvalue⟩ :=
          hbelow (by simp only [List.length_append, List.length_cons]; omega) hlast
        exact ⟨_, .braced hfront hmeant, by simpa using hvalue⟩
      · subst hmark
        have hsecond : readValue lookup ⟨.plain, inDouble, [],
            (valueOf lookup name).reverse ++ back⟩ ('$' :: more) = some value := by
          rw [Value.substitute_mk, List.reverse_reverse] at hread
          exact hread
        obtain ⟨meant, hmeant, hvalue⟩ :=
          hbelow (by simp only [List.length_append, List.length_cons]; omega) hsecond
        exact ⟨_, .namedTwice hname hmeant, by simpa using hvalue⟩
      · obtain ⟨meant, hmeant, hvalue⟩ :=
          hbelow (by simp only [List.length_append, List.length_cons]; omega) hread
        refine ⟨_, .named hname hc hmark ?_ hmeant, ?_⟩
        · rintro rfl rfl
          exact hbrace rfl
        · simpa [Value.add, Value.substitute, valueOf] using hvalue

/-- A text that begins with an escape.  At the end of a text outside quotes the backslash
stands for nothing. -/
theorem exists_means_of_escape (hempty : lookup "" = none) {rest : List Char}
    (hbelow : ReadsBelow lookup value (rest.length + 1))
    (hread : readValue lookup ⟨.escape, inDouble, [], back⟩ rest = some value) :
    ∃ meant, Means lookup inDouble ('\\' :: rest) meant ∧
      value = String.ofList (back.reverse ++ meant) := by
  cases rest with
  | nil =>
      cases inDouble
      · exact ⟨[], .backslash, by simpa [readValue, Value.substitute, hempty, eq_comm] using hread⟩
      · simp [readValue] at hread
  | cons d more =>
      rw [readValue] at hread
      dsimp only at hread
      split at hread
      next meant hmeans =>
        obtain ⟨others, hothers, hvalue⟩ :=
          hbelow (by simp only [List.length_cons]; omega) hread
        exact ⟨_, .escaped hmeans hothers, by simpa [Value.add] using hvalue⟩
      next => cases hread

/-- A text that begins with anything else. -/
theorem exists_means_of_ne_mark (hempty : lookup "" = none) {c : Char} {rest : List Char}
    (hmark : c ≠ '$') (hbelow : ReadsBelow lookup value (rest.length + 1))
    (hread : readValue lookup ⟨.plain, inDouble, [], back⟩ (c :: rest) = some value) :
    ∃ meant, Means lookup inDouble (c :: rest) meant ∧
      value = String.ofList (back.reverse ++ meant) := by
  have hstep : readValue lookup (Value.plainStep ⟨.plain, inDouble, [], back⟩ c) rest =
      some value := hread
  unfold Value.plainStep at hstep
  rw [if_neg hmark] at hstep
  dsimp only at hstep
  split_ifs at hstep with hescape hdouble hquote hsingle hquote hblank
  · subst hescape
    exact exists_means_of_escape hempty hbelow hstep
  · -- the quote that ends what stands between double quotes
    obtain rfl : inDouble = true := hdouble
    subst hquote
    obtain ⟨meant, hmeant, hvalue⟩ := hbelow (by simp) hstep
    exact ⟨meant, .closes hmeant, hvalue⟩
  · obtain rfl : inDouble = true := hdouble
    obtain ⟨meant, hmeant, hvalue⟩ := hbelow (by simp) hstep
    exact ⟨_, .literal ⟨by simp [hmark, hescape, hquote], by simp⟩ hmeant, by simpa using hvalue⟩
  · -- what stands between single quotes is read as one piece
    obtain rfl : inDouble = false := by simpa using hdouble
    subst hsingle
    obtain ⟨body, behind, rfl, hbody, hbehind⟩ := readValue_single.mp hstep
    obtain ⟨meant, hmeant, hvalue⟩ :=
      hbelow (by simp only [List.length_append, List.length_cons]; omega) hbehind
    exact ⟨_, .single hbody hmeant, by simpa using hvalue⟩
  · obtain rfl : inDouble = false := by simpa using hdouble
    subst hquote
    obtain ⟨meant, hmeant, hvalue⟩ := hbelow (by simp) hstep
    exact ⟨meant, .opens hmeant, hvalue⟩
  · -- a blank outside quotes ends the value
    obtain rfl : inDouble = false := by simpa using hdouble
    obtain ⟨rfl, blanks, remark, rfl, hblanks, hremark⟩ := (readValue_done hempty).mp hstep
    have hc : c ∈ [' ', '\t'] := by simpa using hblank
    exact ⟨[], .behind (List.forall_mem_cons.mpr ⟨hc, hblanks⟩) hremark, by simp⟩
  · obtain rfl : inDouble = false := by simpa using hdouble
    obtain ⟨meant, hmeant, hvalue⟩ := hbelow (by simp) hstep
    refine ⟨_, .literal ⟨by simp [hmark, hescape, hquote], fun _ => ?_⟩ hmeant, ?_⟩
    · simpa [hsingle] using hblank
    · simpa [Value.add] using hvalue

/-- A value that is read is what its text stands for. -/
theorem exists_means_of_readValue (hempty : lookup "" = none) (length : Nat) :
    ReadsBelow lookup value length := by
  -- a piece can take several characters, so the induction is on a bound of the length
  induction length with
  | zero => exact fun hshort => absurd hshort (Nat.not_lt_zero _)
  | succ length ih =>
      intro text inDouble back hshort hread
      cases text with
      | nil =>
          obtain ⟨rfl, rfl⟩ := (readValue_nil hempty).mp hread
          exact ⟨[], .ends, by simp⟩
      | cons c rest =>
          have hbelow : ReadsBelow lookup value (rest.length + 1) :=
            fun hshorter => ih (hshorter.trans_le (Nat.le_of_lt_succ hshort))
          by_cases hmark : c = '$'
          · subst hmark
            exact exists_means_of_mark hbelow hread
          · exact exists_means_of_ne_mark hempty hmark hbelow hread

/-- What a text stands for is read. -/
theorem Means.readValue_eq (hempty : lookup "" = none) {meant : List Char}
    (hmeans : Means lookup inDouble text meant) (back : List Char) :
    readValue lookup ⟨.plain, inDouble, [], back⟩ text =
      some (String.ofList (back.reverse ++ meant)) := by
  -- one case for each piece; `back` grows by what the piece stands for
  induction hmeans generalizing back with
  | ends => exact (readValue_nil hempty).mpr ⟨rfl, by simp⟩
  | backslash => simp [readValue, Value.plainStep, Value.substitute, hempty]
  | @literal inDouble c rest value hc _ ih =>
      obtain ⟨hplain, houtside⟩ := hc
      simp only [List.mem_cons, List.not_mem_nil, or_false, not_or] at hplain houtside
      obtain ⟨hmark, hescape, hquote⟩ := hplain
      have hstep : Value.plainStep ⟨.plain, inDouble, [], back⟩ c =
          ⟨.plain, inDouble, [], c :: back⟩ := by
        cases inDouble
        · obtain ⟨hsingle, hspace, htab⟩ := houtside rfl
          simp [Value.plainStep, Value.add, hmark, hescape, hquote, hsingle, hspace, htab]
        · simp [Value.plainStep, Value.add, hmark, hescape, hquote]
      rw [readValue]
      dsimp only
      rw [hstep, ih]
      simp
  | @escaped inDouble c meant rest value hc _ ih =>
      have hread := ih (meant :: back)
      simpa [readValue, Value.plainStep, Value.add, hc] using hread
  | @single body rest value hbody _ ih =>
      exact readValue_single.mpr ⟨body, rest, rfl, hbody, by simpa using ih (body.reverse ++ back)⟩
  | opens _ ih => simpa [readValue, Value.plainStep] using ih back
  | closes _ ih => simpa [readValue, Value.plainStep] using ih back
  | @braced inDouble name rest value hname _ ih =>
      have hread := ih ((valueOf lookup name).reverse ++ back)
      have hbrace := (@readValue_bracedName lookup inDouble back _ _ []).mpr
        ⟨name, rest, rfl, hname, hread⟩
      rw [readValue_brace, hbrace]
      simp
  | @namedAtEnd name hname =>
      have hread := @readValue_name lookup false back [] name [] hname
      rw [List.append_nil, List.append_nil] at hread
      rw [readValue_begin, hread]
      simp [readValue, Value.substitute, valueOf]
  | @namedTwice inDouble name rest value hname _ ih =>
      have hstep : readValue lookup ⟨.name, inDouble, name.reverse, back⟩ ('$' :: rest) =
          readValue lookup ⟨.name, inDouble, [], (valueOf lookup name).reverse ++ back⟩ rest := by
        simp [readValue, Value.substitute_mk, show Text.isAlphanumeric '$' = false from rfl]
      -- the second mark ends the name and begins another
      calc readValue lookup ⟨.plain, inDouble, [], back⟩ ('$' :: (name ++ '$' :: rest))
          = readValue lookup ⟨.name, inDouble, name.reverse, back⟩ ('$' :: rest) := by
            rw [readValue_begin, readValue_name hname, List.append_nil]
        _ = readValue lookup ⟨.plain, inDouble, [], (valueOf lookup name).reverse ++ back⟩
              ('$' :: rest) := by
            rw [hstep, readValue_begin]
        _ = _ := by
            rw [ih]
            simp
  | @named inDouble name rest value c hname hc hmark hbrace _ ih =>
      have hstep : readValue lookup ⟨.name, inDouble, name.reverse, back⟩ (c :: rest) =
          readValue lookup ⟨.plain, inDouble, [], c :: ((valueOf lookup name).reverse ++ back)⟩
            rest := by
        rw [readValue]
        dsimp only
        rw [if_neg (by simp [hc]), if_neg (by simpa using hbrace), if_neg hmark]
        simp [Value.add, Value.substitute_mk]
      rw [readValue_begin, readValue_name hname, List.append_nil, hstep, ih]
      simp
  | @behind c blanks remark hblanks hremark =>
      obtain ⟨hc, hothers⟩ := List.forall_mem_cons.mp hblanks
      have hstep : readValue lookup ⟨.plain, false, [], back⟩ (c :: (blanks ++ remark)) =
          readValue lookup ⟨.done, false, [], back⟩ (blanks ++ remark) := by
        rw [readValue]
        dsimp only
        congr 1
        simp only [List.mem_cons, List.not_mem_nil, or_false] at hc
        rcases hc with rfl | rfl <;> rfl
      rw [hstep, List.append_nil]
      exact (readValue_done hempty).mpr ⟨rfl, blanks, remark, rfl, hothers, hremark⟩

/-- **A value is read exactly as its text stands for it.** -/
theorem readValue_eq_some_iff (hempty : lookup "" = none) :
    readValue lookup ⟨.plain, false, [], []⟩ text = some value ↔
      Means lookup false text value.toList := by
  constructor
  · intro hread
    obtain ⟨meant, hmeant, rfl⟩ :=
      exists_means_of_readValue hempty _ (Nat.lt_succ_self text.length) hread
    simpa using hmeant
  · intro hmeans
    simpa using hmeans.readValue_eq hempty []

end Parts

/-! ## Lines -/

/-- A name that can be assigned to. -/
structure IsKey (key : List Char) : Prop where
  first : key.head?.any isKeyStart = true
  chars : ∀ c ∈ key, isKeyChar c = true

/-- A name, an equals sign and the text of a value, with blanks around the sign. -/
inductive Assignment : List Char → List Char → List Char → Prop
  | mk {key gap after text : List Char} (hkey : IsKey key) (hgap : ∀ c ∈ gap, Text.isBlank c = true)
      (hafter : ∀ c ∈ after, Text.isBlank c = true)
      (htext : ∀ c ∈ text.head?, Text.isBlank c = false) :
      Assignment (key ++ (gap ++ '=' :: (after ++ text))) key text

/-- An assignment that may have the word `export` in front. -/
inductive Heads : List Char → List Char → List Char → Prop
  | bare {line key text : List Char} (hline : Assignment line key text) : Heads line key text
  | exported {blanks line key text : List Char} (hblanks : ∀ c ∈ blanks, Text.isBlank c = true)
      (hsome : blanks ≠ []) (hline : Assignment line key text) :
      Heads ("export".toList ++ (blanks ++ line)) key text

/-- What a line says: nothing when it is blank or a remark, and otherwise what its assignment
sets a variable to. -/
inductive Says (lookup : String → Option String) (line : List Char) :
    Option (String × String) → Prop
  | nothing (hline : ∀ c ∈ (Text.trim line).head?, c = '#') : Says lookup line none
  | unvalued {key text : List Char} (hline : Heads (Text.trim line) key text)
      (htext : ∀ c ∈ text.head?, c = '#') : Says lookup line (some (String.ofList key, ""))
  | valued {key text : List Char} {value : String} (hline : Heads (Text.trim line) key text)
      (htext : ∃ c ∈ text.head?, c ≠ '#') (hvalue : Means lookup false text value.toList) :
      Says lookup line (some (String.ofList key, value))

section Lines

variable {line key rest text : List Char}

theorem isBlank_of_isKeyChar {c : Char} (hc : isKeyChar c = true) : Text.isBlank c = false :=
  Text.isBlank_eq_false_of_class isKeyChar (by decide) hc

theorem isKeyChar_of_isBlank {c : Char} (hc : Text.isBlank c = true) : isKeyChar c = false := by
  by_contra hkey
  rw [isBlank_of_isKeyChar (by simpa using hkey)] at hc
  cases hc

theorem IsKey.ne_nil (hkey : IsKey key) : key ≠ [] := by
  rintro rfl
  cases hkey.first

/-- A name goes on as long as it can, and the blanks behind it are skipped. -/
theorem IsKey.readKey_eq (hkey : IsKey key) {gap : List Char}
    (hgap : ∀ c ∈ gap, Text.isBlank c = true) (hrest : ∀ c ∈ rest.head?, Text.isBlank c = false)
    (hends : gap = [] → ∀ c ∈ rest.head?, isKeyChar c = false) :
    readKey (key ++ (gap ++ rest)) = some (key, rest) := by
  have hhead : (key ++ (gap ++ rest)).head?.any isKeyStart = true := by
    rw [List.head?_append_of_ne_nil _ hkey.ne_nil]
    exact hkey.first
  -- neither a blank nor what stands right behind the name goes on with it
  have hbehind : ∀ c ∈ (gap ++ rest).head?, isKeyChar c = false := by
    cases gap with
    | nil => exact hends rfl
    | cons d others =>
        intro c hc
        obtain rfl : d = c := by simpa using hc
        exact isKeyChar_of_isBlank (hgap d List.mem_cons_self)
  have htake : (gap ++ rest).takeWhile isKeyChar = [] := by
    rw [List.takeWhile_eq_nil_iff]
    intro hlength
    simpa using hbehind _ (List.head?_eq_getElem? ▸ List.getElem?_eq_getElem hlength)
  have hdrop : (gap ++ rest).dropWhile isKeyChar = gap ++ rest := by
    have hall := List.takeWhile_append_dropWhile (p := isKeyChar) (l := gap ++ rest)
    rwa [htake, List.nil_append] at hall
  have hname : (key ++ (gap ++ rest)).takeWhile isKeyChar = key := by
    rw [List.takeWhile_append_of_pos hkey.chars, htake, List.append_nil]
  have hleft : Text.trimStart ((key ++ (gap ++ rest)).dropWhile isKeyChar) = rest :=
    calc Text.trimStart ((key ++ (gap ++ rest)).dropWhile isKeyChar)
        = Text.trimStart (gap ++ rest) := by
          rw [List.dropWhile_append_of_pos hkey.chars, hdrop]
      _ = Text.trimStart rest := List.dropWhile_append_of_pos hgap
      _ = rest := Text.trimStart_eq_self hrest
  rw [readKey, if_pos hhead, hname, hleft]

/-- A name that was read is one, and what is behind it begins with no blank. -/
theorem exists_of_readKey (hread : readKey line = some (key, rest)) :
    IsKey key ∧ (∀ c ∈ rest.head?, Text.isBlank c = false) ∧
      ∃ gap, (∀ c ∈ gap, Text.isBlank c = true) ∧
        (gap = [] → ∀ c ∈ rest.head?, isKeyChar c = false) ∧ line = key ++ (gap ++ rest) := by
  unfold readKey at hread
  split_ifs at hread with hfirst
  obtain ⟨rfl, rfl⟩ := Prod.mk.inj (Option.some.inj hread)
  refine ⟨⟨?_, fun c hc => List.mem_takeWhile_imp hc⟩, fun c hc => Text.head?_trimStart hc,
    (line.dropWhile isKeyChar).takeWhile Text.isBlank, fun c hc => List.mem_takeWhile_imp hc,
    ?_, ?_⟩
  · cases line with
    | nil => cases hfirst
    | cons c others =>
        -- a character that can begin a name can also go on in one
        have hstart : isKeyStart c = true := hfirst
        have hchar : isKeyChar c = true := by
          simp only [isKeyStart, isKeyChar, Char.isAlphanum, Bool.or_eq_true] at hstart ⊢
          exact .inl (hstart.imp_left .inl)
        rw [List.takeWhile_cons_of_pos hchar]
        exact hstart
  · intro hgap c hc
    have hsplit := List.takeWhile_append_dropWhile (p := Text.isBlank) (l := line.dropWhile isKeyChar)
    rw [hgap, List.nil_append] at hsplit
    have hhead := List.head?_dropWhile_not isKeyChar line
    rw [Text.trimStart, hsplit] at hc
    rw [Option.mem_def.mp hc] at hhead
    simpa using hhead
  · rw [Text.trimStart, List.takeWhile_append_dropWhile, List.takeWhile_append_dropWhile]

theorem behindEquals_eq_some_iff : behindEquals line = some rest ↔ line = '=' :: rest := by
  constructor
  · intro hbehind
    unfold behindEquals at hbehind
    split at hbehind
    · rw [Option.some.inj hbehind]
    · cases hbehind
  · rintro rfl
    rfl

/-- An assignment is a name with an equals sign behind it. -/
theorem assignment_iff : Assignment line key text ↔
    ∃ behind, readKey line = some (key, '=' :: behind) ∧ Text.trimStart behind = text := by
  constructor
  · rintro ⟨hkey, hgap, hafter, htext⟩
    refine ⟨_, hkey.readKey_eq hgap (by simp; decide) (fun _ => by simp; decide), ?_⟩
    rw [Text.trimStart, List.dropWhile_append_of_pos hafter]
    exact Text.trimStart_eq_self htext
  · rintro ⟨behind, hread, rfl⟩
    obtain ⟨hkey, -, gap, hgap, -, rfl⟩ := exists_of_readKey hread
    have hsplit : behind.takeWhile Text.isBlank ++ Text.trimStart behind = behind :=
      List.takeWhile_append_dropWhile
    have hassignment : Assignment
        (key ++ (gap ++ '=' :: (behind.takeWhile Text.isBlank ++ Text.trimStart behind))) key
        (Text.trimStart behind) :=
      .mk hkey hgap (fun c hc => List.mem_takeWhile_imp hc) fun c hc => Text.head?_trimStart hc
    rwa [hsplit] at hassignment

/-- **The name that a line assigns to, and the text of the value.** -/
theorem readHead_eq_some_iff : readHead line = some (key, text) ↔ Heads line key text := by
  constructor
  · intro hread
    obtain ⟨⟨first, behind⟩, hfirst, hread⟩ := Option.bind_eq_some_iff.mp hread
    dsimp only at hread
    split at hread
    next value hequals =>
      obtain ⟨rfl, rfl⟩ := Prod.mk.inj (Option.some.inj hread)
      obtain rfl := behindEquals_eq_some_iff.mp hequals
      exact .bare (assignment_iff.mpr ⟨value, hfirst, rfl⟩)
    next hequals =>
      split_ifs at hread with hexport
      subst hexport
      obtain ⟨⟨second, further⟩, hsecond, hread⟩ := Option.bind_eq_some_iff.mp hread
      obtain ⟨value, hvalue, hread⟩ := Option.bind_eq_some_iff.mp hread
      obtain ⟨rfl, rfl⟩ := Prod.mk.inj (Option.some.inj hread)
      obtain rfl := behindEquals_eq_some_iff.mp hvalue
      obtain ⟨-, -, blanks, hblanks, hends, rfl⟩ := exists_of_readKey hfirst
      refine .exported hblanks ?_ (assignment_iff.mpr ⟨value, hsecond, rfl⟩)
      -- without a blank the second name would belong to the first
      intro hnone
      obtain ⟨hkey, -, gap, -, -, rfl⟩ := exists_of_readKey hsecond
      obtain ⟨c, others, rfl⟩ := List.exists_cons_of_ne_nil hkey.ne_nil
      have hchar := hkey.chars c List.mem_cons_self
      rw [hends hnone c rfl] at hchar
      cases hchar
  · rintro (hline | ⟨hblanks, hsome, hline⟩)
    · obtain ⟨behind, hread, rfl⟩ := assignment_iff.mp hline
      rw [readHead, hread]
      rfl
    · obtain ⟨behind, hread, rfl⟩ := assignment_iff.mp hline
      obtain ⟨hkey, -, gap, hgap, -, rfl⟩ := exists_of_readKey hread
      obtain ⟨c, others, rfl⟩ := List.exists_cons_of_ne_nil hkey.ne_nil
      have hexport : IsKey "export".toList := ⟨by decide, List.all_eq_true.mp (by decide)⟩
      have hchar := hkey.chars c List.mem_cons_self
      have hbegins : ∀ c' ∈ (c :: others ++ (gap ++ '=' :: behind)).head?,
          Text.isBlank c' = false := by
        simpa using isBlank_of_isKeyChar hchar
      have hfirst := hexport.readKey_eq hblanks hbegins fun hnone => absurd hnone hsome
      have hequals : behindEquals (c :: others ++ (gap ++ '=' :: behind)) = none := by
        have hne : c ≠ '=' := by
          rintro rfl
          exact absurd hchar (by decide)
        rw [List.cons_append]
        unfold behindEquals
        split
        · next heq => exact absurd (List.cons.inj heq).1 hne
        · rfl
      rw [readHead, hfirst, Option.bind_eq_bind, Option.bind_some]
      dsimp only
      rw [hequals]
      dsimp only
      rw [if_pos rfl, hread]
      rfl

/-- A text is empty or begins a remark. -/
theorem isRemark_iff : (text.isEmpty || text.head? == some '#') = true ↔
    ∀ c ∈ text.head?, c = '#' := by
  cases text <;> simp

/-- An assignment begins with a character that begins no remark. -/
theorem Heads.not_remark (hline : Heads line key text) : ¬ ∀ c ∈ line.head?, c = '#' := by
  intro hremark
  have hfirst : ∀ {key rest : List Char}, IsKey key →
      (∀ c ∈ (key ++ rest).head?, c = '#') → False := by
    intro key rest hkey hremark
    obtain ⟨c, others, rfl⟩ := List.exists_cons_of_ne_nil hkey.ne_nil
    obtain rfl := hremark c rfl
    exact absurd (hkey.chars _ List.mem_cons_self) (by decide)
  rcases hline with ⟨hkey, -, -, -⟩ | ⟨-, -, -⟩
  · exact hfirst hkey hremark
  · exact absurd (hremark 'e' rfl) (by decide)

/-- **A line is read exactly as what it says.** -/
theorem readAssignment_eq_some_iff {lookup : String → Option String} (hempty : lookup "" = none)
    {said : Option (String × String)} :
    readAssignment lookup line = some said ↔ Says lookup line said := by
  rw [readAssignment]
  dsimp only
  split_ifs with hnothing
  · -- an assignment does not begin like a remark, so the line says nothing
    rw [isRemark_iff] at hnothing
    constructor
    · intro hsaid
      obtain rfl := Option.some.inj hsaid
      exact .nothing hnothing
    · rintro (_ | ⟨hline, -⟩ | ⟨hline, -, -⟩)
      · rfl
      · exact absurd hnothing hline.not_remark
      · exact absurd hnothing hline.not_remark
  · rw [isRemark_iff] at hnothing
    constructor
    · intro hread
      obtain ⟨⟨key, text⟩, hline, hread⟩ := Option.bind_eq_some_iff.mp hread
      rw [readHead_eq_some_iff] at hline
      dsimp only at hread
      split_ifs at hread with hremark
      · -- nothing but a remark behind the equals sign: the name stays unset
        obtain rfl := Option.some.inj hread
        exact .unvalued hline (isRemark_iff.mp hremark)
      · obtain ⟨value, hvalue, hsaid⟩ := Option.bind_eq_some_iff.mp hread
        obtain rfl := Option.some.inj hsaid
        rw [isRemark_iff] at hremark
        push Not at hremark
        exact .valued hline hremark ((readValue_eq_some_iff hempty).mp hvalue)
    · rintro (hline | ⟨hline, hremark⟩ | ⟨hline, hremark, hvalue⟩)
      · exact absurd hline hnothing
      · rw [← readHead_eq_some_iff] at hline
        rw [hline, Option.bind_eq_bind, Option.bind_some, if_pos (isRemark_iff.mpr hremark)]
        rfl
      · rw [← readHead_eq_some_iff] at hline
        have hvalued : ¬ (_ = true) := mt isRemark_iff.mp (by push Not; exact hremark)
        rw [hline, Option.bind_eq_bind, Option.bind_some, if_neg hvalued,
          (readValue_eq_some_iff hempty).mpr hvalue]
        rfl

end Lines

/-! ## Files -/

/-- What lines set, one after the other, on top of what is set so far.  Where a variable has a
value already, in the process or from an earlier line, an assignment to it changes nothing. -/
inductive Sets (process : String → Option String) :
    Environment → List (Option (List Char)) → Environment → Prop
  | ends {assigned : Environment} : Sets process assigned [] assigned
  | nothing {assigned all : Environment} {line : List Char} {rest : List (Option (List Char))}
      (hline : Says (merged process assigned) line none) (hrest : Sets process assigned rest all) :
      Sets process assigned (some line :: rest) all
  | known {assigned all : Environment} {line : List Char} {rest : List (Option (List Char))}
      {key value text : String}
      (hline : Says (merged process assigned) line (some (key, value)))
      (hknown : merged process assigned key = some text) (hrest : Sets process assigned rest all) :
      Sets process assigned (some line :: rest) all
  | new {assigned all : Environment} {line : List Char} {rest : List (Option (List Char))}
      {key value : String} (hline : Says (merged process assigned) line (some (key, value)))
      (hnew : merged process assigned key = none) (hvalue : '\x00' ∉ value.toList)
      (hrest : Sets process (assigned ++ [(key, value)]) rest all) :
      Sets process assigned (some line :: rest) all

section Files

variable {process : String → Option String} {assigned all : Environment}

theorem merged_empty (hempty : process "" = none) (assigned : Environment) :
    merged process assigned "" = none := by
  rw [merged, hempty]
  rfl

/-- **Lines set what carrying them out sets.** -/
theorem assign_eq_ok_iff (hempty : process "" = none) {lines : List (Option (List Char))} :
    assign process assigned lines = .ok all ↔ Sets process assigned lines all := by
  induction lines generalizing assigned with
  | nil =>
      constructor
      · intro hall
        obtain rfl := Except.ok.inj hall
        exact .ends
      · rintro (_ | _ | _ | _)
        rfl
  | cons line? rest ih =>
      cases line? with
      | none => exact iff_of_false (by simp [assign]) (by rintro (_ | _ | _ | _))
      | some line =>
          -- a line is read with the variables that are set when its turn comes
          have hmeaning := fun said => @readAssignment_eq_some_iff line _
            (merged_empty hempty assigned) said
          constructor
          · intro hall
            rw [assign] at hall
            split at hall
            next => cases hall
            next hread => exact .nothing ((hmeaning _).mp hread) (ih.mp hall)
            next key value hread =>
              split_ifs at hall with hknown hvalue
              -- a variable that is set already keeps its value
              · obtain ⟨text, htext⟩ := Option.isSome_iff_exists.mp hknown
                exact .known ((hmeaning _).mp hread) htext (ih.mp hall)
              · exact .new ((hmeaning _).mp hread) (by simpa using hknown)
                  (by simpa [Environment.canHold] using hvalue) (ih.mp hall)
          · rintro (_ | ⟨hline, hrest⟩ | ⟨hline, hknown, hrest⟩ | ⟨hline, hnew, hvalue, hrest⟩)
            · rw [assign, (hmeaning _).mpr hline]
              exact ih.mpr hrest
            · rw [assign, (hmeaning _).mpr hline]
              dsimp only
              rw [if_pos (by rw [hknown]; rfl)]
              exact ih.mpr hrest
            · rw [assign, (hmeaning _).mpr hline]
              dsimp only
              rw [if_neg (by rw [hnew]; exact Bool.false_ne_true),
                if_pos (by simpa [Environment.canHold] using hvalue)]
              exact ih.mpr hrest

/-- What an environment file sets: names without an equals sign, none of which the process
has. -/
structure IsNew (process : String → Option String) (entry : String × String) : Prop where
  noEquals : '=' ∉ entry.1.toList
  unset : process entry.1 = none

theorem Heads.isKey {line key text : List Char} (hline : Heads line key text) : IsKey key := by
  rcases hline with ⟨hkey, -, -, -⟩ | ⟨-, -, hkey, -, -, -⟩ <;> exact hkey

/-- The name that a line sets holds no equals sign. -/
theorem Says.noEquals {lookup : String → Option String} {line : List Char} {key value : String}
    (hline : Says lookup line (some (key, value))) : '=' ∉ key.toList := by
  have hkey : ∀ {name : List Char}, IsKey name → '=' ∉ (String.ofList name).toList := by
    intro name hname hequals
    rw [String.toList_ofList] at hequals
    exact absurd (hname.chars _ hequals) (by decide)
  rcases hline with _ | ⟨hline, -⟩ | ⟨hline, -, -⟩ <;> exact hkey hline.isKey

/-- A name is set only where neither the process nor an earlier line has it. -/
theorem Sets.isNew {lines : List (Option (List Char))} (hsets : Sets process assigned lines all)
    (hassigned : ∀ entry ∈ assigned, IsNew process entry) : ∀ entry ∈ all, IsNew process entry := by
  induction hsets with
  | ends => exact hassigned
  | nothing _ _ ih => exact ih hassigned
  | known _ _ _ ih => exact ih hassigned
  | new hline hnew _ _ ih =>
      refine ih (List.forall_mem_append.mpr ⟨hassigned, List.forall_mem_singleton.mpr ?_⟩)
      exact ⟨hline.noEquals, (Option.or_eq_none_iff.mp hnew).1⟩

end Files

end PersistLayer.Command.EnvFile
