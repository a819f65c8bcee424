import Mathlib.Data.List.Infix
import PersistLayer.Sql.Script

/-!
# The parts of a script

A script is a row of quoted literals, comments, semicolons and other characters.  Where a
part begins is a matter of one or two characters, and it goes on as far as it can:

* a literal up to the next quote of its kind, so a doubled quote ends one literal and begins
  the next;
* a comment behind `--` up to the end of the line, and the line feed is not its own;
* a comment behind `/*` up to the next `*/`, which may not share its asterisk with the
  beginning.

A literal or a comment that nothing ends goes on to the end of the script.  `Part.Fits` says
this of one part and of the character behind it, and `Reads` of a whole script.  Every script
has one row of parts and no other (`existsUnique_reads`).

The splitter, which knows of the parts only what it is in the middle of, makes of each part
its pieces: a literal is kept, and a comment leaves a blank or nothing (`pieces_written`).
-/

namespace PersistLayer.Sql

/-! ## Parts -/

/-- A mark that begins and ends a literal. -/
def isQuote (c : Char) : Bool := c == '\'' || c == '"'

/-- A part of a script.  A literal or a comment is `closed` when something ends it. -/
inductive Part where
  | code (c : Char)
  | separator
  | literal (quote : Char) (body : List Char) (closed : Bool)
  | lineComment (body : List Char)
  | blockComment (body : List Char) (closed : Bool)
  deriving Repr, DecidableEq

/-- A part as it stands in the script. -/
def Part.written : Part → List Char
  | code c => [c]
  | separator => [';']
  | literal quote body closed => quote :: (body ++ if closed then [quote] else [])
  | lineComment body => '-' :: '-' :: body
  | blockComment body closed => '/' :: '*' :: (body ++ if closed then ['*', '/'] else [])

/-- What a part has to be, in front of a character or at the end of the script. -/
def Part.Fits (next : Option Char) : Part → Prop
  | code c => isQuote c = false ∧ c ≠ ';' ∧ (c = '-' → next ≠ some '-') ∧
      (c = '/' → next ≠ some '*')
  | separator => True
  | literal quote body closed => isQuote quote = true ∧ quote ∉ body ∧ (closed = false → next = none)
  | lineComment body => '\n' ∉ body ∧ ∀ c ∈ next, c = '\n'
  | blockComment body closed => ¬ ['*', '/'] <:+: body ∧ (closed = false → next = none)

instance (next : Option Char) : (part : Part) → Decidable (part.Fits next)
  | .code _ => inferInstanceAs (Decidable (_ ∧ _))
  | .separator => inferInstanceAs (Decidable True)
  | .literal _ _ _ => inferInstanceAs (Decidable (_ ∧ _))
  | .lineComment _ =>
    -- not by trying all characters
    have : Decidable (∀ c ∈ next, c = '\n') := Option.decidableForallMem next
    inferInstanceAs (Decidable (_ ∧ _))
  | .blockComment _ _ => inferInstanceAs (Decidable (_ ∧ _))

/-- Several parts as they stand in the script. -/
def written (parts : List Part) : List Char := parts.flatMap Part.written

/-- Each part fits what stands behind it, and `next` stands behind all of them. -/
def AllFit (next : Option Char) : List Part → Prop
  | [] => True
  | part :: rest => part.Fits ((written rest).head?.or next) ∧ AllFit next rest

instance (next : Option Char) : (parts : List Part) → Decidable (AllFit next parts)
  | [] => .isTrue trivial
  | _ :: rest =>
    have := instDecidableAllFit next rest
    inferInstanceAs (Decidable (_ ∧ _))

/-- The script has these parts. -/
def Reads (script : List Char) (parts : List Part) : Prop :=
  AllFit none parts ∧ written parts = script

instance (script : List Char) (parts : List Part) : Decidable (Reads script parts) :=
  inferInstanceAs (Decidable (_ ∧ _))

/-! ## Rows of parts -/

@[simp] theorem written_nil : written [] = [] := rfl

@[simp] theorem written_cons (part : Part) (rest : List Part) :
    written (part :: rest) = part.written ++ written rest := List.flatMap_cons

theorem written_append (front back : List Part) :
    written (front ++ back) = written front ++ written back := List.flatMap_append

/-- Parts in front of others fit when they fit the first character of the others. -/
theorem allFit_append {next : Option Char} {front back : List Part} :
    AllFit next (front ++ back) ↔
      AllFit ((written back).head?.or next) front ∧ AllFit next back := by
  induction front with
  | nil => simp [AllFit]
  | cons part rest ih =>
      -- what follows the first part is what follows it in the front, or the back
      rw [List.cons_append, AllFit, AllFit, ih, written_append, List.head?_append, Option.or_assoc,
        and_assoc]

theorem allFit_singleton {next : Option Char} {part : Part} :
    AllFit next [part] ↔ part.Fits next := by
  simp [AllFit]

/-! ## Every script has one row of parts -/

/-- A body that a character ends is the text up to that character. -/
theorem exists_body (stop : Char) (text : List Char) :
    ∃ body tail, text = body ++ tail ∧ stop ∉ body ∧ ∀ c ∈ tail.head?, c = stop := by
  induction text with
  | nil => exact ⟨[], [], by simp⟩
  | cons c rest ih =>
      by_cases hc : c = stop
      · exact ⟨[], c :: rest, by simp [hc]⟩
      · obtain ⟨body, tail, rfl, hbody, htail⟩ := ih
        refine ⟨c :: body, tail, rfl, ?_, htail⟩
        simp [hbody, Ne.symm hc]

/-- The text of a block comment goes up to the first pair that ends it. -/
theorem exists_blockBody (text : List Char) :
    ¬ ['*', '/'] <:+: text ∨
      ∃ body tail, text = body ++ '*' :: '/' :: tail ∧ ¬ ['*', '/'] <:+: body := by
  induction text with
  | nil => exact .inl (by simp)
  | cons c rest ih =>
      by_cases hpair : ['*', '/'] <+: c :: rest
      · obtain ⟨tail, htail⟩ := hpair
        exact .inr ⟨[], tail, by simp [← htail], by simp⟩
      · rcases ih with hnone | ⟨body, tail, rfl, hbody⟩
        · left
          rw [List.infix_cons_iff]
          exact not_or.mpr ⟨hpair, hnone⟩
        · refine .inr ⟨c :: body, tail, rfl, ?_⟩
          rw [List.infix_cons_iff]
          refine not_or.mpr ⟨fun hprefix => hpair ?_, hbody⟩
          exact hprefix.trans (List.prefix_append (c :: body) ('*' :: '/' :: tail))

/-- Two ways to end a text in front of a character are the same. -/
theorem body_unique {stop : Char} {body tail other rest : List Char} (hbody : stop ∉ body)
    (htail : ∀ c ∈ tail.head?, c = stop) (hother : stop ∉ other)
    (hrest : ∀ c ∈ rest.head?, c = stop) (h : body ++ tail = other ++ rest) :
    body = other ∧ tail = rest := by
  induction body generalizing other with
  | nil =>
      cases other with
      | nil => exact ⟨rfl, h⟩
      | cons d others =>
          have hd : d = stop := htail d (by rw [List.nil_append] at h; simp [h])
          simp [hd] at hother
  | cons c body ih =>
      cases other with
      | nil =>
          have hc : c = stop := hrest c (by rw [List.nil_append] at h; simp [← h])
          simp [hc] at hbody
      | cons d others =>
          simp only [List.cons_append, List.cons.injEq] at h
          obtain ⟨rfl, h⟩ := h
          rw [List.mem_cons, not_or] at hbody hother
          obtain ⟨rfl, rfl⟩ := ih hbody.2 hother.2 h
          exact ⟨rfl, rfl⟩

/-- What can stand behind the text of a block comment. -/
def EndsBlock (tail : List Char) : Prop := tail = [] ∨ ['*', '/'] <+: tail

/-- No end of a block comment overlaps the text in front of it. -/
theorem eq_nil_of_endsBlock {more tail : List Char} (hmore : EndsBlock (more ++ tail))
    (hpair : ¬ ['*', '/'] <:+: more) (htail : EndsBlock tail) : more = [] := by
  match more with
  | [] => rfl
  | [c] =>
      -- the pair would begin with `c` and go on with the asterisk of the other end
      rcases hmore with hnil | ⟨back, hback⟩
      · simp at hnil
      · rcases htail with rfl | ⟨others, rfl⟩ <;> simp at hback
  | c :: d :: rest =>
      rcases hmore with hnil | ⟨back, hback⟩
      · simp at hnil
      · simp only [List.cons_append, List.nil_append, List.cons.injEq] at hback
        obtain ⟨rfl, rfl, -⟩ := hback
        exact absurd ⟨[], rest, rfl⟩ hpair

theorem blockBody_unique {body tail other rest : List Char} (hbody : ¬ ['*', '/'] <:+: body)
    (htail : EndsBlock tail) (hother : ¬ ['*', '/'] <:+: other) (hrest : EndsBlock rest)
    (h : body ++ tail = other ++ rest) : body = other ∧ tail = rest := by
  rcases List.append_eq_append_iff.mp h with ⟨more, rfl, rfl⟩ | ⟨more, rfl, rfl⟩
  · have hmore : ¬ ['*', '/'] <:+: more := fun hpair =>
      hother (hpair.trans (List.suffix_append _ _).isInfix)
    simp [eq_nil_of_endsBlock htail hmore hrest]
  · have hmore : ¬ ['*', '/'] <:+: more := fun hpair =>
      hbody (hpair.trans (List.suffix_append _ _).isInfix)
    simp [eq_nil_of_endsBlock hrest hmore htail]

/-- The kinds of parts. -/
inductive PartKind where
  | code
  | separator
  | literal
  | lineComment
  | blockComment

/-- The kind of a part, whatever stands in it. -/
def Part.kind : Part → PartKind
  | code _ => .code
  | separator => .separator
  | literal .. => .literal
  | lineComment _ => .lineComment
  | blockComment .. => .blockComment

/-- The kind of part that begins with a character, in front of `next`. -/
def kindAt (c : Char) (next : Option Char) : PartKind :=
  if isQuote c then .literal
  else if c = ';' then .separator
  else if c = '-' ∧ next = some '-' then .lineComment
  else if c = '/' ∧ next = some '*' then .blockComment
  else .code

/-- Two characters tell what part begins with them. -/
theorem Part.kind_eq {part : Part} {c : Char} {rest behind : List Char}
    (hfits : part.Fits behind.head?) (htext : part.written ++ behind = c :: rest) :
    part.kind = kindAt c rest.head? := by
  cases part with
  | code d =>
      obtain ⟨hquote, hsemicolon, hdash, hslash⟩ := hfits
      obtain ⟨rfl, rfl⟩ := List.cons.inj htext
      rw [kindAt, if_neg (by simp [hquote]), if_neg hsemicolon, if_neg fun h => hdash h.1 h.2,
        if_neg fun h => hslash h.1 h.2, kind]
  | separator =>
      obtain ⟨rfl, rfl⟩ := List.cons.inj htext
      rfl
  | literal quote body closed =>
      obtain ⟨rfl, -⟩ := List.cons.inj htext
      rw [kindAt, if_pos hfits.1, kind]
  | lineComment body =>
      obtain ⟨rfl, rfl⟩ := List.cons.inj htext
      rfl
  | blockComment body closed =>
      obtain ⟨rfl, rfl⟩ := List.cons.inj htext
      rfl

/-- Some part begins with the first character of a text. -/
theorem exists_part (c : Char) (rest : List Char) :
    ∃ (part : Part) (behind : List Char), part.Fits behind.head? ∧
      part.written ++ behind = c :: rest := by
  by_cases hquote : isQuote c = true
  · obtain ⟨body, tail, rfl, hbody, htail⟩ := exists_body c rest
    cases tail with
    | nil => exact ⟨.literal c body false, [], ⟨hquote, hbody, fun _ => rfl⟩, by simp [Part.written]⟩
    | cons d behind =>
        obtain rfl : d = c := htail d rfl
        exact ⟨.literal d body true, behind, ⟨hquote, hbody, by simp⟩, by simp [Part.written]⟩
  by_cases hsemicolon : c = ';'
  · exact ⟨.separator, rest, trivial, by simp [Part.written, hsemicolon]⟩
  by_cases hdash : c = '-' ∧ rest.head? = some '-'
  · obtain ⟨rfl, hnext⟩ := hdash
    obtain ⟨behind, rfl⟩ := List.head?_eq_some_iff.mp hnext
    obtain ⟨body, tail, rfl, hbody, htail⟩ := exists_body '\n' behind
    exact ⟨.lineComment body, tail, ⟨hbody, htail⟩, by simp [Part.written]⟩
  by_cases hslash : c = '/' ∧ rest.head? = some '*'
  · obtain ⟨rfl, hnext⟩ := hslash
    obtain ⟨behind, rfl⟩ := List.head?_eq_some_iff.mp hnext
    rcases exists_blockBody behind with hnone | ⟨body, tail, rfl, hbody⟩
    · exact ⟨.blockComment behind false, [], ⟨hnone, fun _ => rfl⟩, by simp [Part.written]⟩
    · exact ⟨.blockComment body true, tail, ⟨hbody, by simp⟩, by simp [Part.written]⟩
  · refine ⟨.code c, rest, ⟨by simpa using hquote, hsemicolon, ?_, ?_⟩, rfl⟩
    · exact fun hc hnext => hdash ⟨hc, hnext⟩
    · exact fun hc hnext => hslash ⟨hc, hnext⟩

/-- Whether something ends a part can be told from what stands behind its body. -/
theorem closed_unique {ending behind rest : List Char} {closed other : Bool} (hending : ending ≠ [])
    (hclosed : closed = false → behind.head? = none) (hother : other = false → rest.head? = none)
    (h : (if closed then ending else []) ++ behind = (if other then ending else []) ++ rest) :
    closed = other ∧ behind = rest := by
  cases closed <;> cases other <;> simp_all [eq_comm]

/-- No other part begins there. -/
theorem Part.eq_of_written_append {part other : Part} {behind rest : List Char}
    (hpart : part.Fits behind.head?) (hother : other.Fits rest.head?)
    (h : part.written ++ behind = other.written ++ rest) : part = other ∧ behind = rest := by
  have hkind : part.kind = other.kind := by
    obtain ⟨c, text, htext⟩ : ∃ c text, other.written ++ rest = c :: text := by
      cases other <;> exact ⟨_, _, rfl⟩
    rw [kind_eq hpart (h.trans htext), kind_eq hother htext]
  -- only pairs of one kind are left
  cases part <;> cases other <;> cases hkind
  case code.code c d =>
    simpa [written] using h
  case separator.separator =>
    simpa [written] using h
  case literal.literal quote body closed quote' body' closed' =>
    obtain ⟨-, hbody, hopen⟩ := hpart
    obtain ⟨-, hbody', hopen'⟩ := hother
    simp only [written, List.cons_append, List.append_assoc, List.cons.injEq] at h
    obtain ⟨rfl, h⟩ := h
    have hquote {closed : Bool} {tail : List Char} (hopen : closed = false → tail.head? = none) :
        ∀ c ∈ ((if closed then [quote] else []) ++ tail).head?, c = quote := by
      cases closed <;> simp_all
    obtain ⟨rfl, htail⟩ := body_unique hbody (hquote hopen) hbody' (hquote hopen') h
    obtain ⟨rfl, rfl⟩ := closed_unique (List.cons_ne_nil _ _) hopen hopen' htail
    exact ⟨rfl, rfl⟩
  case lineComment.lineComment body body' =>
    simp only [written, List.cons_append, List.cons.injEq, true_and] at h
    obtain ⟨rfl, rfl⟩ := body_unique hpart.1 hpart.2 hother.1 hother.2 h
    exact ⟨rfl, rfl⟩
  case blockComment.blockComment body closed body' closed' =>
    obtain ⟨hbody, hopen⟩ := hpart
    obtain ⟨hbody', hopen'⟩ := hother
    simp only [written, List.cons_append, List.append_assoc, List.cons.injEq, true_and] at h
    have hends {closed : Bool} {tail : List Char} (hopen : closed = false → tail.head? = none) :
        EndsBlock ((if closed then ['*', '/'] else []) ++ tail) := by
      cases closed <;> simp_all [EndsBlock]
    obtain ⟨rfl, htail⟩ := blockBody_unique hbody (hends hopen) hbody' (hends hopen') h
    obtain ⟨rfl, rfl⟩ := closed_unique (List.cons_ne_nil _ _) hopen hopen' htail
    exact ⟨rfl, rfl⟩

theorem Part.written_ne_nil (part : Part) : part.written ≠ [] := by
  cases part <;> exact List.cons_ne_nil _ _

theorem exists_reads (script : List Char) : ∃ parts, Reads script parts := by
  induction hlength : script.length using Nat.strong_induction_on generalizing script with
  | _ length ih =>
    cases script with
    | nil => exact ⟨[], trivial, rfl⟩
    | cons c rest =>
        obtain ⟨part, behind, hfits, htext⟩ := exists_part c rest
        have hshorter : behind.length < length := by
          have hpos := List.length_pos_iff.mpr part.written_ne_nil
          rw [← hlength, ← htext, List.length_append]
          omega
        obtain ⟨parts, hall, rfl⟩ := ih behind.length hshorter behind rfl
        refine ⟨part :: parts, ⟨by rwa [Option.or_none], hall⟩, by rw [written_cons, htext]⟩

theorem Reads.unique {script : List Char} {parts others : List Part} (hparts : Reads script parts)
    (hothers : Reads script others) : parts = others := by
  induction parts generalizing script others with
  | nil =>
      cases others with
      | nil => rfl
      | cons other rest =>
          have hnil : written (other :: rest) = [] := hothers.2.trans hparts.2.symm
          rw [written_cons, List.append_eq_nil_iff] at hnil
          exact absurd hnil.1 other.written_ne_nil
  | cons part parts ih =>
      cases others with
      | nil =>
          have hnil : written (part :: parts) = [] := hparts.2.trans hothers.2.symm
          rw [written_cons, List.append_eq_nil_iff] at hnil
          exact absurd hnil.1 part.written_ne_nil
      | cons other others =>
          obtain ⟨⟨hpart, hall⟩, htext⟩ := hparts
          obtain ⟨⟨hother, hrest⟩, htext'⟩ := hothers
          rw [Option.or_none] at hpart hother
          obtain ⟨rfl, hwritten⟩ :=
            Part.eq_of_written_append hpart hother (htext.trans htext'.symm)
          rw [ih ⟨hall, rfl⟩ ⟨hrest, hwritten.symm⟩]

/-- **Every script has one row of parts.** -/
theorem existsUnique_reads (script : List Char) : ∃! parts, Reads script parts := by
  obtain ⟨parts, hparts⟩ := exists_reads script
  exact ⟨parts, hparts, fun others hothers => hothers.unique hparts⟩

/-! ## What the splitter makes of a part -/

/-- The pieces that a part leaves: all its characters, a cut, or a blank or nothing in the
place of a comment. -/
def Part.pieces : Part → List Piece
  | code c => [.char c]
  | separator => [.cut]
  | literal quote body closed => (literal quote body closed).written.map .char
  | lineComment _ => []
  | blockComment _ _ => [.char ' ']

/-- Nothing is open behind the part. -/
def Part.isClosed : Part → Bool
  | literal _ _ closed => closed
  | lineComment _ => false
  | blockComment _ closed => closed
  | _ => true

/-- What the splitter is in the middle of behind a text. -/
def Mode.behind (mode : Mode) (text : List Char) : Mode :=
  text.foldl (fun mode c => (mode.step c).1) mode

/-- The splitter is in no literal and in no comment. -/
def Mode.isOutside : Mode → Bool
  | plain => true
  | dash => true
  | slash => true
  | _ => false

/-! ### Runs of the splitter -/

namespace Mode

/-- Over a text the splitter goes from one mode to another, and yields some pieces on the
way. -/
def Runs (mode : Mode) (text : List Char) (last : Mode) (pieces : List Piece) : Prop :=
  mode.behind text = last ∧ ∀ rest, mode.pieces (text ++ rest) = pieces ++ last.pieces rest

variable {mode next last : Mode} {text rest body : List Char} {pieces more : List Piece}

theorem behind_append (mode : Mode) (front back : List Char) :
    mode.behind (front ++ back) = (mode.behind front).behind back := List.foldl_append

theorem Runs.nil (mode : Mode) : mode.Runs [] mode [] := ⟨rfl, fun _ => rfl⟩

theorem Runs.cons {c : Char} (hstep : mode.step c = (next, pieces))
    (htext : next.Runs text last more) : mode.Runs (c :: text) last (pieces ++ more) := by
  obtain ⟨hbehind, hpieces⟩ := htext
  refine ⟨?_, fun rest => ?_⟩
  · rw [behind, List.foldl_cons, hstep]
    exact hbehind
  · rw [List.cons_append, Mode.pieces, hstep, hpieces, List.append_assoc]

theorem Runs.append (htext : mode.Runs text next pieces) (hrest : next.Runs rest last more) :
    mode.Runs (text ++ rest) last (pieces ++ more) := by
  obtain ⟨hbehind, hpieces⟩ := htext
  obtain ⟨hlast, hmore⟩ := hrest
  refine ⟨?_, fun other => ?_⟩
  · rw [behind_append, hbehind, hlast]
  · rw [List.append_assoc, hpieces, hmore, List.append_assoc]

/-- A body that does not change what the splitter is in the middle of. -/
theorem runs_body {kept : Char → List Piece}
    (hbody : ∀ c ∈ body, mode.step c = (mode, kept c)) :
    mode.Runs body mode (body.flatMap kept) := by
  induction body with
  | nil => exact .nil mode
  | cons c rest ih =>
      obtain ⟨hc, hrest⟩ := List.forall_mem_cons.mp hbody
      exact .cons hc (ih hrest)

/-- In front of a character the splitter does what it would do if it began there, once it has
let go of what it holds back. -/
def Resumes (mode : Mode) (next : Option Char) : Prop :=
  ∀ c ∈ next, mode.step c = ((plainStep c).1, mode.finish ++ (plainStep c).2)

theorem Resumes.plain (next : Option Char) : plain.Resumes next := fun _ _ => rfl

theorem Resumes.pieces_eq (hresumes : mode.Resumes text.head?) :
    mode.pieces text = mode.finish ++ Mode.plain.pieces text := by
  cases text with
  | nil => exact (List.append_nil _).symm
  | cons c rest =>
      rw [Mode.pieces, Mode.pieces, hresumes c rfl, List.append_assoc]
      rfl

theorem Resumes.behind_cons {c : Char} (hresumes : mode.Resumes (some c)) (rest : List Char) :
    mode.behind (c :: rest) = Mode.plain.behind (c :: rest) := by
  rw [behind, behind, List.foldl_cons, List.foldl_cons, hresumes c rfl]
  rfl

end Mode

theorem step_literal {quote : Char} {body : List Char} (hbody : quote ∉ body) :
    ∀ c ∈ body, (Mode.literal quote).step c = (.literal quote, [.char c]) := by
  intro c hc
  rw [Mode.step, if_neg (ne_of_mem_of_not_mem hc hbody)]

theorem step_lineComment {body : List Char} (hbody : '\n' ∉ body) :
    ∀ c ∈ body, Mode.lineComment.step c = (.lineComment, []) := by
  intro c hc
  rw [Mode.step, if_neg (ne_of_mem_of_not_mem hc hbody)]

/-- A comment goes on at each character of its body.  An asterisk in front of the body may be
half of the pair that ends it. -/
theorem step_blockComment {star : Bool} {c : Char} {rest : List Char}
    (hstar : star = true → c ≠ '/') (hbody : ¬ ['*', '/'] <:+: c :: rest) :
    (Mode.blockComment star).step c = (.blockComment (c == '*'), []) ∧
      ((c == '*') = true → rest.head? ≠ some '/') ∧ ¬ ['*', '/'] <:+: rest := by
  rw [List.infix_cons_iff, not_or] at hbody
  refine ⟨?_, ?_, hbody.2⟩
  · rw [Mode.step, if_neg]
    rintro ⟨hafter, hslash⟩
    exact hstar hafter hslash
  · intro hc hslash
    obtain rfl := beq_iff_eq.mp hc
    obtain ⟨tail, rfl⟩ := List.head?_eq_some_iff.mp hslash
    exact hbody.1 ⟨tail, rfl⟩

/-- The comment goes on up to the next pair that ends it. -/
theorem runs_blockComment {star : Bool} {body : List Char}
    (hstar : star = true → body.head? ≠ some '/') (hbody : ¬ ['*', '/'] <:+: body) :
    ∃ last, (Mode.blockComment star).Runs body (.blockComment last) [] := by
  induction body generalizing star with
  | nil => exact ⟨star, .nil _⟩
  | cons c rest ih =>
      obtain ⟨hstep, hnext, hrest⟩ := step_blockComment (by simpa using hstar) hbody
      obtain ⟨last, hruns⟩ := ih hnext hrest
      exact ⟨last, .cons hstep hruns⟩

/-- **Over a part the splitter yields its pieces**, but for what it holds back behind the last
character.  It is left inside exactly by a part that is open there, and goes on in front of what
fits the part as if it began. -/
theorem Part.exists_runs {part : Part} {next : Option Char} (hfits : part.Fits next) :
    ∃ last pieces, Mode.plain.Runs part.written last pieces ∧
      pieces ++ last.finish = part.pieces ∧ last.isOutside = part.isClosed ∧
      last.Resumes next := by
  cases part with
  | code c =>
      obtain ⟨hquote, hsemicolon, hdash, hslash⟩ := hfits
      by_cases hc : c = '-'
      · -- a dash is held back, as it could begin a comment with the next character
        subst hc
        have hresumes : Mode.dash.Resumes next := by
          intro d hd
          have hother : d ≠ '-' := fun hsame => hdash rfl (hsame ▸ hd)
          rw [Mode.step, if_neg hother]
          rfl
        exact ⟨.dash, [], .cons rfl (.nil _), rfl, rfl, hresumes⟩
      by_cases hc' : c = '/'
      · -- and so is a slash
        subst hc'
        have hresumes : Mode.slash.Resumes next := by
          intro d hd
          have hother : d ≠ '*' := fun hsame => hslash rfl (hsame ▸ hd)
          rw [Mode.step, if_neg hother]
          rfl
        exact ⟨.slash, [], .cons rfl (.nil _), rfl, rfl, hresumes⟩
      · have hstep : Mode.plain.step c = (.plain, [.char c]) := by
          simp_all [Mode.step, plainStep, isQuote]
        exact ⟨.plain, [.char c], .cons hstep (.nil _), rfl, rfl, .plain next⟩
  | separator => exact ⟨.plain, [.cut], .cons rfl (.nil _), rfl, rfl, .plain next⟩
  | literal quote body closed =>
      obtain ⟨hquote, hbody, hopen⟩ := hfits
      have hbegin : Mode.plain.step quote = (.literal quote, [.char quote]) := by
        rw [Mode.step, plainStep, if_pos (by simpa [isQuote] using hquote)]
      have hinside := Mode.Runs.cons hbegin (Mode.runs_body (step_literal hbody))
      rw [← List.map_eq_flatMap] at hinside
      cases closed with
      | true =>
          have hend : (Mode.literal quote).step quote = (.plain, [.char quote]) := by
            rw [Mode.step, if_pos rfl]
          have hall := hinside.append (.cons hend (.nil _))
          exact ⟨.plain, _, hall, by simp [pieces, written, Mode.finish], rfl, .plain next⟩
      | false =>
          -- only the end of the script stands behind it
          obtain rfl := hopen rfl
          rw [written, if_neg Bool.false_ne_true, List.append_nil]
          exact ⟨.literal quote, _, hinside, by simp [pieces, written, Mode.finish], rfl, nofun⟩
  | lineComment body =>
      obtain ⟨hbody, hnext⟩ := hfits
      have hnone : (body.flatMap fun _ => ([] : List Piece)) = [] := by simp
      have hinside := Mode.runs_body (step_lineComment hbody)
      rw [hnone] at hinside
      -- the line feed that ends it is kept like any other
      have hresumes : Mode.lineComment.Resumes next := by
        intro c hc
        obtain rfl := hnext c hc
        rfl
      have hall : Mode.plain.Runs ('-' :: '-' :: body) .lineComment [] :=
        Mode.Runs.cons rfl (Mode.Runs.cons rfl hinside)
      exact ⟨.lineComment, [], hall, rfl, rfl, hresumes⟩
  | blockComment body closed =>
      obtain ⟨hbody, hopen⟩ := hfits
      have hstar : false = true → body.head? ≠ some '/' := nofun
      obtain ⟨star, hinside⟩ := runs_blockComment hstar hbody
      have hall : Mode.plain.Runs ('/' :: '*' :: body) (.blockComment star) [] :=
        Mode.Runs.cons rfl (Mode.Runs.cons rfl hinside)
      cases closed with
      | true =>
          have hasterisk : (Mode.blockComment star).step '*' = (.blockComment true, []) := by
            rw [Mode.step, if_neg (by simp)]
            rfl
          have hend : (Mode.blockComment star).Runs ['*', '/'] .plain [.char ' '] :=
            .cons hasterisk (.cons rfl (.nil _))
          exact ⟨.plain, _, hall.append hend, rfl, rfl, .plain next⟩
      | false =>
          obtain rfl := hopen rfl
          rw [written, if_neg Bool.false_ne_true, List.append_nil]
          exact ⟨.blockComment star, [], hall, rfl, rfl, nofun⟩

/-- **The splitter leaves of a part its pieces**, and comes out of it fresh. -/
theorem pieces_part {part : Part} {text : List Char} (hfits : part.Fits text.head?) :
    Mode.plain.pieces (part.written ++ text) = part.pieces ++ Mode.plain.pieces text := by
  obtain ⟨last, pieces, ⟨-, hruns⟩, hpieces, -, hresumes⟩ := Part.exists_runs hfits
  rw [hruns, hresumes.pieces_eq, ← List.append_assoc, hpieces]

/-- Only a part that is open behind its last character leaves the splitter inside. -/
theorem isOutside_part {part : Part} {text : List Char} (hfits : part.Fits text.head?) :
    (Mode.plain.behind (part.written ++ text)).isOutside =
      if text = [] then part.isClosed else (Mode.plain.behind text).isOutside := by
  obtain ⟨last, -, ⟨hbehind, -⟩, -, hclosed, hresumes⟩ := Part.exists_runs hfits
  cases text with
  | nil => rw [List.append_nil, hbehind, hclosed, if_pos rfl]
  | cons c rest =>
      rw [Mode.behind_append, hbehind, hresumes.behind_cons, if_neg (List.cons_ne_nil c rest)]

theorem pieces_written {parts : List Part} (hfit : AllFit none parts) :
    Mode.plain.pieces (written parts) = parts.flatMap Part.pieces := by
  induction parts with
  | nil => rfl
  | cons part rest ih =>
      obtain ⟨hpart, hrest⟩ := hfit
      rw [Option.or_none] at hpart
      rw [written_cons, pieces_part hpart, ih hrest, List.flatMap_cons]

end PersistLayer.Sql
