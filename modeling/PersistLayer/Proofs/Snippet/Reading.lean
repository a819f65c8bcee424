import PersistLayer.Proofs.Render.Snippets
import PersistLayer.Proofs.Render.Words
import PersistLayer.Proofs.Snippet.Dedented

/-!
# Texts that can be read

A text of statements can be read when it leaves nothing open, ends with a semicolon
and indents its lines with spaces.  The semicolon ends the last construct, and an
indent of spaces, each of one byte, can be cut anywhere.
-/

namespace PersistLayer.Syntax

/-! ## Lines that begin with spaces -/

/-- Whether only blanks stand in front on the line, behind one more character. -/
def inIndent (indent : Bool) (c : Char) : Bool := c == '\n' || (indent && Text.isBlank c)

/-- The blanks that lines begin with are spaces.  Whether only blanks stand in front of
the text on its line is given. -/
def spacedFrom (indent : Bool) : List Char → Bool
  | [] => true
  | c :: rest =>
    (!(indent && Text.isBlank c) || c == ' ' || c == '\n') && spacedFrom (inIndent indent c) rest

/-- The blanks that lines begin with are spaces. -/
def Spaced (text : String) : Prop := spacedFrom true text.toList = true

instance (text : String) : Decidable (Spaced text) :=
  inferInstanceAs (Decidable (spacedFrom true text.toList = true))

theorem spacedFrom_append (indent : Bool) (front back : List Char) :
    spacedFrom indent (front ++ back) =
      (spacedFrom indent front && spacedFrom (front.foldl inIndent indent) back) := by
  induction front generalizing indent with
  | nil => rfl
  | cons c rest ih => simp [spacedFrom, ih, Bool.and_assoc]

/-- A text that may begin a line may also continue one. -/
theorem spacedFrom_of_true {text : List Char} (htext : spacedFrom true text = true)
    (indent : Bool) : spacedFrom indent text = true := by
  induction text generalizing indent with
  | nil => rfl
  | cons c rest ih =>
      cases indent with
      | true => exact htext
      | false =>
          simp only [spacedFrom, inIndent, Bool.and_eq_true, Bool.true_and] at htext
          simp only [spacedFrom, inIndent, Bool.false_and, Bool.not_false, Bool.true_or,
            Bool.or_false, Bool.true_and]
          obtain ⟨-, hrest⟩ := htext
          by_cases hline : (c == '\n' || Text.isBlank c) = true
          · rw [hline] at hrest
            exact ih hrest _
          · simp only [Bool.not_eq_true, Bool.or_eq_false_iff] at hline
            rw [hline.1, hline.2] at hrest
            rw [hline.1]
            exact hrest

theorem Spaced.append {front back : String} (hfront : Spaced front) (hback : Spaced back) :
    Spaced (front ++ back) := by
  unfold Spaced at hfront hback ⊢
  rw [String.toList_append, spacedFrom_append, hfront, spacedFrom_of_true hback]
  rfl

/-- A text without blanks is no indent. -/
theorem spacedFrom_of_not_blank {text : List Char}
    (htext : ∀ c ∈ text, Text.isBlank c = false) (indent : Bool) :
    spacedFrom indent text = true := by
  induction text generalizing indent with
  | nil => rfl
  | cons c rest ih =>
      have hc := htext c List.mem_cons_self
      have hrest := ih (fun other h => htext other (List.mem_cons_of_mem _ h)) (inIndent indent c)
      simp [spacedFrom, hc, hrest]

/-- Where the line has begun, blanks are no indent. -/
theorem spacedFrom_false_of_not_mem {text : List Char} (htext : '\n' ∉ text) :
    spacedFrom false text = true := by
  induction text with
  | nil => rfl
  | cons c rest ih =>
      simp only [List.mem_cons, not_or] at htext
      have hstate : inIndent false c = false := by simp [inIndent, Ne.symm htext.1]
      simp [spacedFrom, hstate, ih htext.2]

/-- Behind a character that is no blank, nothing in front matters. -/
theorem spacedFrom_cons_of_not_blank {c : Char} {rest : List Char} {indent : Bool}
    (hspaced : spacedFrom indent (c :: rest) = true) (hc : Text.isBlank c = false) :
    spacedFrom true (c :: rest) = true := by
  simp only [spacedFrom, inIndent, hc, Bool.and_false, Bool.not_false, Bool.true_or,
    Bool.true_and] at hspaced ⊢
  exact hspaced

/-- The blanks that a line of the text begins with are spaces. -/
theorem eq_space_of_spacedFrom {line : List Char} (hspaced : spacedFrom true line = true)
    (hline : '\n' ∉ line) : ∀ c ∈ line.takeWhile Text.isBlank, c = ' ' := by
  induction line with
  | nil => simp
  | cons c rest ih =>
      simp only [List.mem_cons, not_or] at hline
      intro d hd
      cases hblank : Text.isBlank c with
      | false =>
          rw [List.takeWhile_cons_of_neg (by simp [hblank])] at hd
          cases hd
      | true =>
          have hfeed : (c == '\n') = false := by simp [Ne.symm hline.1]
          simp only [spacedFrom, inIndent, hblank, hfeed, Bool.and_self, Bool.not_true,
            Bool.false_or, Bool.or_false, Bool.and_eq_true, beq_iff_eq] at hspaced
          rw [List.takeWhile_cons_of_pos hblank] at hd
          rcases List.mem_cons.mp hd with rfl | hd
          · exact hspaced.1
          · exact ih hspaced.2 hline.2 d hd

theorem spacedFrom_below {first : List Char} {rest : List (List Char)} {indent : Bool}
    (hspaced : spacedFrom indent (first ++ below rest) = true) :
    spacedFrom indent first = true ∧ ∀ line ∈ rest, spacedFrom true line = true := by
  induction rest generalizing first indent with
  | nil => simpa using hspaced
  | cons line rest ih =>
      rw [below_cons, spacedFrom_append, Bool.and_eq_true] at hspaced
      obtain ⟨hfirst, hbelow⟩ := hspaced
      have hrest : spacedFrom true (line ++ below rest) = true := by
        simpa [spacedFrom, inIndent] using hbelow
      obtain ⟨hline, hlines⟩ := ih hrest
      refine ⟨hfirst, ?_⟩
      intro other hother
      rcases List.mem_cons.mp hother with rfl | hother
      · exact hline
      · exact hlines other hother

/-! ## Cutting snippets -/

/-- A line that begins with spaces can be freed of any indent it has. -/
theorem exists_dedentLine {indent : Nat} {line : List Char} {verbatim : Bool}
    (hspaces : ∀ c ∈ line.takeWhile Text.isBlank, c = ' ')
    (hindent : verbatim = false → Text.allBlank line = false → indent ≤ indentOf line) :
    ∃ out, dedentLine indent line verbatim = .ok out := by
  unfold dedentLine
  split_ifs with hverbatim hblank
  · exact ⟨_, rfl⟩
  · exact ⟨_, rfl⟩
  · have hle := hindent (by simpa using hverbatim) (by simpa using hblank)
    obtain ⟨count, hcount⟩ : ∃ count, line.takeWhile Text.isBlank = List.replicate count ' ' :=
      ⟨_, List.eq_replicate_of_mem hspaces⟩
    -- spaces have one byte each, so no cut between them splits a character
    have hbytes : ∀ n, Text.byteLength (List.replicate n ' ') = n := by
      intro n
      have hspace : ' '.utf8Size = 1 := rfl
      induction n with
      | zero => rfl
      | succ n ih => rw [List.replicate_succ, Text.byteLength_cons, ih, hspace, Nat.add_comm]
    rw [indentOf, hcount, hbytes] at hle
    have hline : line = List.replicate indent ' ' ++
        (List.replicate (count - indent) ' ' ++ line.dropWhile Text.isBlank) :=
      calc line = List.replicate count ' ' ++ line.dropWhile Text.isBlank := by
            rw [← hcount, List.takeWhile_append_dropWhile]
        _ = List.replicate (indent + (count - indent)) ' ' ++ line.dropWhile Text.isBlank := by
            rw [Nat.add_sub_cancel' hle]
        _ = _ := by rw [List.replicate_add, List.append_assoc]
    have hafter := Text.afterBytes?_append (List.replicate indent ' ')
      (List.replicate (count - indent) ' ' ++ line.dropWhile Text.isBlank)
    rw [hbytes, ← hline] at hafter
    rw [hafter]
    exact ⟨_, rfl⟩

/-- A piece of text whose lines begin with spaces is a snippet. -/
theorem exists_snippetOf {piece : List Char} (hspaced : spacedFrom true piece = true)
    (first : Nat) (literalLines : List Nat) :
    ∃ snippet, snippetOf piece first literalLines = .ok snippet := by
  obtain ⟨top, rest, hsplit, htext, htop, hrest⟩ := exists_splitOn_eq piece
  rw [htext] at hspaced
  obtain ⟨hspacedTop, hspacedRest⟩ := spacedFrom_below hspaced
  have hlines : ∀ line ∈ piece.splitOn '\n', ∀ c ∈ line.takeWhile Text.isBlank, c = ' ' := by
    intro line hline
    rw [hsplit] at hline
    rcases List.mem_cons.mp hline with rfl | hline
    · exact eq_space_of_spacedFrom hspacedTop htop
    · exact eq_space_of_spacedFrom (hspacedRest line hline) (hrest line hline)
  have hentry : ∀ entry ∈ markedLines piece first literalLines, ∃ out,
      dedentLine (commonIndent (markedLines piece first literalLines)) entry.1 entry.2 =
        .ok out := by
    rintro ⟨line, verbatim⟩ hentry
    refine exists_dedentLine ?_ ?_
    · obtain ⟨⟨other, index⟩, hmem, heq⟩ := List.mem_map.mp hentry
      obtain ⟨rfl, -⟩ := Prod.mk.inj heq
      exact hlines other (List.fst_mem_of_mem_zipIdx hmem)
    · rintro rfl hblank
      exact commonIndent_le hentry hblank
  obtain ⟨outs, houts⟩ := exists_mapM_eq_ok hentry
  exact ⟨⟨outs⟩, snippetOf_eq_ok_iff.mpr (mapM_eq_ok_iff.mp houts)⟩

theorem uptoBytes_prefix (count : Nat) (text : List Char) : Text.uptoBytes count text <+: text := by
  induction text generalizing count with
  | nil => exact List.nil_prefix
  | cons c rest ih =>
      unfold Text.uptoBytes
      split_ifs
      · exact List.cons_prefix_cons.mpr ⟨rfl, ih _⟩
      · exact List.nil_prefix

/-- What is cut from the beginning of a token on begins its lines as the text does. -/
theorem spacedFrom_excerpt {front : List Char} {c : Char} {back : List Char}
    (hspaced : spacedFrom true (front ++ c :: back) = true) (hc : Text.isBlank c = false)
    (stop : Nat) :
    spacedFrom true (excerpt (front ++ c :: back) (Text.byteLength front) stop) = true := by
  obtain ⟨more, hmore⟩ := uptoBytes_prefix (stop - Text.byteLength front) (c :: back)
  have hfrom : ∀ indent, spacedFrom indent (c :: back) = true →
      spacedFrom indent (Text.uptoBytes (stop - Text.byteLength front) (c :: back)) = true := by
    intro indent h
    rw [← hmore, spacedFrom_append, Bool.and_eq_true] at h
    exact h.1
  rw [excerpt, Text.uptoBytes_append, Text.afterBytes?_append, Option.getD_some]
  split_ifs
  · -- the line that the token stands on begins behind the last line feed
    obtain ⟨above, habove, hends⟩ : ∃ above, front = above ++
        (front.reverse.takeWhile (· ≠ '\n')).reverse ∧ above.foldl inIndent true = true := by
      refine ⟨(front.reverse.dropWhile (· ≠ '\n')).reverse, ?_, ?_⟩
      · rw [← List.reverse_append, List.takeWhile_append_dropWhile, List.reverse_reverse]
      · cases hdrop : front.reverse.dropWhile (· ≠ '\n') with
        | nil => rfl
        | cons d rest =>
            have hhead := List.head?_dropWhile_not (· ≠ '\n') front.reverse
            rw [hdrop] at hhead
            obtain rfl : d = '\n' := by simpa using hhead
            simp [inIndent]
    generalize (front.reverse.takeWhile (· ≠ '\n')).reverse = lead at habove ⊢
    rw [habove, List.append_assoc, spacedFrom_append, hends, Bool.and_eq_true,
      spacedFrom_append, Bool.and_eq_true] at hspaced
    obtain ⟨-, hlead, hback⟩ := hspaced
    rw [spacedFrom_append, hlead, hfrom _ hback]
    rfl
  · rw [spacedFrom_append, Bool.and_eq_true] at hspaced
    exact hfrom _ (spacedFrom_cons_of_not_blank hspaced.2 hc)

/-- Any run of tokens of the text is a snippet. -/
theorem exists_snippetOfTokens {text : String} (hspaced : Spaced text)
    (hflawless : Flawless (scan text.toList)) {chunk : List Token} (hchunk : chunk ≠ [])
    (htokens : chunk ⊆ tokensIn (scan text.toList)) (literalLines : List Nat) :
    ∃ snippet, snippetOfTokens text.toList literalLines chunk = .ok snippet := by
  obtain ⟨first, rest, rfl⟩ := List.exists_cons_of_ne_nil hchunk
  have hfirst := htokens List.mem_cons_self
  rw [scan_eq_reports, Scanner.initial_eq_fresh] at hflawless hfirst
  obtain ⟨front, source, back, htext, hspells, hne, hstart, -⟩ :=
    exists_source rfl hflawless hfirst
  obtain ⟨c, tail, rfl⟩ := List.exists_cons_of_ne_nil hne
  rw [offset_origin] at hstart
  have hc : Text.isBlank c = false := hspells.blank_ends.1 c rfl
  have hpiece := exists_snippetOf
    (@spacedFrom_excerpt front c (tail ++ back) (by simpa [Spaced, htext] using hspaced) hc
      ((first :: rest).getLast (by simp)).stop) first.line literalLines
  have hlast := List.getLast?_eq_some_getLast (l := first :: rest) (by simp)
  simp only [snippetOfTokens, List.head?_cons, hlast, cutSnippet, hstart]
  rw [htext]
  simpa using hpiece

/-- **An annotation can be read** when it leaves nothing open and indents its lines with
spaces. -/
theorem exists_annotationIn {text : String} (hfirst : text.toList.head? = some '@')
    (hneutral : Neutral text) (hspaced : Spaced text) :
    ∃ snippet, annotationIn text = .ok snippet := by
  have hflawless := hneutral.flawless
  have hscanned := tokenize_eq_ok_iff.mpr ⟨hflawless, rfl⟩
  obtain ⟨mark, others, htokens, hsign⟩ : ∃ mark others,
      tokensIn (scan text.toList) = mark :: others ∧ mark.isMark "@" = true := by
    have hmark : tokensIn (Scanner.initial.emits ['@']) = [⟨.punctuation, "@", 0, 1, 0, 0⟩] := by
      decide
    obtain ⟨rest, hrest⟩ := List.head?_eq_some_iff.mp hfirst
    rw [scan_eq_reports, hrest, ← List.singleton_append, Scanner.reports_append, tokensIn_append,
      hmark]
    exact ⟨_, _, rfl, rfl⟩
  obtain ⟨snippet, hsnippet⟩ := exists_snippetOfTokens hspaced hflawless
    (List.cons_ne_nil mark others) (fun _ h => htokens ▸ h) (literalLinesIn (scan text.toList))
  refine ⟨snippet, bind_eq_ok_iff.mpr ⟨_, hscanned, ?_⟩⟩
  simp only [htokens, hsign]
  exact hsnippet

/-! ## The last semicolon -/

/-- Only in code does a semicolon lead to code, and it goes on with no token. -/
theorem Scanner.of_step_semicolon {scanner : Scanner} (hlive : scanner.Live)
    (hphase : (scanner.step ';').1.mode.phase = .code) :
    scanner.mode.isCode = true ∧ scanner.mode.goesOnWith ';' = false := by
  have hidentifier : isIdentifierChar ';' = false := by decide
  have hnumber : isNumberChar ';' = false := by decide
  cases hmode : scanner.mode with
  | string line escaped =>
      simp only [step, hmode, stringStep] at hphase
      split_ifs at hphase <;> simp_all [Mode.phase]
  | template dollar => simp [step, hmode, templateStep, backtick, Mode.phase] at hphase
  | comment => simp [step, hmode, Mode.phase] at hphase
  | halted => simp [Live, hmode] at hlive
  | code | slash => exact ⟨rfl, rfl⟩
  | quote | identifier => exact ⟨rfl, hidentifier⟩
  | number => exact ⟨rfl, hnumber⟩

theorem Scanner.step_semicolon {scanner : Scanner} (hcode : scanner.mode.isCode = true)
    (hgoes : scanner.mode.goesOnWith ';' = false) :
    scanner.step ';' =
      (scanner.opening .code ';' [], scanner.pending ++ scanner.markReports ';') := by
  have hmark : scanner.codeStep ';' = (scanner.opening .code ';' [], scanner.markReports ';') := by
    rw [codeStep]
    simp only [show Text.isBlank ';' = false by decide, show isIdentifierChar ';' = false by decide,
      isOpener, isCloser]
    rfl
  rw [step_of_not_goesOn hcode hgoes, hmark]

section LastSemicolon

variable {text : String} (hneutral : Neutral text) {body : List Char}
  (htext : text.toList = body ++ [';']) (place : Place)

include hneutral htext

/-- In front of the last semicolon of a neutral text, code is read and nothing is open. -/
theorem run_of_semicolon :
    Flawless ((Scanner.fresh [] place).emits body) ∧
      ((Scanner.fresh [] place).run body).frames = [] ∧
      ((Scanner.fresh [] place).run body).mode.isCode = true ∧
      ((Scanner.fresh [] place).run body).mode.goesOnWith ';' = false := by
  have hrun : (Scanner.fresh [] place).outline.run (body ++ [';']) = some .initial := by
    rw [← htext]
    exact hneutral []
  rw [Outline.run_append, Option.bind_eq_some_iff] at hrun
  obtain ⟨middle, hfront, hstep⟩ := hrun
  obtain ⟨hflawless, hlast, rfl⟩ := Scanner.run_of_outline (Scanner.fresh_live [] place) hfront
  obtain ⟨-, hbehind, houtline⟩ := Scanner.run_of_outline hlast hstep
  obtain ⟨hcode, hgoes⟩ := Scanner.of_step_semicolon hlast (congrArg Outline.phase houtline)
  obtain ⟨hframes, -⟩ := Scanner.of_isClosed hbehind (by rw [houtline]; rfl)
  rw [Scanner.run_cons, Scanner.run_nil, Scanner.step_semicolon hcode hgoes,
    Scanner.opening_frames] at hframes
  exact ⟨hflawless, hframes, hcode, hgoes⟩

/-- The last semicolon leaves nothing to what stands behind it. -/
theorem settles_of_semicolon : Scanner.Settles (body ++ [';']) place := by
  obtain ⟨-, hframes, hcode, hgoes⟩ := run_of_semicolon hneutral htext place
  have hbehind : (Scanner.fresh [] place).run (body ++ [';']) =
      ((Scanner.fresh [] place).run body).opening .code ';' [] := by
    rw [Scanner.run_append, Scanner.run_cons, Scanner.step_semicolon hcode hgoes, Scanner.run_nil]
  refine ⟨?_, ?_, ?_⟩
  · rw [← htext]
    exact (hneutral.run_eq place).1
  · rw [hbehind, Scanner.opening_mode]
  · rw [hbehind, Scanner.opening_frames, hframes]

/-- **The last semicolon of a neutral text** is a token of its own behind those of the text
in front of it. -/
theorem reports_of_semicolon :
    Flawless ((Scanner.fresh [] place).reports body) ∧
      tokensIn ((Scanner.fresh [] place).reports (body ++ [';'])) =
        tokensIn ((Scanner.fresh [] place).reports body) ++
          [⟨.punctuation, ";", (place.afterText body).offset, (place.afterText body).offset + 1,
            (place.afterText body).line, 0⟩] := by
  obtain ⟨hflawless, hframes, hcode, hgoes⟩ := run_of_semicolon hneutral htext place
  have hsettles := settles_of_semicolon hneutral htext place
  have hemits : (Scanner.fresh [] place).emits (body ++ [';']) =
      (Scanner.fresh [] place).reports body ++
        ((Scanner.fresh [] place).run body).markReports ';' := by
    rw [Scanner.emits_append, Scanner.emits_cons, Scanner.step_semicolon hcode hgoes,
      Scanner.reports_eq_yield hcode hframes, Scanner.yield]
    simp
  have hmark : ((Scanner.fresh [] place).run body).markReports ';' =
      [.token ⟨.punctuation, ";", (place.afterText body).offset, (place.afterText body).offset + 1,
        (place.afterText body).line, 0⟩] := by
    rw [Scanner.markReports, hframes, Scanner.run_place (Scanner.fresh_live [] place) hflawless]
    rfl
  refine ⟨?_, ?_⟩
  · have hall := hsettles.flawless
    rw [hemits] at hall
    exact ((flawless_append _ _).mp hall).1
  · rw [hsettles.reports_eq, hemits, tokensIn_append, hmark]
    rfl

end LastSemicolon

/-- The last token of a neutral text that ends with a semicolon is that semicolon. -/
theorem tokensIn_of_semicolon {text : String} (hneutral : Neutral text)
    (hlast : text.toList.getLast? = some ';') :
    ∃ front last, tokensIn (scan text.toList) = front ++ [last] ∧ last.depth = 0 ∧
      last.isMark ";" = true := by
  obtain ⟨body, htext⟩ := List.getLast?_eq_some_iff.mp hlast
  obtain ⟨-, htokens⟩ := reports_of_semicolon hneutral htext origin
  rw [← Scanner.initial_eq_fresh, ← htext, ← scan_eq_reports] at htokens
  exact ⟨_, _, htokens, rfl, rfl⟩

/-- Where the last token is a semicolon outside brackets, every token belongs to a
construct. -/
theorem constructsOnto_of_semicolon {last : Token} (hdepth : last.depth = 0)
    (hsign : last.isMark ";" = true) (front run : List Token) (form : Form) :
    (constructsOnto run form (front ++ [last])).2 = [] := by
  induction front generalizing run form with
  | nil => simp [constructsOnto, Token.endsConstruct, hdepth, hsign]
  | cons token rest ih =>
      simp only [List.cons_append, constructsOnto]
      split_ifs
      · exact ih _ _
      · exact ih _ _

/-- A text of statements: nothing is left open, the last statement has its semicolon and
lines are indented with spaces. -/
structure IsStatements (text : String) : Prop where
  neutral : Neutral text
  spaced : Spaced text
  semicolon : text.toList.getLast? = some ';'

/-- **A text of statements can be read.**  It gives as many snippets as it has
constructs. -/
theorem IsStatements.exists_statementsIn {text : String} (htext : IsStatements text) :
    ∃ snippets, statementsIn text = .ok snippets ∧
      snippets.length = (constructs (tokensIn (scan text.toList))).1.length := by
  obtain ⟨front, last, htokens, hdepth, hsign⟩ :=
    tokensIn_of_semicolon htext.neutral htext.semicolon
  have hflawless := htext.neutral.flawless
  obtain ⟨complete, left, hconstructs⟩ : ∃ complete left,
      constructs (tokensIn (scan text.toList)) = (complete, left) := ⟨_, _, rfl⟩
  -- the semicolon at the end leaves no token outside the constructs
  obtain rfl : left = [] := by
    have hleft := constructsOnto_of_semicolon hdepth hsign front [] .undecided
    rw [← htokens, show constructsOnto [] .undecided _ = (complete, left) from hconstructs] at hleft
    exact hleft
  obtain ⟨hflatten, hends⟩ := constructsOnto_flatten [] .undecided (tokensIn (scan text.toList))
  rw [show constructsOnto [] .undecided _ = (complete, []) from hconstructs] at hflatten hends
  simp only [List.append_nil, List.reverse_nil, List.nil_append] at hflatten hends
  have hsnippet : ∀ chunk ∈ complete, ∃ snippet, snippetOfTokens text.toList
      (literalLinesIn (scan text.toList)) chunk = .ok snippet := by
    intro chunk hchunk
    refine exists_snippetOfTokens htext.spaced hflawless (hends chunk hchunk).ne_nil ?_ _
    rw [← hflatten]
    exact fun token htoken => List.mem_flatten.mpr ⟨chunk, hchunk, htoken⟩
  obtain ⟨snippets, hsnippets⟩ := exists_mapM_eq_ok hsnippet
  have hcut := mapM_eq_ok_iff.mp hsnippets
  refine ⟨snippets, statementsIn_eq_ok_iff.mpr ⟨_, complete,
    tokenize_eq_ok_iff.mpr ⟨hflawless, rfl⟩, by simp [htokens], hconstructs, hcut⟩, ?_⟩
  rw [hconstructs]
  exact hcut.length_eq.symm

end PersistLayer.Syntax
