import PersistLayer.Syntax.Error
import PersistLayer.Syntax.Token
import PersistLayer.Text.Blank

/-!
# The scanner

Source text is read one character at a time.  `Scanner.step` says what a
character does to the state of the scanner and what it makes known: a token that
is complete, a line that begins inside a template literal, or a fault.  At the
end of the text `Scanner.finish` reports what is left open.

Template literals hold interpolations, which hold code, which may hold template
literals again.  All of this is one stack of open frames, so no part of the
scanner calls itself.  While a template literal is open its raw text is collected
and no token inside it is reported; only the outermost literal becomes a token.

`faults` lists everything wrong with a text, and `tokenize` gives its tokens when
nothing is.
-/

namespace PersistLayer.Syntax

/-! ## State -/

/-- A position in bytes and the number of line feeds before it. -/
structure Place where
  offset : Nat
  line : Nat
  deriving Repr, DecidableEq

/-- The place behind a character. -/
def Place.after (place : Place) (c : Char) : Place where
  offset := place.offset + c.utf8Size
  line := if c = '\n' then place.line + 1 else place.line

/-- What is open around a place: a bracket or a template literal, with the line
where it was opened. -/
inductive Frame where
  | bracket (opener : Char) (line : Nat)
  | template (line : Nat)
  deriving Repr, DecidableEq

/-- The line of a frame that is a template literal. -/
def Frame.templateLine? : Frame → Option Nat
  | bracket _ _ => none
  | template line => some line

/-- A template literal is open. -/
def inTemplate (frames : List Frame) : Bool :=
  frames.any fun frame => frame.templateLine?.isSome

@[simp] theorem inTemplate_nil : inTemplate [] = false := rfl

@[simp] theorem inTemplate_bracket (opener : Char) (line : Nat) (outer : List Frame) :
    inTemplate (.bracket opener line :: outer) = inTemplate outer := by
  simp [inTemplate, Frame.templateLine?]

@[simp] theorem inTemplate_template (line : Nat) (outer : List Frame) :
    inTemplate (.template line :: outer) = true := by
  simp [inTemplate, Frame.templateLine?]

/-- What the scanner is in the middle of.  `slash` and `quote` are the two
characters whose meaning depends on the next one. -/
inductive Mode where
  | code
  | slash
  | comment
  | quote
  | identifier
  | number
  | string (line : Nat) (escaped : Bool)
  | template (dollar : Bool)
  | halted
  deriving Repr, DecidableEq

/-- The state of the scanner.  `start` and `lexeme`, which is kept backwards,
belong to the token being read. -/
structure Scanner where
  mode : Mode
  frames : List Frame
  place : Place
  start : Place
  lexeme : List Char
  deriving Repr, DecidableEq

/-- The scanner in front of a text. -/
def Scanner.initial : Scanner := ⟨.code, [], ⟨0, 0⟩, ⟨0, 0⟩, []⟩

/-- What the scanner makes known.  A `cutOff` is the end of the text inside an
interpolation of a template literal opened at the given line. -/
inductive Report where
  | token (token : Token)
  | literalLine (line : Nat)
  | fault (error : SyntaxError)
  | cutOff (line : Nat)
  deriving Repr, DecidableEq

/-! ## Steps -/

/-- Takes a character that belongs to the token being read. -/
def Scanner.take (scanner : Scanner) (mode : Mode) (c : Char) : Scanner :=
  { scanner with mode, place := scanner.place.after c, lexeme := c :: scanner.lexeme }

/-- Takes a character that belongs to the token being read but not to its text.
Inside a template literal all characters belong to the text. -/
def Scanner.pass (scanner : Scanner) (mode : Mode) (c : Char) : Scanner :=
  if inTemplate scanner.frames then scanner.take mode c
  else { scanner with mode, place := scanner.place.after c }

/-- Takes the first character of a token with the given text so far. -/
def Scanner.opening (scanner : Scanner) (mode : Mode) (c : Char) (lexeme : List Char) :
    Scanner :=
  if inTemplate scanner.frames then scanner.take mode c
  else { scanner with mode, place := scanner.place.after c, start := scanner.place, lexeme }

section Moves

variable (scanner : Scanner) (mode : Mode) (c : Char) (lexeme : List Char)

@[simp] theorem Scanner.take_mode : (scanner.take mode c).mode = mode := rfl

@[simp] theorem Scanner.take_frames : (scanner.take mode c).frames = scanner.frames := rfl

@[simp] theorem Scanner.take_place : (scanner.take mode c).place = scanner.place.after c := rfl

@[simp] theorem Scanner.take_start : (scanner.take mode c).start = scanner.start := rfl

@[simp] theorem Scanner.take_lexeme :
    (scanner.take mode c).lexeme = c :: scanner.lexeme := rfl

@[simp] theorem Scanner.pass_mode : (scanner.pass mode c).mode = mode := by
  unfold pass
  split <;> rfl

@[simp] theorem Scanner.pass_frames : (scanner.pass mode c).frames = scanner.frames := by
  unfold pass
  split <;> rfl

@[simp] theorem Scanner.pass_place : (scanner.pass mode c).place = scanner.place.after c := by
  unfold pass
  split <;> rfl

@[simp] theorem Scanner.pass_start : (scanner.pass mode c).start = scanner.start := by
  unfold pass
  split <;> rfl

@[simp] theorem Scanner.opening_mode : (scanner.opening mode c lexeme).mode = mode := by
  unfold opening
  split <;> rfl

@[simp] theorem Scanner.opening_frames :
    (scanner.opening mode c lexeme).frames = scanner.frames := by
  unfold opening
  split <;> rfl

@[simp] theorem Scanner.opening_place :
    (scanner.opening mode c lexeme).place = scanner.place.after c := by
  unfold opening
  split <;> rfl

end Moves

/-- Reports the token being read, which ends at byte `stop`. -/
def Scanner.tokenReports (scanner : Scanner) (kind : TokenKind) (stop : Nat) : List Report :=
  if inTemplate scanner.frames then []
  else
    [.token ⟨kind, String.ofList scanner.lexeme.reverse, scanner.start.offset, stop,
      scanner.start.line, scanner.frames.length⟩]

/-- Reports a character that is a token of its own. -/
def Scanner.markReports (scanner : Scanner) (c : Char) : List Report :=
  if inTemplate scanner.frames then []
  else
    [.token ⟨.punctuation, c.toString, scanner.place.offset, scanner.place.offset + c.utf8Size,
      scanner.place.line, scanner.frames.length⟩]

/-- Reads a closing bracket in code.  A `}` that meets no bracket of its
interpolation ends the interpolation. -/
def Scanner.closer (scanner : Scanner) (c : Char) : Scanner × List Report :=
  let line := scanner.place.line
  match scanner.frames with
  | .template _ :: _ =>
    if c = '}' then (scanner.take (.template false) c, [])
    else (scanner.take .code c, [.fault (.unexpectedClose c line)])
  | .bracket opener _ :: outer =>
    let closed := { scanner with frames := outer }
    let faults :=
      if closerOf opener = c then [] else [.fault (.mismatched (closerOf opener) c line)]
    (closed.opening .code c [], faults ++ closed.markReports c)
  | [] => (scanner.opening .code c [], .fault (.unexpectedClose c line) :: scanner.markReports c)

/-- Reads a character of code that no token claims. -/
def Scanner.codeStep (scanner : Scanner) (c : Char) : Scanner × List Report :=
  if Text.isBlank c then (scanner.opening .code c [], [])
  else if c = '/' then (scanner.opening .slash c [c], [])
  else if c = '"' then (scanner.opening (.string scanner.place.line false) c [], [])
  else if c = backtick then
    let opened := scanner.opening (.template false) c []
    ({ opened with frames := .template scanner.place.line :: scanner.frames }, [])
  else if isOpener c then
    let opened := scanner.opening .code c []
    ({ opened with frames := .bracket c scanner.place.line :: scanner.frames },
      scanner.markReports c)
  else if isCloser c then scanner.closer c
  else if c = '\'' then (scanner.opening .quote c [c], [])
  else if c.isDigit then (scanner.opening .number c [c], [])
  else if isIdentifierChar c then (scanner.opening .identifier c [c], [])
  else (scanner.opening .code c [], scanner.markReports c)

/-- Ends the token being read in front of a character and reads the character as
code. -/
def Scanner.endToken (scanner : Scanner) (kind : TokenKind) (c : Char) :
    Scanner × List Report :=
  let (next, reports) := scanner.codeStep c
  (next, scanner.tokenReports kind scanner.place.offset ++ reports)

/-- Reads a character inside a string literal opened at `line`. -/
def Scanner.stringStep (scanner : Scanner) (line : Nat) (escaped : Bool) (c : Char) :
    Scanner × List Report :=
  if escaped then (scanner.take (.string line false) c, [])
  else if c = '"' then
    (scanner.pass .code c,
      scanner.tokenReports .string (scanner.place.offset + c.utf8Size))
  else if c = '\n' then
    ({ scanner with mode := .halted }, [.fault (.unterminatedString line)])
  else if c = '\\' then (scanner.pass (.string line true) c, [])
  else (scanner.take (.string line false) c, [])

/-- Reads a character in the text of a template literal. -/
def Scanner.templateStep (scanner : Scanner) (dollar : Bool) (c : Char) :
    Scanner × List Report :=
  if c = backtick then
    let closed := { scanner with frames := scanner.frames.tail }
    (closed.pass .code c,
      closed.tokenReports .template (scanner.place.offset + c.utf8Size))
  else if c = '\n' then
    (scanner.take (.template false) c, [.literalLine (scanner.place.line + 1)])
  else if dollar ∧ c = '{' then (scanner.take .code c, [])
  else (scanner.take (.template (c == '$')) c, [])

/-- What a character does in each mode. -/
def Scanner.step (scanner : Scanner) (c : Char) : Scanner × List Report :=
  match scanner.mode with
  | .code => scanner.codeStep c
  | .slash =>
    if c = '/' then (scanner.take .comment c, []) else scanner.endToken .punctuation c
  | .comment => if c = '\n' then scanner.codeStep c else (scanner.take .comment c, [])
  | .quote =>
    if isIdentifierChar c then (scanner.take .identifier c, [])
    else scanner.endToken .punctuation c
  | .identifier =>
    if isIdentifierChar c then (scanner.take .identifier c, [])
    else scanner.endToken .identifier c
  | .number =>
    if isNumberChar c then (scanner.take .number c, []) else scanner.endToken .number c
  | .string line escaped => scanner.stringStep line escaped c
  | .template dollar => scanner.templateStep dollar c
  | .halted => (scanner, [])

/-! ## The end of the text -/

/-- Reports what is open when the text ends in code: the innermost template
literal, or else the brackets from the outermost on. -/
def openReports (frames : List Frame) : List Report :=
  match frames.findSome? Frame.templateLine? with
  | some line => [.cutOff line]
  | none =>
    frames.reverse.filterMap fun frame =>
      match frame with
      | .bracket opener line => some (.fault (.unclosed opener line))
      | .template _ => none

/-- Reports at the end of the text. -/
def Scanner.finish (scanner : Scanner) : List Report :=
  let stop := scanner.place.offset
  match scanner.mode with
  | .code | .comment => openReports scanner.frames
  | .slash | .quote => scanner.tokenReports .punctuation stop ++ openReports scanner.frames
  | .identifier => scanner.tokenReports .identifier stop ++ openReports scanner.frames
  | .number => scanner.tokenReports .number stop ++ openReports scanner.frames
  | .string line _ => [.fault (.unterminatedString line)]
  | .template _ =>
    match scanner.frames.findSome? Frame.templateLine? with
    | some line => [.fault (.unterminatedTemplate line)]
    | none => []
  | .halted => []

/-! ## Whole texts -/

/-- Everything reported on a text from a state on. -/
def Scanner.reports (scanner : Scanner) : List Char → List Report
  | [] => scanner.finish
  | c :: rest => (scanner.step c).2 ++ (scanner.step c).1.reports rest

/-- `reports` with the reports so far in hand, latest first. -/
def Scanner.reportsOnto (scanner : Scanner) (found : List Report) : List Char → List Report
  | [] => found.reverse ++ scanner.finish
  | c :: rest =>
    let (next, reports) := scanner.step c
    next.reportsOnto (reports.reverse ++ found) rest

theorem Scanner.reportsOnto_eq (scanner : Scanner) (found : List Report) (text : List Char) :
    scanner.reportsOnto found text = found.reverse ++ scanner.reports text := by
  induction text generalizing scanner found with
  | nil => rfl
  | cons c rest ih => simp [reportsOnto, reports, ih]

/-- Everything reported on a text. -/
def scan (text : List Char) : List Report := Scanner.initial.reportsOnto [] text

theorem scan_eq_reports (text : List Char) : scan text = Scanner.initial.reports text := by
  simp [scan, Scanner.reportsOnto_eq]

/-- The error in a report of a fault. -/
def Report.fault? : Report → Option SyntaxError
  | fault error => some error
  | _ => none

/-- The error in a report of a template literal that was cut off. -/
def Report.cutOff? : Report → Option SyntaxError
  | cutOff line => some (.unterminatedTemplate line)
  | _ => none

/-- The token in a report. -/
def Report.token? : Report → Option Token
  | token found => some found
  | _ => none

/-- The line in a report of a literal line. -/
def Report.literalLine? : Report → Option Nat
  | literalLine line => some line
  | _ => none

/-- The errors among reports, in order.  A cut-off template literal counts only
when there is no other fault. -/
def errorsIn (reports : List Report) : List SyntaxError :=
  match reports.filterMap Report.fault? with
  | [] => reports.filterMap Report.cutOff?
  | faults => faults

/-- Everything wrong with a text as far as brackets, literals and comments go. -/
def faults (text : String) : List SyntaxError := errorsIn (scan text.toList)

/-- The tokens of a text and the lines that begin inside a template literal. -/
structure Scanned where
  tokens : List Token
  literalLines : List Nat
  deriving Repr, DecidableEq

/-- The tokens of a text that has no fault, or its first fault. -/
def tokenize (text : String) : Except SyntaxError Scanned :=
  let reports := scan text.toList
  match errorsIn reports with
  | error :: _ => .error error
  | [] => .ok ⟨reports.filterMap Report.token?, reports.filterMap Report.literalLine?⟩

end PersistLayer.Syntax
