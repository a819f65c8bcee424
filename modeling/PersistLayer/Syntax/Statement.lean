import PersistLayer.Syntax.Snippet

/-!
# Statements, members and annotations

A construct ends at a semicolon outside brackets.  A block construct, one with a
block keyword before any brace, ends at its closing brace instead, unless an
`else` or an `on` clause follows.  Statements and the members of modules and
classes end alike, so one reader serves for all.
-/

namespace PersistLayer.Syntax

/-! ## Where constructs end -/

/-- Keywords whose constructs end at a closing brace. -/
def blockKeywords : List String :=
  ["if", "lock", "foreach", "while", "do", "match", "transaction", "function", "class"]

/-- Words that carry a block construct on behind its closing brace. -/
def clauseKeywords : List String := ["else", "on"]

/-- What the tokens outside brackets have shown a construct to be so far: nothing,
a block, or something with a brace that comes before any block keyword. -/
inductive Form where
  | undecided
  | block
  | braced
  deriving Repr, DecidableEq

/-- The form of a construct after one more token. -/
def Form.after (form : Form) (token : Token) : Form :=
  match form with
  | .undecided =>
    if token.depth ≠ 0 then .undecided
    else if token.isMark "\x7b" then .braced
    else if token.isWordIn blockKeywords then .block
    else .undecided
  | decided => decided

/-- A token ends a construct of a given form when `next` follows it. -/
def Token.endsConstruct (token : Token) (form : Form) (next : Option Token) : Bool :=
  token.depth == 0 &&
    (token.isMark ";" ||
      (token.isMark "\x7d" && form == .block &&
        !(next.any fun following => following.isWordIn clauseKeywords)))

/-- Groups tokens into constructs.  `run` holds the tokens of the construct being
read, latest first.  The second part of the result is what has no end. -/
def constructsOnto (run : List Token) (form : Form) :
    List Token → List (List Token) × List Token
  | [] => ([], run.reverse)
  | token :: rest =>
    let form := form.after token
    if token.endsConstruct form rest.head? then
      let (constructs, open_) := constructsOnto [] .undecided rest
      ((token :: run).reverse :: constructs, open_)
    else constructsOnto (token :: run) form rest

/-- The constructs that tokens form, and the tokens left without an end. -/
def constructs (tokens : List Token) : List (List Token) × List Token :=
  constructsOnto [] .undecided tokens

/-! ## Readers -/

/-- The snippet of a run of tokens. -/
def snippetOfTokens (text : List Char) (literalLines : List Nat) (tokens : List Token) :
    Except SyntaxError Snippet :=
  match tokens.head?, tokens.getLast? with
  | some first, some last => cutSnippet text literalLines first last
  | _, _ => .error .empty

/-- Reads a sequence of statements. -/
def statementsIn (text : String) : Except SyntaxError (List Snippet) := do
  let scanned ← tokenize text
  if scanned.tokens.isEmpty then throw .empty
  let (complete, open_) := constructs scanned.tokens
  let snippets ← complete.mapM (snippetOfTokens text.toList scanned.literalLines)
  match open_.getLast? with
  | some last => throw (.missingTerminator last.line)
  | none => return snippets

/-- Reads exactly one statement. -/
def statementIn (text : String) : Except SyntaxError Snippet := do
  match ← statementsIn text with
  | [snippet] => return snippet
  | snippets => throw (.notSingle snippets.length)

/-- Reads exactly one member of a module or class. -/
def memberIn (text : String) : Except SyntaxError Snippet := statementIn text

/-- Reads an annotation. -/
def annotationIn (text : String) : Except SyntaxError Snippet := do
  let scanned ← tokenize text
  match scanned.tokens with
  | [] => throw .empty
  | first :: _ =>
    if first.isMark "@" then snippetOfTokens text.toList scanned.literalLines scanned.tokens
    else throw .noAtSign

end PersistLayer.Syntax
