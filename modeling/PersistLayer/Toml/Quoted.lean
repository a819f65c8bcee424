/-!
# Keys and strings as written

A key is written bare if it can be.  Otherwise, and for every string, the first
form is taken that can hold the text as it is: basic, literal, and for strings
also the forms of three quotes.  Where none can, the text is written in a basic
form with escapes.
-/

namespace PersistLayer.Toml

/-! ## What a text holds -/

/-- A character of a bare key. -/
def isBareChar (c : Char) : Bool := c.isAlphanum || c == '_' || c == '-'

/-- A control character other than the tab. -/
def isControl (c : Char) : Bool := (c.toNat ≤ 0x1F && c != '\t') || c.toNat == 0x7F

/-- The longest run of a character in a text, when the run in front of it is
`length` long. -/
def longestRun (c : Char) (length : Nat) : List Char → Nat
  | [] => length
  | d :: rest =>
    if d = c then longestRun c (length + 1) rest else max length (longestRun c 0 rest)

/-! ## Escapes -/

/-- A hexadecimal digit. -/
def hexDigit (value : Nat) : Char :=
  if value < 10 then Char.ofNat (48 + value) else Char.ofNat (55 + value)

/-- The escape for a character of a basic form, if it needs one.  Quotes are
treated apart, because they need one only after a number of others. -/
def escape? (multiline : Bool) (c : Char) : Option (List Char) :=
  if c = '\x08' then some ['\\', 'b']
  else if c = '\t' then some ['\\', 't']
  else if c = '\n' then if multiline then none else some ['\\', 'n']
  else if c = '\x0c' then some ['\\', 'f']
  else if c = '\r' then some ['\\', 'r']
  else if c = '\\' then some ['\\', '\\']
  else if isControl c then
    some ['\\', 'u', '0', '0', hexDigit (c.toNat / 16), hexDigit (c.toNat % 16)]
  else none

/-- The inside of a basic form that follows `quotes` quotes.  A quote is escaped
when `allowed` others stand right in front of it. -/
def escaped (multiline : Bool) (allowed quotes : Nat) : List Char → List Char
  | [] => []
  | c :: rest =>
    if c = '"' then
      if quotes < allowed then c :: escaped multiline allowed (quotes + 1) rest
      else '\\' :: '"' :: escaped multiline allowed 0 rest
    else
      (escape? multiline c).getD [c] ++ escaped multiline allowed 0 rest

/-! ## Forms -/

/-- The basic form. -/
def basic (text : List Char) : List Char := '"' :: (escaped false 0 0 text ++ ['"'])

/-- The literal form. -/
def literal (text : List Char) : List Char := '\'' :: (text ++ ['\''])

/-- The line feed with which a form of three quotes begins when it holds one. -/
def firstBreak (text : List Char) : List Char := if text.contains '\n' then ['\n'] else []

/-- The basic form of three quotes. -/
def basicBlock (text : List Char) : List Char :=
  ['"', '"', '"'] ++ firstBreak text ++ escaped true 2 0 text ++ ['"', '"', '"']

/-- The literal form of three quotes. -/
def literalBlock (text : List Char) : List Char :=
  ['\'', '\'', '\''] ++ firstBreak text ++ text ++ ['\'', '\'', '\'']

/-- A key as written. -/
def writeKey (key : List Char) : List Char :=
  let hasControl := key.any isControl
  if !key.isEmpty && key.all isBareChar then key
  else if !hasControl && !key.contains '\\' && !key.contains '"' then basic key
  else if !hasControl && !key.contains '\'' then literal key
  else basic key

/-- A string as written. -/
def writeString (text : List Char) : List Char :=
  let hasControl := text.any fun c => isControl c && c != '\n'
  let isBroken := text.contains '\n'
  let hasEscape := text.contains '\\'
  if !hasControl && !hasEscape && !text.contains '"' && !isBroken then basic text
  else if !hasControl && !text.contains '\'' && !isBroken then literal text
  else if !hasControl && !hasEscape && longestRun '"' 0 text < 3 then basicBlock text
  else if !hasControl && longestRun '\'' 0 text < 3 then literalBlock text
  else if isBroken then basicBlock text
  else basic text

end PersistLayer.Toml
