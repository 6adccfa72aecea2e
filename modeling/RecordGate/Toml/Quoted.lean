import RecordGate.Hex

/-!
# TOML strings

Four ways to quote a text: with escapes between double quotes, without escapes between single quotes,
and either of them over several lines between three quotes. `quote` picks the first way in which a text
can be written plainly.
-/

namespace RecordGate.Toml
set_option autoImplicit false

/-! ## Reading -/

/-- Control characters other than the tabulator, none of which may stand in a document as they are. -/
def isControl (c : Char) : Bool := (c.toNat < 0x20 && c != '\t') || c.toNat == 0x7f

/-- The character with the code point that hexadecimal digits spell. -/
def charOfHex? (digits : List Char) : Option Char := do
  let n := (← digits.mapM Hex.digitValue?).foldl (fun n d => 16 * n + d) 0
  if h : n.isValidChar then some (Char.ofNatAux n h) else none

/-- The character that an escape of one letter stands for. -/
def escaped? : Char → Option Char
  | 'b' => some '\x08'
  | 't' => some '\t'
  | 'n' => some '\n'
  | 'f' => some '\x0c'
  | 'r' => some '\r'
  | '"' => some '"'
  | '\\' => some '\\'
  | _ => none

/-- Read up to the closing double quote. -/
def readBasic? : List Char → Option (List Char × List Char)
  | [] => none
  | '"' :: rest => some ([], rest)
  | '\\' :: 'u' :: a :: b :: c :: d :: rest => do
    let ch ← charOfHex? [a, b, c, d]
    let (text, rest) ← readBasic? rest
    return (ch :: text, rest)
  | '\\' :: 'U' :: a :: b :: c :: d :: e :: f :: g :: h :: rest => do
    let ch ← charOfHex? [a, b, c, d, e, f, g, h]
    let (text, rest) ← readBasic? rest
    return (ch :: text, rest)
  | '\\' :: c :: rest => do
    let ch ← escaped? c
    let (text, rest) ← readBasic? rest
    return (ch :: text, rest)
  | c :: rest =>
    if isControl c || c == '\\' then none
    else do
      let (text, rest) ← readBasic? rest
      return (c :: text, rest)

/-- Read up to the closing single quote. -/
def readLiteral? : List Char → Option (List Char × List Char)
  | [] => none
  | '\'' :: rest => some ([], rest)
  | c :: rest =>
    if isControl c then none
    else do
      let (text, rest) ← readLiteral? rest
      return (c :: text, rest)

/-- Where a reader of several lines stands in front of a character. -/
inductive Fold where
  /-- In the text. -/
  | text
  /-- Behind a backslash that must be the last of its line. -/
  | lineEnd
  /-- Among the blanks that such a backslash leaves out. -/
  | blanks
  deriving DecidableEq

/-- Read up to three closing double quotes; up to two more in front of them belong to the text. Lines end
in a line feed, whether a carriage return stands before it or not. -/
def readLines? : Fold → List Char → Option (List Char × List Char)
  | .lineEnd, '\r' :: '\n' :: rest => readLines? .blanks rest
  | .lineEnd, '\n' :: rest => readLines? .blanks rest
  | .lineEnd, ' ' :: rest => readLines? .lineEnd rest
  | .lineEnd, '\t' :: rest => readLines? .lineEnd rest
  | .lineEnd, _ => none
  | .blanks, '\r' :: '\n' :: rest => readLines? .blanks rest
  | .blanks, '\n' :: rest => readLines? .blanks rest
  | .blanks, ' ' :: rest => readLines? .blanks rest
  | .blanks, '\t' :: rest => readLines? .blanks rest
  | _, [] => none
  | _, '"' :: '"' :: '"' :: '"' :: '"' :: rest => some (['"', '"'], rest)
  | _, '"' :: '"' :: '"' :: '"' :: rest => some (['"'], rest)
  | _, '"' :: '"' :: '"' :: rest => some ([], rest)
  | _, '\r' :: '\n' :: rest => do
    let (text, rest) ← readLines? .text rest
    return ('\n' :: text, rest)
  | _, '\n' :: rest => do
    let (text, rest) ← readLines? .text rest
    return ('\n' :: text, rest)
  | _, '\\' :: 'u' :: a :: b :: c :: d :: rest => do
    let ch ← charOfHex? [a, b, c, d]
    let (text, rest) ← readLines? .text rest
    return (ch :: text, rest)
  | _, '\\' :: 'U' :: a :: b :: c :: d :: e :: f :: g :: h :: rest => do
    let ch ← charOfHex? [a, b, c, d, e, f, g, h]
    let (text, rest) ← readLines? .text rest
    return (ch :: text, rest)
  | _, '\\' :: '\r' :: '\n' :: rest => readLines? .blanks rest
  | _, '\\' :: '\n' :: rest => readLines? .blanks rest
  | _, '\\' :: ' ' :: rest => readLines? .lineEnd rest
  | _, '\\' :: '\t' :: rest => readLines? .lineEnd rest
  | _, '\\' :: c :: rest => do
    let ch ← escaped? c
    let (text, rest) ← readLines? .text rest
    return (ch :: text, rest)
  | _, c :: rest =>
    if isControl c || c == '\\' then none
    else do
      let (text, rest) ← readLines? .text rest
      return (c :: text, rest)

/-- Read up to three closing single quotes; up to two more in front of them belong to the text. -/
def readLiteralLines? : List Char → Option (List Char × List Char)
  | [] => none
  | '\'' :: '\'' :: '\'' :: '\'' :: '\'' :: rest => some (['\'', '\''], rest)
  | '\'' :: '\'' :: '\'' :: '\'' :: rest => some (['\''], rest)
  | '\'' :: '\'' :: '\'' :: rest => some ([], rest)
  | '\r' :: '\n' :: rest => do
    let (text, rest) ← readLiteralLines? rest
    return ('\n' :: text, rest)
  | c :: rest =>
    if isControl c && c != '\n' then none
    else do
      let (text, rest) ← readLiteralLines? rest
      return (c :: text, rest)

/-- Leave out a line end behind the opening quotes. -/
def skipFirstLineEnd : List Char → List Char
  | '\r' :: '\n' :: rest => rest
  | '\n' :: rest => rest
  | cs => cs

/-- Read a quoted text of one line. -/
def readQuoted? : List Char → Option (List Char × List Char)
  | '"' :: rest => readBasic? rest
  | '\'' :: rest => readLiteral? rest
  | _ => none

/-- Read a quoted text of one line or several. -/
def readText? : List Char → Option (List Char × List Char)
  | '"' :: '"' :: '"' :: rest => readLines? .text (skipFirstLineEnd rest)
  | '\'' :: '\'' :: '\'' :: rest => readLiteralLines? (skipFirstLineEnd rest)
  | cs => readQuoted? cs

/-! ## Writing -/

/-- The longest run of a character. -/
def longestRun (c : Char) (text : List Char) : Nat :=
  (text.foldl (fun (run, longest) x =>
    let run := if x = c then run + 1 else 0
    (run, max longest run)) (0, 0)).2

/-- What decides how a text can be quoted. -/
structure Traits where
  lines : Bool
  backslash : Bool
  /-- Control characters other than tabulators and line feeds. -/
  controls : Bool
  singleQuotes : Nat
  doubleQuotes : Nat

def Traits.of (text : List Char) : Traits where
  lines := text.contains '\n'
  backslash := text.contains '\\'
  controls := text.any fun c => isControl c && c != '\n'
  singleQuotes := longestRun '\'' text
  doubleQuotes := longestRun '"' text

/-- The ways to quote. -/
inductive Quoting where
  | basic
  | literal
  | basicLines
  | literalLines
  deriving DecidableEq

/-- The first way in which a text needs no escape; with escapes, over several lines only if it has
several. -/
def Traits.quoting (t : Traits) : Quoting :=
  if !t.controls && !t.backslash && t.doubleQuotes == 0 && !t.lines then .basic
  else if !t.controls && t.singleQuotes == 0 && !t.lines then .literal
  else if !t.controls && !t.backslash && t.doubleQuotes ≤ 2 then .basicLines
  else if !t.controls && t.singleQuotes ≤ 2 then .literalLines
  else if t.lines then .basicLines
  else .basic

/-- The code point of a control character in an escape. -/
def controlEscape (c : Char) : List Char :=
  let n := c.toNat
  ['\\', 'u', '0', '0', Nat.digitChar (n / 16), (Nat.digitChar (n % 16)).toUpper]

/-- A character between double quotes, other than a double quote. -/
def escapeChar (c : Char) : List Char :=
  match c with
  | '\x08' => ['\\', 'b']
  | '\t' => ['\\', 't']
  | '\n' => ['\\', 'n']
  | '\x0c' => ['\\', 'f']
  | '\r' => ['\\', 'r']
  | '\\' => ['\\', '\\']
  | c => if isControl c then controlEscape c else [c]

/-- The text between double quotes. Over several lines line feeds stay as they are, and so do double
quotes up to two in a row; `run` counts those before, since the last escape. -/
def escapeText (overLines : Bool) : Nat → List Char → List Char
  | _, [] => []
  | run, c :: rest =>
    if c = '"' then
      if overLines && run < 2 then '"' :: escapeText overLines (run + 1) rest
      else '\\' :: '"' :: escapeText overLines 0 rest
    else if c = '\n' ∧ overLines = true then '\n' :: escapeText overLines 0 rest
    else escapeChar c ++ escapeText overLines 0 rest

/-- Write a text in quotes. Quotes over several lines begin with a line end if the text has one. -/
def quote (text : List Char) : List Char :=
  let t := Traits.of text
  let lead := if t.lines then ['\n'] else []
  match t.quoting with
  | .basic => '"' :: escapeText false 0 text ++ ['"']
  | .literal => '\'' :: text ++ ['\'']
  | .basicLines => '"' :: '"' :: '"' :: lead ++ escapeText true 0 text ++ ['"', '"', '"']
  | .literalLines => '\'' :: '\'' :: '\'' :: lead ++ text ++ ['\'', '\'', '\'']

end RecordGate.Toml
