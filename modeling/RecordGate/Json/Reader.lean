import RecordGate.Hex
import RecordGate.Json.Numeral

/-!
# Reading JSON

Every reader takes a text and returns what it read with the rest of the text, or nothing where the text is
no JSON.
-/

namespace RecordGate.Json
set_option autoImplicit false

/-- Reads something from the front of a text. -/
abbrev Reader (α : Type) := List Char → Option (α × List Char)

def isSpace (c : Char) : Bool := c == ' ' || c == '\t' || c == '\n' || c == '\r'

def skipSpaces (cs : List Char) : List Char := cs.dropWhile isSpace

/-! ## Strings -/

/-- The code unit of four hexadecimal digits. -/
def codeUnit? (a b c d : Char) : Option Nat := do
  let digits ← [a, b, c, d].mapM Hex.digitValue?
  return digits.foldl (fun n d => 16 * n + d) 0

def isHighSurrogate (n : Nat) : Bool := 0xd800 ≤ n && n < 0xdc00

def isLowSurrogate (n : Nat) : Bool := 0xdc00 ≤ n && n < 0xe000

/-- The character of a surrogate pair. -/
def ofSurrogates (high low : Nat) : Char :=
  Char.ofNat (0x10000 + (high - 0xd800) * 0x400 + (low - 0xdc00))

/-- The character that an escape of one letter stands for. -/
def escaped? : Char → Option Char
  | '"' => some '"'
  | '\\' => some '\\'
  | '/' => some '/'
  | 'b' => some '\x08'
  | 'f' => some '\x0c'
  | 'n' => some '\n'
  | 'r' => some '\r'
  | 't' => some '\t'
  | _ => none

/-- The code units of a string up to the closing quote, each a character or half of a surrogate pair. -/
def readUnits? : Reader (List (Char ⊕ Nat))
  | [] => none
  | '"' :: rest => some ([], rest)
  | '\\' :: 'u' :: a :: b :: c :: d :: rest => do
    let n ← codeUnit? a b c d
    let (units, rest) ← readUnits? rest
    let unit := if isHighSurrogate n || isLowSurrogate n then .inr n else .inl (Char.ofNat n)
    return (unit :: units, rest)
  | '\\' :: c :: rest => do
    let ch ← escaped? c
    let (units, rest) ← readUnits? rest
    return (.inl ch :: units, rest)
  | c :: rest =>
    if c.toNat < 0x20 || c == '\\' then none
    else do
      let (units, rest) ← readUnits? rest
      return (.inl c :: units, rest)

/-- The text of code units, if all surrogates are paired. -/
def pairUnits? : List (Char ⊕ Nat) → Option (List Char)
  | [] => some []
  | .inl c :: rest => (pairUnits? rest).map (c :: ·)
  | .inr high :: .inr low :: rest =>
    if isHighSurrogate high && isLowSurrogate low then
      (pairUnits? rest).map (ofSurrogates high low :: ·)
    else none
  | .inr _ :: _ => none

/-- Read a string, behind its opening quote; it may be unusable. -/
def readString? : Reader (Option String) := fun cs =>
  (readUnits? cs).map fun (units, rest) => ((pairUnits? units).map String.ofList, rest)

/-! ## Numbers -/

/-- Read decimal digits, at least one. -/
def readDigits? : Reader (List Nat) := fun cs =>
  match cs.span Char.isDigit with
  | ([], _) => none
  | (digits, rest) => some (digits.map fun c => c.toNat - '0'.toNat, rest)

/-- Read the digits before the point: a zero, or digits that do not begin with one. -/
def readWhole? : Reader (List Nat)
  | '0' :: rest => if rest.head?.any Char.isDigit then none else some ([0], rest)
  | cs => readDigits? cs

/-- Read an exponent, if one begins here. -/
def readExponent? : Reader (Option (Bool × List Nat)) := fun cs =>
  let signed? (cs : List Char) : Option (Option (Bool × List Nat) × List Char) :=
    match cs with
    | '-' :: rest => (readDigits? rest).map fun (ds, rest) => (some (true, ds), rest)
    | '+' :: rest => (readDigits? rest).map fun (ds, rest) => (some (false, ds), rest)
    | _ => (readDigits? cs).map fun (ds, rest) => (some (false, ds), rest)
  match cs with
  | 'e' :: rest => signed? rest
  | 'E' :: rest => signed? rest
  | _ => some (none, cs)

/-- Read a number. -/
def readNumeral? : Reader Numeral := fun cs => do
  let (negative, cs) := match cs with
    | '-' :: rest => (true, rest)
    | _ => (false, cs)
  let (whole, cs) ← readWhole? cs
  let (fraction, point, cs) ← match cs with
    | '.' :: rest => (readDigits? rest).map fun (ds, rest) => (ds, true, rest)
    | _ => some ([], false, cs)
  let (exponent, cs) ← readExponent? cs
  return ({ negative, whole, fraction, exponent, isFloat := point || exponent.isSome }, cs)

/-! ## Values -/

/-- Read what stands between commas, up to a closing character. The number bounds how much. -/
def readSeparated? {α : Type} (close : Char) (one : Reader α) : Nat → Reader (List α)
  | 0, _ => none
  | n + 1, cs => do
    let (first, rest) ← one cs
    match skipSpaces rest with
    | [] => none
    | c :: rest =>
      if c = close then return ([first], rest)
      else if c = ',' then
        let (others, rest) ← readSeparated? close one n rest
        return (first :: others, rest)
      else none

/-- Read one member of an object. -/
def readMember? (item : Reader Json) : Reader (Option String × Json) := fun cs => do
  match skipSpaces cs with
  | '"' :: rest =>
    let (name, rest) ← readString? rest
    match skipSpaces rest with
    | ':' :: rest =>
      let (value, rest) ← item rest
      return ((name, value), rest)
    | _ => none
  | _ => none

/-- Read a value that nests no deeper than a bound, with no more items at any depth. More than the number
of characters bounds nothing. -/
def readValue? : Nat → Reader Json
  | depth, cs =>
    match skipSpaces cs with
    | 'n' :: 'u' :: 'l' :: 'l' :: rest => some (null, rest)
    | 't' :: 'r' :: 'u' :: 'e' :: rest => some (bool true, rest)
    | 'f' :: 'a' :: 'l' :: 's' :: 'e' :: rest => some (bool false, rest)
    | '"' :: rest =>
      (readString? rest).map fun (text, rest) =>
        (match text with
          | some s => string s
          | none => unusable, rest)
    | '[' :: rest =>
      match depth with
      | 0 => none
      | depth + 1 =>
        match skipSpaces rest with
        | ']' :: rest => some (array [], rest)
        | _ =>
          (readSeparated? ']' (readValue? depth) (depth + 1) rest).map
            fun (items, rest) => (array items, rest)
    | '\x7b' :: rest =>
      match depth with
      | 0 => none
      | depth + 1 =>
        match skipSpaces rest with
        | '\x7d' :: rest => some (object [], rest)
        | _ =>
          (readSeparated? '\x7d' (readMember? (readValue? depth)) (depth + 1) rest).map
            fun (members, rest) => (object members, rest)
    | cs => (readNumeral? cs).map fun (n, rest) => (n.toJson, rest)

/-- The tree of a JSON text. -/
def parse? (text : String) : Option Json :=
  let cs := text.toList
  match readValue? (cs.length + 1) cs with
  | some (value, rest) => if (skipSpaces rest).isEmpty then some value else none
  | none => none

end RecordGate.Json
