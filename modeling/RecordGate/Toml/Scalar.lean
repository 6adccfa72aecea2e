import RecordGate.Hex
import RecordGate.Toml.Table

/-!
# TOML scalars without quotes

Integers, floats, booleans, dates and times. A scalar is the longest run of characters that such words
are made of; each kind has a rule on whole words.
-/

namespace RecordGate.Toml
set_option autoImplicit false

/-- The characters that words are made of. -/
def isWordChar (c : Char) : Bool :=
  c.isAlphanum || c == '+' || c == '-' || c == '_' || c == '.' || c == ':'

/-- The value of a digit in a base up to sixteen, in letters of either case. -/
def digitIn? (base : Nat) (c : Char) : Option Nat := (Hex.digitValue? c).filter (· < base)

/-- The digits of a number in a base; single underscores may stand between digits. -/
def digits? (base : Nat) : List Char → Option (List Nat)
  | [] => none
  | [c] => (digitIn? base c).map ([·])
  | c :: '_' :: rest => do return (← digitIn? base c) :: (← digits? base rest)
  | c :: rest => do return (← digitIn? base c) :: (← digits? base rest)

/-- The number that digits spell. -/
def number (base : Nat) (digits : List Nat) : Nat := digits.foldl (fun n d => base * n + d) 0

/-- Split off a sign; tells whether the number is negative. -/
def splitSign : List Char → Bool × List Char
  | '-' :: rest => (true, rest)
  | '+' :: rest => (false, rest)
  | cs => (false, cs)

/-- The digits of a decimal number, which begins with zero only if it is zero. -/
def decimal? (cs : List Char) : Option (List Nat) :=
  match cs with
  | '0' :: _ :: _ => none
  | _ => digits? 10 cs

/-- An integer of 64 bits. Hexadecimal, octal and binary numbers have no sign. -/
def integer? (word : List Char) : Option Int :=
  let unsigned (base : Nat) (cs : List Char) : Option Int := do
    let n := number base (← digits? base cs)
    if n < 0x8000000000000000 then some n else none
  match word with
  | '0' :: 'x' :: rest => unsigned 16 rest
  | '0' :: 'o' :: rest => unsigned 8 rest
  | '0' :: 'b' :: rest => unsigned 2 rest
  | _ => do
    let (negative, rest) := splitSign word
    let n := number 10 (← decimal? rest)
    if negative then (if n ≤ 0x8000000000000000 then some (-n) else none)
    else (if n < 0x8000000000000000 then some n else none)

/-- Whether `mantissa · 10 ^ exponent` rounds to infinity among the binary numbers of 64 bits. -/
def overflows (mantissa : Nat) (exponent : Int) : Bool :=
  let width := (toString mantissa).length + exponent
  if mantissa = 0 ∨ width < 308 then false
  else if 310 < width then true
  else
    let bound := Nat.pow 2 1024 - Nat.pow 2 970
    if 0 ≤ exponent then bound ≤ mantissa * Nat.pow 10 exponent.toNat
    else bound * Nat.pow 10 exponent.natAbs ≤ mantissa

/-- The digits and the power of ten of a float: a decimal number with a fraction, an exponent, or
both. -/
def floatParts? (cs : List Char) : Option (List Nat × Int) :=
  let exponent? (cs : List Char) : Option Int := do
    let (negative, rest) := splitSign cs
    let n := number 10 (← digits? 10 rest)
    return if negative then -n else n
  let isExponentMark (c : Char) : Bool := c == 'e' || c == 'E'
  match cs.span fun c => c != '.' && !isExponentMark c with
  | (whole, '.' :: rest) =>
    match rest.span fun c => !isExponentMark c with
    | (fraction, []) => do
      let fraction ← digits? 10 fraction
      return ((← decimal? whole) ++ fraction, -fraction.length)
    | (fraction, _ :: rest) => do
      let fraction ← digits? 10 fraction
      return ((← decimal? whole) ++ fraction, (← exponent? rest) - fraction.length)
  | (whole, _ :: rest) => do return (← decimal? whole, ← exponent? rest)
  | (_, []) => none

/-- Whether a word is a float. A positive float must be finite or `inf`. -/
def isFloat (word : List Char) : Bool :=
  let (negative, rest) := splitSign word
  if rest = ['i', 'n', 'f'] ∨ rest = ['n', 'a', 'n'] then true
  else
    match floatParts? rest with
    | some (digits, exponent) => negative || !overflows (number 10 digits) exponent
    | none => false

/-! ## Dates and times -/

/-- A number of two digits. -/
def twoDigits? (a b : Char) : Option Nat := do return 10 * (← digitIn? 10 a) + (← digitIn? 10 b)

/-- Whether two digits spell a number within bounds. -/
def twoDigitsWithin (lo hi : Nat) (a b : Char) : Bool :=
  (twoDigits? a b).any fun n => lo ≤ n && n ≤ hi

def daysInMonth (year month : Nat) : Nat :=
  if month = 2 then
    if year % 4 = 0 ∧ (year % 100 ≠ 0 ∨ year % 400 = 0) then 29 else 28
  else if month = 4 ∨ month = 6 ∨ month = 9 ∨ month = 11 then 30
  else 31

/-- Split off a date that exists. -/
def splitDate? : List Char → Option (List Char)
  | y1 :: y2 :: y3 :: y4 :: '-' :: m1 :: m2 :: '-' :: d1 :: d2 :: rest => do
    let century ← twoDigits? y1 y2
    let year ← twoDigits? y3 y4
    let month ← twoDigits? m1 m2
    if twoDigitsWithin 1 12 m1 m2 && twoDigitsWithin 1 (daysInMonth (100 * century + year) month) d1 d2
    then some rest else none
  | _ => none

/-- Split off a time of day, with a fraction of a second or without. -/
def splitTime? : List Char → Option (List Char)
  | h1 :: h2 :: ':' :: m1 :: m2 :: ':' :: s1 :: s2 :: rest =>
    if twoDigitsWithin 0 23 h1 h2 && twoDigitsWithin 0 59 m1 m2 && twoDigitsWithin 0 60 s1 s2 then
      match rest with
      | '.' :: fraction =>
        match fraction.span Char.isDigit with
        | ([], _) => none
        | (_, rest) => some rest
      | _ => some rest
    else none
  | _ => none

/-- Whether a text is an offset from universal time. -/
def isOffset : List Char → Bool
  | ['Z'] | ['z'] => true
  | [sign, h1, h2, ':', m1, m2] =>
    (sign == '+' || sign == '-') && twoDigitsWithin 0 23 h1 h2 && twoDigitsWithin 0 59 m1 m2
  | _ => false

/-- Whether a text is a time of day, with an offset or without. -/
def isTimeWithOffset (cs : List Char) : Bool :=
  match splitTime? cs with
  | some [] => true
  | some rest => isOffset rest
  | none => false

/-- Whether a word is a date, a time of day, or both with a letter between. -/
def isDate (word : List Char) : Bool :=
  match splitDate? word with
  | some [] => true
  | some ('T' :: time) => isTimeWithOffset time
  | some ('t' :: time) => isTimeWithOffset time
  | some _ => false
  | none => splitTime? word == some []

/-- The scalar that a word is. -/
def scalar? (word : List Char) : Option Item :=
  if word = ['t', 'r', 'u', 'e'] then some (.boolean true)
  else if word = ['f', 'a', 'l', 's', 'e'] then some (.boolean false)
  else if isDate word then some (.date (String.ofList word))
  else if isFloat word then some (.float (String.ofList word))
  else (integer? word).map .integer

/-- Whether a time of day begins here, as it may behind a date and one blank. -/
def beginsTime : List Char → Bool
  | h1 :: h2 :: ':' :: _ => h1.isDigit && h2.isDigit
  | _ => false

/-- Read a scalar from the front of a text. A blank may stand between a date and its time. -/
def readScalar? (cs : List Char) : Option (Item × List Char) :=
  let (word, rest) := cs.span isWordChar
  match splitDate? word, rest with
  | some [], ' ' :: more =>
    if beginsTime more then
      let (time, rest) := more.span isWordChar
      if isTimeWithOffset time then some (.date (String.ofList (word ++ ' ' :: time)), rest) else none
    else some (.date (String.ofList word), rest)
  | _, _ => (scalar? word).map (·, rest)

end RecordGate.Toml
