/-!
# Octets as hexadecimal text

Two lower-case digits to an octet, the high one first. Reading takes either case.
-/

namespace RecordGate.Hex
set_option autoImplicit false

/-- The digit of a number below sixteen. -/
def digit (n : Nat) : Char := Nat.digitChar n

/-- The two digits of an octet. -/
def octet (b : UInt8) : List Char := [digit (b.toNat / 16), digit (b.toNat % 16)]

/-- The text of a list of octets. -/
def encode (bytes : List UInt8) : String := String.ofList (bytes.flatMap octet)

/-- The value of a digit of either case. -/
def digitValue? (c : Char) : Option Nat :=
  if '0' ≤ c ∧ c ≤ '9' then some (c.toNat - '0'.toNat)
  else if 'a' ≤ c ∧ c ≤ 'f' then some (c.toNat - 'a'.toNat + 10)
  else if 'A' ≤ c ∧ c ≤ 'F' then some (c.toNat - 'A'.toNat + 10)
  else none

/-- The octets that pairs of digits spell. -/
def decodeChars? : List Char → Option (List UInt8)
  | [] => some []
  | h :: l :: rest => do
    let high ← digitValue? h
    let low ← digitValue? l
    let bytes ← decodeChars? rest
    return UInt8.ofNat (high * 16 + low) :: bytes
  | [_] => none

/-- Read the text of a list of octets. -/
def decode? (s : String) : Option (List UInt8) := decodeChars? s.toList

end RecordGate.Hex
