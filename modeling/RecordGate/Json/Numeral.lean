import RecordGate.Json

/-!
# JSON numbers

A number without fraction and exponent is whole if it fits 64 bits, and a float otherwise. Floats are
scaled in binary arithmetic: the leading digits that fit 64 bits are one whole number, which is then
multiplied or divided by a power of ten.
-/

namespace RecordGate.Json
set_option autoImplicit false

/-- The parts of a number's text; digits are numbers below ten. -/
structure Numeral where
  negative : Bool
  whole : List Nat
  fraction : List Nat
  /-- The exponent, with its sign taken apart. -/
  exponent : Option (Bool × List Nat)
  /-- Whether a point or an exponent was written. -/
  isFloat : Bool

/-- Leading digits as one number, as long as it fits 64 bits; and how many digits are left. -/
def significand : Nat → List Nat → Nat × Nat
  | n, [] => (n, 0)
  | n, d :: ds => if 10 * n + d < UInt64.size then significand (10 * n + d) ds else (n, ds.length + 1)

/-- A power of ten with an exponent up to 308. -/
def powerOfTen (e : Nat) : Float := Float.ofScientific 1 false e

/-- Divide by `10 ^ e`, at most 308 powers at a time; zero stays zero. The number bounds the divisions. -/
def scaleDown : Nat → Float → Nat → Float
  | 0, x, _ => x
  | n + 1, x, e =>
    if e ≤ 308 then x / powerOfTen e
    else if x == 0 then x
    else scaleDown n (x / powerOfTen 308) (e - 308)

/-- `significand · 10 ^ exponent`, unless that is beyond all floats. -/
def scale? (significand : Nat) (exponent : Int) : Option Float :=
  let x := (UInt64.ofNat significand).toFloat
  if exponent < 0 then some (scaleDown (exponent.natAbs / 308 + 1) x exponent.natAbs)
  else if exponent ≤ 308 then
    let y := x * powerOfTen exponent.natAbs
    if y.isInf then none else some y
  else if x == 0 then some x
  else none

namespace Numeral

/-- The number that digits spell. -/
def value (digits : List Nat) : Nat := digits.foldl (fun n d => 10 * n + d) 0

/-- The magnitude of a float, unless it is beyond all floats. Digits that do not fit the significand
raise the exponent if they stand before the point and are dropped behind it. An exponent beyond 32 bits
leaves zero, or is too large. -/
def magnitude? (n : Numeral) : Option Float :=
  let (whole, cut) := significand 0 n.whole
  let (digits, dropped) := significand whole n.fraction
  let point : Int := cut - (n.fraction.length - dropped : Nat)
  match n.exponent with
  | none => scale? digits point
  | some (down, exponent) =>
    let e := value exponent
    if 0x80000000 ≤ e then
      if digits = 0 ∨ down = true then some 0 else none
    else
      let sum : Int := if down then point - e else point + e
      scale? digits (max (-0x80000000) (min sum 0x7fffffff))

/-- The float of a numeral. -/
def toFloat (n : Numeral) : Json :=
  match n.magnitude? with
  | some x => float (.ofFloat (if n.negative then -x else x))
  | none => unusable

/-- What a numeral stands for. -/
def toJson (n : Numeral) : Json :=
  let v := value n.whole
  if n.isFloat then n.toFloat
  else if n.negative then
    if 0 < v ∧ v ≤ 0x8000000000000000 then integer (-v) else n.toFloat
  else if v < UInt64.size then integer v
  else n.toFloat

end Numeral

end RecordGate.Json
