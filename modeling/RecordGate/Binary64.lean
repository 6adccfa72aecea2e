import RecordGate.Hex

/-!
# Binary floating-point numbers

A number is kept as its 64 bits. Comparison is decided on the bits: a NaN equals nothing, the two
zeros are equal, all else is equal when the bits are. Only arithmetic goes through `Float`.
-/

namespace RecordGate
set_option autoImplicit false

/-- A binary floating-point number of 64 bits, sign first. -/
structure Binary64 where
  bits : UInt64
  deriving DecidableEq, Inhabited

namespace Binary64

/-- The number without its sign. -/
def magnitude (x : Binary64) : UInt64 := x.bits &&& 0x7fffffffffffffff

/-- Not a number: an exponent of ones and a fraction that is not zero. -/
def isNaN (x : Binary64) : Bool := 0x7ff0000000000000 < x.magnitude

/-- One of the two zeros. -/
def isZero (x : Binary64) : Bool := x.magnitude == 0

/-- Numeric equality. -/
def eq (x y : Binary64) : Bool :=
  !x.isNaN && !y.isNaN && (x.bits == y.bits || (x.isZero && y.isZero))

def toFloat (x : Binary64) : Float := Float.ofBits x.bits

def ofFloat (x : Float) : Binary64 := ⟨x.toBits⟩

/-- The sum, rounded to the nearest number. -/
def add (x y : Binary64) : Binary64 := ofFloat (x.toFloat + y.toFloat)

/-- The eight octets of the bits, highest first. -/
def octets (x : Binary64) : List UInt8 :=
  (List.range 8).map fun i => (x.bits >>> UInt64.ofNat (8 * (7 - i))).toUInt8

/-- The bits as sixteen hexadecimal digits. -/
def hex (x : Binary64) : String := Hex.encode x.octets

/-- The number with the given octets, of which there must be eight. -/
def ofOctets? (octets : List UInt8) : Option Binary64 :=
  if octets.length = 8 then some ⟨octets.foldl (fun bits b => bits <<< 8 ||| b.toUInt64) 0⟩ else none

/-- Some value that is not a number. -/
def nan : Binary64 := ⟨0x7ff8000000000000⟩

theorem eq_iff {x y : Binary64} :
    x.eq y = true ↔
      x.isNaN = false ∧ y.isNaN = false ∧ (x = y ∨ (x.isZero = true ∧ y.isZero = true)) := by
  cases x; cases y
  simp [eq, and_assoc]

end Binary64

end RecordGate
