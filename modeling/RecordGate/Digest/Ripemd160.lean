/-!
# RIPEMD-160

The hash runs over blocks of sixteen little-endian words. Each block passes through two lines of
eighty steps that differ in the order of words, the rotations, the constants and the order of the
five mixing functions; the outcomes of both are added into the chaining value.
-/

namespace RecordGate.Ripemd160
set_option autoImplicit false

/-- The five words that are carried from block to block. -/
structure Chain where
  a : UInt32
  b : UInt32
  c : UInt32
  d : UInt32
  e : UInt32

/-- The chaining value in front of the first block. -/
def start : Chain := ⟨0x67452301, 0xefcdab89, 0x98badcfe, 0x10325476, 0xc3d2e1f0⟩

/-- The five mixing functions. -/
def mix : Nat → UInt32 → UInt32 → UInt32 → UInt32
  | 0, x, y, z => x ^^^ y ^^^ z
  | 1, x, y, z => (x &&& y) ||| (~~~x &&& z)
  | 2, x, y, z => (x ||| ~~~y) ^^^ z
  | 3, x, y, z => (x &&& z) ||| (y &&& ~~~z)
  | _, x, y, z => x ^^^ (y ||| ~~~z)

def rotateLeft (x n : UInt32) : UInt32 := (x <<< n) ||| (x >>> (32 - n))

/-- Sixteen steps of a line: the mixing function, the added constant, and for each step the word that
is added and the rotation. -/
structure Round where
  mixing : Nat
  constant : UInt32
  words : List Nat
  rotations : List UInt32

def leftLine : List Round := [
  ⟨0, 0x00000000, [0, 1, 2, 3, 4, 5, 6, 7, 8, 9, 10, 11, 12, 13, 14, 15],
    [11, 14, 15, 12, 5, 8, 7, 9, 11, 13, 14, 15, 6, 7, 9, 8]⟩,
  ⟨1, 0x5a827999, [7, 4, 13, 1, 10, 6, 15, 3, 12, 0, 9, 5, 2, 14, 11, 8],
    [7, 6, 8, 13, 11, 9, 7, 15, 7, 12, 15, 9, 11, 7, 13, 12]⟩,
  ⟨2, 0x6ed9eba1, [3, 10, 14, 4, 9, 15, 8, 1, 2, 7, 0, 6, 13, 11, 5, 12],
    [11, 13, 6, 7, 14, 9, 13, 15, 14, 8, 13, 6, 5, 12, 7, 5]⟩,
  ⟨3, 0x8f1bbcdc, [1, 9, 11, 10, 0, 8, 12, 4, 13, 3, 7, 15, 14, 5, 6, 2],
    [11, 12, 14, 15, 14, 15, 9, 8, 9, 14, 5, 6, 8, 6, 5, 12]⟩,
  ⟨4, 0xa953fd4e, [4, 0, 5, 9, 7, 12, 2, 10, 14, 1, 3, 8, 11, 6, 15, 13],
    [9, 15, 5, 11, 6, 8, 13, 12, 5, 12, 13, 14, 11, 8, 5, 6]⟩]

def rightLine : List Round := [
  ⟨4, 0x50a28be6, [5, 14, 7, 0, 9, 2, 11, 4, 13, 6, 15, 8, 1, 10, 3, 12],
    [8, 9, 9, 11, 13, 15, 15, 5, 7, 7, 8, 11, 14, 14, 12, 6]⟩,
  ⟨3, 0x5c4dd124, [6, 11, 3, 7, 0, 13, 5, 10, 14, 15, 8, 12, 4, 9, 1, 2],
    [9, 13, 15, 7, 12, 8, 9, 11, 7, 7, 12, 7, 6, 15, 13, 11]⟩,
  ⟨2, 0x6d703ef3, [15, 5, 1, 3, 7, 14, 6, 9, 11, 8, 12, 2, 10, 0, 4, 13],
    [9, 7, 15, 11, 8, 6, 6, 14, 12, 13, 5, 14, 13, 13, 7, 5]⟩,
  ⟨1, 0x7a6d76e9, [8, 6, 4, 1, 3, 11, 15, 0, 5, 12, 2, 13, 9, 7, 10, 14],
    [15, 5, 8, 11, 14, 14, 6, 14, 6, 9, 12, 9, 12, 5, 15, 8]⟩,
  ⟨0, 0x00000000, [12, 15, 10, 4, 1, 5, 8, 7, 6, 2, 13, 14, 0, 3, 9, 11],
    [8, 5, 12, 9, 12, 5, 14, 6, 8, 13, 6, 5, 15, 13, 11, 11]⟩]

/-- One step on the five words. -/
def step (mixing : Nat) (constant word rotation : UInt32) (h : Chain) : Chain where
  a := h.e
  b := rotateLeft (h.a + mix mixing h.b h.c h.d + word + constant) rotation + h.e
  c := h.b
  d := rotateLeft h.c 10
  e := h.d

/-- The sixteen steps of a round, over the words of a block. -/
def Round.run (block : Array UInt32) (h : Chain) (r : Round) : Chain :=
  (r.words.zip r.rotations).foldl
    (fun h s => step r.mixing r.constant (block.getD s.1 0) s.2 h) h

/-- Take a block into the chaining value. -/
def absorb (h : Chain) (block : Array UInt32) : Chain :=
  let l := leftLine.foldl (Round.run block) h
  let r := rightLine.foldl (Round.run block) h
  ⟨h.b + l.c + r.d, h.c + l.d + r.e, h.d + l.e + r.a, h.e + l.a + r.b, h.a + l.b + r.c⟩

/-- The octets of a word, lowest first. -/
def littleEndian (w : UInt32) : List UInt8 :=
  [w.toUInt8, (w >>> 8).toUInt8, (w >>> 16).toUInt8, (w >>> 24).toUInt8]

/-- The words that octets spell, four at a time. -/
def words : List UInt8 → List UInt32
  | a :: b :: c :: d :: rest =>
    (a.toUInt32 ||| (b.toUInt32 <<< 8) ||| (c.toUInt32 <<< 16) ||| (d.toUInt32 <<< 24)) :: words rest
  | _ => []

/-- The message, a one bit, zero bits up to eight octets short of a block, and the message's length in
bits. -/
def pad (message : List UInt8) : List UInt8 :=
  let bits := UInt64.ofNat (8 * message.length)
  message ++ (0x80 : UInt8) :: List.replicate ((119 - message.length % 64) % 64) 0 ++
    littleEndian bits.toUInt32 ++ littleEndian (bits >>> 32).toUInt32

/-- The first blocks of sixty-four octets of a padded message. -/
def blocks : Nat → List UInt8 → List (Array UInt32)
  | 0, _ => []
  | n + 1, octets => (words (octets.take 64)).toArray :: blocks n (octets.drop 64)

/-- The twenty octets of a message's hash. -/
def hash (message : List UInt8) : List UInt8 :=
  let padded := pad message
  let h := (blocks (padded.length / 64) padded).foldl absorb start
  littleEndian h.a ++ littleEndian h.b ++ littleEndian h.c ++ littleEndian h.d ++ littleEndian h.e

@[simp] theorem length_hash (message : List UInt8) : (hash message).length = 20 := rfl

end RecordGate.Ripemd160
