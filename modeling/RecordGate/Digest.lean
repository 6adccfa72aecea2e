import RecordGate.Hex
import RecordGate.Digest.Ripemd160
import RecordGate.OrderedMap

/-!
# Record digests

A digest is twenty octets. Digests are ordered octet by octet and written in hexadecimal.
-/

namespace RecordGate
set_option autoImplicit false

/-- The address of a record inside a namespace. -/
structure Digest where
  bytes : List UInt8
  size_eq : bytes.length = 20
  deriving DecidableEq

namespace Digest

instance : Inhabited Digest := ⟨⟨List.replicate 20 0, rfl⟩⟩

/-- The digest with the given octets, if there are twenty. -/
def ofBytes? (bytes : List UInt8) : Option Digest :=
  if h : bytes.length = 20 then some ⟨bytes, h⟩ else none

/-- The digest of a message. -/
def ofMessage (message : List UInt8) : Digest :=
  ⟨Ripemd160.hash message, Ripemd160.length_hash message⟩

/-- The first octet, by which records are spread over nodes. -/
def first (d : Digest) : UInt8 :=
  d.bytes.head (List.ne_nil_of_length_pos (by rw [d.size_eq]; omega))

/-- The forty lower-case digits of a digest. -/
def hex (d : Digest) : String := Hex.encode d.bytes

instance : ToString Digest := ⟨hex⟩

instance : LT Digest := ⟨fun a b => a.bytes < b.bytes⟩

instance : DecidableLT Digest := fun a b => inferInstanceAs (Decidable (a.bytes < b.bytes))

instance : KeyOrder UInt8 where
  trans := UInt8.lt_trans
  irrefl := UInt8.lt_irrefl
  total _ _ h h' := UInt8.le_antisymm (UInt8.not_lt.1 h') (UInt8.not_lt.1 h)

instance : KeyOrder Digest where
  trans h h' := KeyOrder.trans (κ := List UInt8) h h'
  irrefl d := KeyOrder.irrefl d.bytes
  total a b hab hba := by
    have : a.bytes = b.bytes := KeyOrder.total _ _ hab hba
    cases a; cases b; simp_all

theorem ofBytes?_eq_some_iff {bytes : List UInt8} {d : Digest} :
    ofBytes? bytes = some d ↔ d.bytes = bytes := by
  unfold ofBytes?
  split
  · next h =>
    rw [Option.some.injEq]
    constructor
    · rintro rfl; rfl
    · intro hb; cases d; simp_all
  · next h =>
    constructor
    · intro hn; cases hn
    · intro hb; exact absurd (hb ▸ d.size_eq) h

end Digest

end RecordGate
