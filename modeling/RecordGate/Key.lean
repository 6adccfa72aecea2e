import RecordGate.Value
import RecordGate.Digest

/-!
# Record keys

A record is addressed by a namespace and a digest. The digest is the hash of the set name, a tag for
the type of the user key, and the user key's octets; the user key itself is not kept. A key that was
built from a digest knows no set name and still addresses the same record.
-/

namespace RecordGate
set_option autoImplicit false

/-- A value that can be hashed into a digest. -/
inductive UserKey where
  | int (i : Int64)
  | text (s : String)
  | bytes (b : List UInt8)
  deriving DecidableEq

/-- Why a key or digest was not accepted. -/
inductive KeyProblem where
  /-- Values of this type are no user keys. -/
  | unusable (typeName : String)
  /-- A digest of this many octets. -/
  | digestSize (got : Nat)
  /-- A problem given in words. -/
  | stated (text : String)
  deriving DecidableEq

def KeyProblem.message : KeyProblem → String
  | unusable typeName => s!"{typeName} cannot be used as a user key"
  | digestSize got => s!"digest must be 20 bytes, got {got}"
  | stated text => text

namespace UserKey

/-- The user key that a value stands for: integers, strings and octets are user keys. -/
def ofValue : Value → Except KeyProblem UserKey
  | .int i => .ok (int i)
  | .string s => .ok (text s)
  | .bytes b => .ok (bytes b)
  | v => .error (.unusable v.typeName)

/-- The octet that tells the types of user keys apart. -/
def tag : UserKey → UInt8
  | int _ => 1
  | text _ => 3
  | bytes _ => 4

/-- The eight octets of an integer, highest first. -/
def bigEndian (i : Int64) : List UInt8 :=
  let w := i.toUInt64
  [(w >>> 56).toUInt8, (w >>> 48).toUInt8, (w >>> 40).toUInt8, (w >>> 32).toUInt8,
    (w >>> 24).toUInt8, (w >>> 16).toUInt8, (w >>> 8).toUInt8, w.toUInt8]

/-- The octets of a user key. -/
def payload : UserKey → List UInt8
  | int i => bigEndian i
  | text s => s.toUTF8.toList
  | bytes b => b

/-- The octets that are hashed for a user key within a set. -/
def preimage (setName : String) (key : UserKey) : List UInt8 :=
  setName.toUTF8.toList ++ key.tag :: key.payload

end UserKey

/-- The digest of a user key within a set. -/
def Digest.ofUserKey (setName : String) (key : UserKey) : Digest :=
  Digest.ofMessage (key.preimage setName)

/-- The digest of a value within a set, if the value is a user key. -/
def Digest.compute (setName : String) (value : Value) : Except KeyProblem Digest :=
  (UserKey.ofValue value).map (Digest.ofUserKey setName)

/-- The digest with the given octets, of which there must be twenty. -/
def Digest.ofBytes (bytes : List UInt8) : Except KeyProblem Digest :=
  match Digest.ofBytes? bytes with
  | some d => .ok d
  | none => .error (.digestSize bytes.length)

/-- What identifies a stored record. -/
structure RecordId where
  /-- The namespace. -/
  ns : String
  digest : Digest
  deriving DecidableEq, Inhabited

namespace RecordId

/-- By namespace, then by digest. -/
instance : LT RecordId where
  lt a b := a.ns < b.ns ∨ a.ns = b.ns ∧ a.digest < b.digest

instance : DecidableLT RecordId := fun a b =>
  inferInstanceAs (Decidable (a.ns < b.ns ∨ a.ns = b.ns ∧ a.digest < b.digest))

theorem lt_iff {a b : RecordId} :
    a < b ↔ a.ns < b.ns ∨ a.ns = b.ns ∧ a.digest < b.digest := Iff.rfl

instance : KeyOrder RecordId where
  irrefl a h := by
    rcases lt_iff.1 h with h | ⟨_, h⟩
    · exact KeyOrder.irrefl _ h
    · exact KeyOrder.irrefl _ h
  trans h h' := by
    rcases lt_iff.1 h with h | ⟨e, h⟩ <;> rcases lt_iff.1 h' with h' | ⟨e', h'⟩
    · exact lt_iff.2 (.inl (KeyOrder.trans h h'))
    · exact lt_iff.2 (.inl (e' ▸ h))
    · exact lt_iff.2 (.inl (e ▸ h'))
    · exact lt_iff.2 (.inr ⟨e.trans e', KeyOrder.trans h h'⟩)
  total a b hab hba := by
    have hn : a.ns = b.ns := KeyOrder.total _ _ (fun h => hab (.inl h)) (fun h => hba (.inl h))
    have hd : a.digest = b.digest :=
      KeyOrder.total _ _ (fun h => hab (.inr ⟨hn, h⟩)) (fun h => hba (.inr ⟨hn.symm, h⟩))
    cases a; cases b; simp_all

end RecordId

/-- A reference to a record. The set name is kept where it is known; it does not identify. -/
structure Key where
  /-- The namespace. -/
  ns : String
  setName : Option String
  digest : Digest
  deriving DecidableEq

namespace Key

/-- The key of a user key within a set. -/
def ofUserKey (ns setName : String) (key : UserKey) : Key :=
  ⟨ns, some setName, Digest.ofUserKey setName key⟩

/-- The key of a value within a set, if the value is a user key. -/
def ofValue (ns setName : String) (value : Value) : Except KeyProblem Key :=
  (UserKey.ofValue value).map (ofUserKey ns setName)

/-- The key of a digest, taken as it is. -/
def ofDigest (ns : String) (digest : Digest) : Key := ⟨ns, none, digest⟩

/-- The identity of the record that a key refers to. -/
def id (k : Key) : RecordId := ⟨k.ns, k.digest⟩

/-- Keys are the same when they refer to one record. -/
def same (a b : Key) : Bool := a.id == b.id

/-- Namespace, set name and digest with colons between. -/
def display (k : Key) : String :=
  match k.setName with
  | some setName => s!"{k.ns}:{setName}:{k.digest}"
  | none => s!"{k.ns}::{k.digest}"

instance : ToString Key := ⟨display⟩

end Key

end RecordGate
