import RecordGate.Gate.Error

/-!
# Keys from what callers give

Callers give user keys or digests, one or many. A collection that is absent is rejected, an empty one
makes no keys.
-/

namespace RecordGate
set_option autoImplicit false

/-- The key of a user key. -/
def keyOf (ns setName : String) (userKey : Value) : Except GateError Key :=
  (Key.ofValue ns setName userKey).mapError .invalidKey

/-- The keys of user keys, in their order; the first that is none decides the error. -/
def keysOf (ns setName : String) : Option (List Value) → Except GateError (List Key)
  | none => .error (.missingParameter "user keys")
  | some userKeys => userKeys.mapM (keyOf ns setName)

/-- The keys of digests, in their order. -/
def keysOfDigests (ns : String) : Option (List Digest) → Except GateError (List Key)
  | none => .error (.missingParameter "digests")
  | some digests => .ok (digests.map (Key.ofDigest ns))

/-- The digest of a user key. -/
def digestOf (setName : String) (userKey : Value) : Except GateError Digest :=
  (Digest.compute setName userKey).mapError .invalidKey

end RecordGate
