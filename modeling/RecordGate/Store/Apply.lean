import RecordGate.Policy
import RecordGate.Store.StoredRecord
import RecordGate.Store.Refusal

/-!
# Commands on one record

`execute` runs a list of operations on a record that may be missing. The policy is checked first, then
the writes run in order, then the reads look at the record as it is after them. A command that fails
leaves the record as it was, for the new record is only returned when all went well.
-/

namespace RecordGate
set_option autoImplicit false

/-- What becomes of the bins that a write makes. -/
inductive Disposition where
  /-- They are the record's bins. -/
  | apply
  /-- They are kept as one more version. -/
  | duplicate
  deriving DecidableEq

/-- Check what a policy says about existence. -/
def checkExistence (existing : Option StoredRecord) (policy : WritePolicy) : Except Refusal Unit :=
  match policy.existence, existing with
  | .createOnly, some _ => .error .recordExists
  | .updateOnly, none => .error .recordMissing
  | .replaceOnly, none => .error .recordMissing
  | _, _ => .ok ()

/-- Check what a policy says about the stored generation. -/
def checkGeneration (stored : UInt32) (policy : WritePolicy) : Except Refusal Disposition :=
  let mismatch : Except Refusal Disposition :=
    .error (.generationMismatch policy.generation stored)
  match policy.generationCheck with
  | .unchecked => .ok .apply
  | .equal => if stored = policy.generation then .ok .apply else mismatch
  | .atLeast => if policy.generation ≤ stored then .ok .apply else mismatch
  | .duplicateUnlessEqual => .ok (if stored = policy.generation then .apply else .duplicate)

/-- Check a write. The generation of a record that is missing is not looked at. -/
def checkWrite (existing : Option StoredRecord) (policy : WritePolicy) :
    Except Refusal Disposition := do
  checkExistence existing policy
  match existing with
  | none => .ok .apply
  | some r => checkGeneration r.generation policy

/-- Which end of a bin an operand goes to. -/
inductive End where
  | front
  | back
  deriving DecidableEq

/-- Join an operand to what a bin holds. Text joins text and octets join octets; an absent bin takes
the operand as it is. -/
def joinValue (side : End) (bin : Bin) (held : Option Value) : Except Refusal Value :=
  match held, bin.value with
  | none, .string s => .ok (.string s)
  | none, .bytes b => .ok (.bytes b)
  | some (.string old), .string new =>
    .ok (.string (match side with | .front => new ++ old | .back => old ++ new))
  | some (.bytes old), .bytes new =>
    .ok (.bytes (match side with | .front => new ++ old | .back => old ++ new))
  | some old, .string s => .error (.typeMismatch bin.name old.typeName (Value.string s).typeName)
  | some old, .bytes b => .error (.typeMismatch bin.name old.typeName (Value.bytes b).typeName)
  | _, other => .error (.notJoinable other.typeName)

/-- Add an operand to what a bin holds. Integers wrap around at 64 bits and are not added to floats;
an absent bin takes the operand as it is. -/
def addValue (bin : Bin) (held : Option Value) : Except Refusal Value :=
  match held, bin.value with
  | none, .int i => .ok (.int i)
  | none, .float x => .ok (.float x)
  | some (.int old), .int new => .ok (.int (old + new))
  | some (.float old), .float new => .ok (.float (old.add new))
  | some old, .int i => .error (.typeMismatch bin.name old.typeName (Value.int i).typeName)
  | some old, .float x => .error (.typeMismatch bin.name old.typeName (Value.float x).typeName)
  | _, other => .error (.notAddable other.typeName)

/-- The bins after one operation; reads and a touch change none. -/
def applyOperation (bins : BinMap) : Operation → Except Refusal BinMap
  | .write bin => .ok (if bin.value.isNull then bins.erase bin.name else bins.insert bin.name bin.value)
  | .append bin => (joinValue .back bin (bins.get? bin.name)).map (bins.insert bin.name)
  | .prepend bin => (joinValue .front bin (bins.get? bin.name)).map (bins.insert bin.name)
  | .add bin => (addValue bin (bins.get? bin.name)).map (bins.insert bin.name)
  | .touch | .read _ | .readAll | .readHeader => .ok bins

/-- The bins after a list of operations, or the first refusal. -/
def applyAll (bins : BinMap) (ops : List Operation) : Except Refusal BinMap :=
  ops.foldlM applyOperation bins

/-- Whether a policy drops the bins that are not written. -/
def ExistencePolicy.replaces : ExistencePolicy → Bool
  | replace | replaceOnly => true
  | update | updateOnly | createOnly => false

/-- The generation after one more write: zero is left out when the counter wraps around. -/
def nextGeneration (g : UInt32) : UInt32 := if g + 1 = 0 then 1 else g + 1

/-- The bins that a write makes out of those of a record, and what becomes of them. -/
def writeBins (existing : Option StoredRecord) (policy : WritePolicy) (ops : List Operation) :
    Except Refusal (Disposition × BinMap) := do
  let disposition ← checkWrite existing policy
  let held := (existing.map (·.bins)).getD ∅
  let start := if disposition = .apply ∧ policy.existence.replaces = true then ∅ else held
  return (disposition, ← applyAll start ops)

/-- The record that a write leaves behind. -/
def writeRecord (existing : Option StoredRecord) (setName : String) (policy : WritePolicy)
    (ops : List Operation) (limit : Nat) (now : UInt32) : Except Refusal StoredRecord := do
  let (disposition, bins) ← writeBins existing policy ops
  let base := existing.getD { setName }
  let next : StoredRecord :=
    { base with
      bins := if disposition = .apply then bins else base.bins
      duplicates := if disposition = .apply then base.duplicates else base.duplicates ++ [bins]
      generation := nextGeneration base.generation
      expiration := expiryAt now policy.expiration
      corrupted := false }
  if next.size ≤ limit then .ok next else .error (.tooBig next.size limit)

/-- What a command leaves behind and returns. -/
structure Outcome where
  /-- The new record, if the command wrote. -/
  state : Option StoredRecord
  record : Record
  deriving Inhabited

/-- Run a command on a record. -/
def execute (existing : Option StoredRecord) (setName : String) (policy : WritePolicy)
    (ops : List Operation) (limit : Nat) (now : UInt32) : Except Refusal Outcome := do
  if existing.isNone && ops.any Operation.isTouch then throw .touchMissing
  let state ←
    if ops.any Operation.isWrite then
      some <$> writeRecord existing setName policy ops limit now
    else pure none
  match state.or existing with
  | some current => return { state, record := current.view (Operation.selection ops) }
  | none => throw .recordMissing

/-- Whether a command on a record gets as far as to ask for the time: only a write with a time to live
does, once its operations have run. -/
def asksTime (existing : Option StoredRecord) (policy : WritePolicy) (ops : List Operation) : Bool :=
  !(existing.isNone && ops.any Operation.isTouch) && ops.any Operation.isWrite &&
    policy.expiration != 0 && (writeBins existing policy ops).toBool

end RecordGate
