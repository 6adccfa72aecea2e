import RecordGate.Options

/-!
# From options to policies

| options  | timeout | retries | sleep                           |
|----------|---------|---------|---------------------------------|
| absent   | 5000 ms | 2       | a third of the timeout          |
| one shot | theirs  | 0       | 0                               |
| retry    | theirs  | 2       | a third of theirs, at most 2 s  |

The absent case has no upper bound on the sleep. Of the conditions on a write one is honoured: unique
before equal before at least before keeping a duplicate.
-/

namespace RecordGate
set_option autoImplicit false

/-- The longest pause between attempts when options ask for retries, in milliseconds. -/
def maxRetrySleep : Nat := 2000

/-- Retries of a call without options. -/
def absentRetries : UInt32 := 2

/-- The pause that spreads the attempts evenly over the timeout. -/
def evenSleep (timeout : Nat) (retries : UInt32) : Nat := timeout / (retries.toNat + 1)

/-- The policy of a read. -/
def Policy.ofOptions : Option TransactionOptions → Policy
  | none =>
    let timeout := defaultTimeout.toNat
    { timeout, retries := absentRetries, sleep := evenSleep timeout absentRetries }
  | some tx =>
    let timeout := tx.timeout.toNat
    match tx.retryMode with
    | .oneShot => { timeout, retries := 0, sleep := 0 }
    | .retry =>
      let retries := (default : Policy).retries
      { timeout, retries, sleep := min (evenSleep timeout retries) maxRetrySleep }

/-- The generation check of a mode, and the generation that it compares with. -/
def GenerationMode.check : GenerationMode → GenerationPolicy × UInt32
  | expectEqual g => (.equal, g)
  | expectAtLeast g => (.atLeast, g)
  | keepDuplicate g => (.duplicateUnlessEqual, g)
  | unchecked => (.unchecked, 0)

/-- The policy of a write. -/
def WritePolicy.ofOptions (tx : Option TransactionOptions) : Option WriteOptions → WritePolicy
  | none => { base := Policy.ofOptions tx }
  | some w =>
    let policy : WritePolicy := { base := Policy.ofOptions tx, expiration := w.expiration }
    if w.uniqueOnly then { policy with existence := .createOnly }
    else
      let (check, generation) := w.generationMode.check
      { policy with generationCheck := check, generation }

/-- The policy of a scan. -/
def ScanPolicy.ofOptions : Option ScanOptions → ScanPolicy
  | none => {}
  | some o =>
    { concurrent := o.concurrent, threads := o.threads, priority := o.priority,
      failOnChange := o.failOnChange, includeBins := o.includeBins }

end RecordGate
