import RecordGate.Proofs.Store.Contents
import RecordGate.Proofs.Store.Likeness

/-!
# Clusters alike

Clusters are alike when they hold the same records, each cluster in its own places, and treat the next
command the same. They answer every command alike and are alike afterwards, however many nodes each of
them has. A scan of all nodes delivers the same rows, though not in the same order.
-/

namespace RecordGate.Cluster
set_option autoImplicit false

/-- The same records under the same limit, and the same connection and faults. -/
structure Alike (c d : Cluster) : Prop where
  find : ∀ id, d.find? id = c.find? id
  left : c.Placed
  right : d.Placed
  connected : d.connected = c.connected
  recordLimit : d.recordLimit = c.recordLimit
  faults : d.faults = c.faults

/-- Runs that answer the same and leave clusters alike. -/
structure AlikeRuns {α : Type} (x y : α × Cluster) : Prop where
  answer : y.1 = x.1
  clusters : Alike x.2 y.2

theorem AlikeRuns.of_tied {α : Type} {x y : α × Cluster} (tied : Tied Alike x y) : AlikeRuns x y :=
  ⟨tied.answer, tied.states⟩

namespace Alike

variable {c d : Cluster} (alike : Alike c d)
include alike

theorem congr {c' d' : Cluster} (nodes : c'.nodes = c.nodes) (nodes' : d'.nodes = d.nodes)
    (connected : d'.connected = c'.connected) (recordLimit : d'.recordLimit = c'.recordLimit)
    (faults : d'.faults = c'.faults) : Alike c' d' where
  find id := by rw [find?_congr nodes', find?_congr nodes, alike.find]
  left := alike.left.congr nodes
  right := alike.right.congr nodes'
  connected := connected
  recordLimit := recordLimit
  faults := faults

theorem live (now : UInt32) (id : RecordId) : d.live? now id = c.live? now id := by
  rw [live?, live?, alike.find]

theorem holds (key : Key) : d.holds key = c.holds key := by
  rw [Cluster.holds, Cluster.holds, alike.find]

theorem put (id : RecordId) (r : StoredRecord) : Alike (c.put id r) (d.put id r) where
  find other := by rw [find?_put, find?_put, alike.find]
  left := alike.left.put id r
  right := alike.right.put id r
  connected := alike.connected
  recordLimit := alike.recordLimit
  faults := alike.faults

theorem erase (id : RecordId) : Alike (c.erase id) (d.erase id) where
  find other := by rw [find?_erase, find?_erase, alike.find]
  left := alike.left.erase id
  right := alike.right.erase id
  connected := alike.connected
  recordLimit := alike.recordLimit
  faults := alike.faults

omit alike in
/-- Being alike is a likeness at all times. -/
theorem likeness (now : UInt32) : Likeness now (fun _ => True) Alike where
  live alike id _ := alike.live now id
  connected alike := alike.connected
  recordLimit alike := alike.recordLimit
  faults alike := alike.faults
  congr alike := alike.congr
  put alike id _ := alike.put id
  erase alike id _ := alike.erase id

theorem accept (policy : CommandPolicy) : AlikeRuns (c.accept policy) (d.accept policy) :=
  .of_tied ((likeness 0).accept alike policy)

theorem answer (now : UInt32) (command : Command) :
    AlikeRuns (c.answer now command) (d.answer now command) :=
  .of_tied ((likeness now).answer alike command fun _ _ => trivial)

theorem asksTime (command : Command) : d.asksTime command = c.asksTime command := by
  cases command with
  | get _ key _ | contains _ key | delete _ key => exact alike.holds key
  | operate policy key ops =>
    simp only [Cluster.asksTime, operateAsksTime, alike.holds]
  | batchGet _ keys _ | batchContains _ keys => exact congrArg keys.any (funext alike.holds)
  | scanAll _ _ _ | scanNode _ _ _ _ => rfl

theorem snapshot (ns setName : String) (now : UInt32) :
    (c.snapshot ns setName now).Perm (d.snapshot ns setName now) := by
  have entries := entries_perm alike.left alike.right alike.find
  rw [snapshot_eq, snapshot_eq]
  exact (entries.filter _).map _

theorem recordCount : d.recordCount = c.recordCount := by
  have entries := entries_perm alike.left alike.right alike.find
  rw [recordCount_eq, recordCount_eq]
  exact entries.length_eq.symm

theorem corrupt (key : Key) : AlikeRuns (c.corrupt key) (d.corrupt key) := by
  rw [Cluster.corrupt, Cluster.corrupt, alike.find]
  cases c.find? key.id with
  | none => exact ⟨rfl, alike⟩
  | some r => exact ⟨rfl, alike.put key.id _⟩

theorem failNext (e : ClientError) : Alike (c.failNext e) (d.failNext e) :=
  (likeness 0).failNext alike e

theorem setConnected (connected : Bool) :
    Alike (c.setConnected connected) (d.setConnected connected) :=
  (likeness 0).setConnected alike connected

theorem connect (seeds hosts : List Host) :
    AlikeRuns (c.connect seeds hosts) (d.connect seeds hosts) :=
  .of_tied ((likeness 0).connect alike seeds hosts)

end Alike

/-- Empty clusters are alike, of whatever size. -/
theorem alike_ofSize (n m limit : Nat) : Alike (ofSize n limit) (ofSize m limit) where
  find id := by rw [find?_eq_storedAt, find?_eq_storedAt, storedAt_ofSize, storedAt_ofSize]
  left := placed_ofSize n limit
  right := placed_ofSize m limit
  connected := rfl
  recordLimit := rfl
  faults := rfl

end RecordGate.Cluster
