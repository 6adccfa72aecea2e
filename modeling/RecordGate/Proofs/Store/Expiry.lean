import RecordGate.Proofs.Store.Delivery
import RecordGate.Proofs.Store.Likeness

/-!
# Expired records

To commands a record that has expired is no record. Clusters of the same nodes that hold the same live
records, whatever else each of them holds, answer every command the same at the time and hold the same live
records afterwards (`liveAlike_likeness`, `LiveAlike.scanned`), and so at all later times
(`LiveAlike.later`).
-/

namespace RecordGate
set_option autoImplicit false

/-! ## When a record expires -/

theorem toNat_expiryAt (now ttl : UInt32) :
    (expiryAt now ttl).toNat = if ttl = 0 then 0 else min (now.toNat + ttl.toNat) (UInt32.size - 1) := by
  rw [expiryAt]
  split
  · rfl
  · rw [UInt32.toNat_ofNat']
    simp only [UInt32.size]
    omega

/-- A record has expired from the second on in which it expires, unless it never does. -/
theorem StoredRecord.expiredAt_iff {r : StoredRecord} {now : UInt32} :
    r.expiredAt now = true ↔ r.expiration.toNat ≠ 0 ∧ r.expiration.toNat ≤ now.toNat := by
  have zero : r.expiration = 0 ↔ r.expiration.toNat = 0 := UInt32.toNat_inj.symm
  rw [expiredAt, Bool.and_eq_true, bne_iff_ne, decide_eq_true_eq, UInt32.le_iff_toNat_le, ne_eq, zero]

/-- A record lives whose time to live is without end, or has not passed. -/
theorem StoredRecord.unexpired_iff {r : StoredRecord} {start ttl : UInt32}
    (written : r.expiration = expiryAt start ttl) (now : UInt32) :
    r.expiredAt now = false ↔ ttl = 0 ∨ now.toNat < min (start.toNat + ttl.toNat) (UInt32.size - 1) := by
  rw [← Bool.not_eq_true, expiredAt_iff, written, toNat_expiryAt]
  have zero : ttl = 0 ↔ ttl.toNat = 0 := UInt32.toNat_inj.symm
  split
  · next never => simp [never]
  · next some =>
    rw [zero] at some ⊢
    simp only [UInt32.size]
    omega

theorem StoredRecord.expiredAt_congr {r r' : StoredRecord} (same : r'.expiration = r.expiration)
    (now : UInt32) : r'.expiredAt now = r.expiredAt now := by
  rw [expiredAt, expiredAt, same]

/-- What has expired stays so. -/
theorem StoredRecord.expiredAt_later {r : StoredRecord} {now later : UInt32} (onward : now ≤ later)
    (expired : r.expiredAt now = true) : r.expiredAt later = true := by
  simp only [expiredAt, Bool.and_eq_true, decide_eq_true_eq] at expired ⊢
  exact ⟨expired.1, UInt32.le_trans expired.2 onward⟩

theorem timeOf?_mono {before after : Int} {now later : UInt32} (onward : before ≤ after)
    (told : timeOf? before = some now) (told' : timeOf? after = some later) : now ≤ later := by
  unfold timeOf? at told told'
  split at told <;> cases told
  split at told' <;> cases told'
  rw [UInt32.le_iff_toNat_le, UInt32.toNat_ofNat', UInt32.toNat_ofNat']
  simp only [UInt32.size]
  omega

/-- Nodes that hold the same live records hand the same copy to a scan. -/
theorem Node.snapshot_congr {n m : Node} {now : UInt32}
    (same : ∀ id, (m.find? id).filter (fun r => !r.expiredAt now) =
      (n.find? id).filter fun r => !r.expiredAt now) (ns setName : String) :
    m.snapshot ns setName now = n.snapshot ns setName now := by
  have live : m.records.filter (fun _ r => !r.expiredAt now) =
      n.records.filter fun _ r => !r.expiredAt now := by
    apply OrderedMap.ext_get?
    intro id
    rw [OrderedMap.get?_filter, OrderedMap.get?_filter]
    exact same id
  -- A scan looks through the live records for those of its namespace and set.
  have split (n : Node) : n.snapshot ns setName now =
      ((n.records.filter fun _ r => !r.expiredAt now).entries.filter fun e =>
        e.1.ns == ns && (setName.isEmpty || e.2.setName == setName)).map fun e => (e.1.digest, e.2) := by
    rw [snapshot, OrderedMap.filter, List.filter_filter]
    rfl
  rw [split, split, live]

namespace Cluster

/-- The record that the node of a place keeps under an identity, unless it has expired. -/
def liveAt (c : Cluster) (now : UInt32) (place : Nat) (id : RecordId) : Option StoredRecord :=
  (c.storedAt place id).filter fun r => !r.expiredAt now

theorem live?_eq_liveAt (c : Cluster) (now : UInt32) (id : RecordId) :
    c.live? now id = c.liveAt now (c.home id.digest) id := by
  rw [live?, find?_eq_storedAt, liveAt]

theorem liveAt_put (c : Cluster) (now : UInt32) (id : RecordId) (r : StoredRecord) (place : Nat)
    (other : RecordId) : (c.put id r).liveAt now place other =
      if place = c.home id.digest ∧ other = id then (some r).filter fun r => !r.expiredAt now
      else c.liveAt now place other := by
  rw [liveAt, storedAt_put]
  split <;> rfl

theorem liveAt_erase (c : Cluster) (now : UInt32) (id : RecordId) (place : Nat) (other : RecordId) :
    (c.erase id).liveAt now place other =
      if place = c.home id.digest ∧ other = id then none else c.liveAt now place other := by
  rw [liveAt, storedAt_erase]
  split <;> rfl

theorem liveAt_later (c : Cluster) {now later : UInt32} (onward : now ≤ later) (place : Nat)
    (id : RecordId) : c.liveAt later place id =
      (c.liveAt now place id).filter fun r => !r.expiredAt later := by
  rw [liveAt, liveAt, Option.filter_filter]
  congr 1
  funext r
  cases expired : r.expiredAt now with
  | false => simp
  | true => simp [r.expiredAt_later onward expired]

/-- The same nodes with the same live records. What has expired may differ. -/
structure LiveAlike (now : UInt32) (c d : Cluster) : Prop where
  names : d.nodeNames = c.nodeNames
  live : ∀ place id, d.liveAt now place id = c.liveAt now place id
  connected : d.connected = c.connected
  recordLimit : d.recordLimit = c.recordLimit
  faults : d.faults = c.faults

namespace LiveAlike

variable {now : UInt32} {c d : Cluster}

theorem length (alike : LiveAlike now c d) : d.nodes.length = c.nodes.length := by
  have names := congrArg List.length alike.names
  rwa [nodeNames, nodeNames, List.length_map, List.length_map] at names

theorem later (alike : LiveAlike now c d) {later : UInt32} (onward : now ≤ later) :
    LiveAlike later c d where
  names := alike.names
  live place id := by rw [liveAt_later d onward, liveAt_later c onward, alike.live]
  connected := alike.connected
  recordLimit := alike.recordLimit
  faults := alike.faults

/-- Holding the same live records is a likeness. -/
theorem likeness (now : UInt32) : Likeness now (fun _ => True) (LiveAlike now) where
  live {c d} alike id _ := by
    rw [live?_eq_liveAt, live?_eq_liveAt, home_congr alike.length, alike.live]
  connected alike := alike.connected
  recordLimit alike := alike.recordLimit
  faults alike := alike.faults
  congr {c d c' d'} alike nodes nodes' connected recordLimit faults :=
    { names := by rw [nodeNames, nodes', nodeNames, nodes]; exact alike.names
      live := by
        intro place id
        rw [liveAt, storedAt_congr nodes', liveAt, storedAt_congr nodes]
        exact alike.live place id
      connected, recordLimit, faults }
  put {c d} alike id _ r :=
    { names := by rw [nodeNames_put, nodeNames_put, alike.names]
      live := by
        intro place other
        rw [liveAt_put, liveAt_put, home_congr alike.length, alike.live]
      connected := alike.connected
      recordLimit := alike.recordLimit
      faults := alike.faults }
  erase {c d} alike id _ :=
    { names := by rw [nodeNames_erase, nodeNames_erase, alike.names]
      live := by
        intro place other
        rw [liveAt_erase, liveAt_erase, home_congr alike.length, alike.live]
      connected := alike.connected
      recordLimit := alike.recordLimit
      faults := alike.faults }

/-! ## Scans -/

section Scans

variable (alike : LiveAlike now c d) (ns setName : String)
include alike

theorem snapshot_getElem {place : Nat} (h : place < c.nodes.length) (h' : place < d.nodes.length) :
    d.nodes[place].snapshot ns setName now = c.nodes[place].snapshot ns setName now := by
  apply Node.snapshot_congr
  intro id
  have live := alike.live place id
  rw [liveAt, liveAt, storedAt, storedAt, List.getElem?_eq_getElem h, List.getElem?_eq_getElem h'] at live
  exact live

theorem snapshots : d.nodes.map (·.snapshot ns setName now) = c.nodes.map (·.snapshot ns setName now) := by
  apply List.ext_getElem
  · rw [List.length_map, List.length_map, alike.length]
  · intro place h h'
    rw [List.getElem_map, List.getElem_map]
    exact alike.snapshot_getElem ns setName _ _

theorem node?_snapshot (name : String) :
    (d.node? name).map (·.snapshot ns setName now) = (c.node? name).map (·.snapshot ns setName now) := by
  have index : d.nodes.findIdx? (·.name == name) = c.nodes.findIdx? (·.name == name) := by
    have names := congrArg (List.findIdx? (· == name)) alike.names
    rw [nodeNames, nodeNames, List.findIdx?_map, List.findIdx?_map] at names
    exact names
  rw [node?, node?, List.find?_eq_bind_findIdx?_getElem?, List.find?_eq_bind_findIdx?_getElem?, index]
  cases c.nodes.findIdx? (·.name == name) with
  | none => rfl
  | some place =>
    have snapshots := congrArg (·[place]?) (alike.snapshots ns setName)
    simpa only [List.getElem?_map, Option.bind_some] using snapshots

omit ns setName in
theorem delivery (command : Command) : d.delivery now command = c.delivery now command := by
  cases command with
  | scanAll policy ns setName =>
    have snapshots := congrArg List.flatten (alike.snapshots ns setName)
    simp only [Cluster.delivery, Cluster.snapshot, List.flatMap, snapshots]
  | scanNode policy node ns setName =>
    have snapshot := alike.node?_snapshot ns setName node
    rw [Cluster.delivery, Cluster.delivery]
    generalize d.node? node = here at snapshot ⊢
    generalize c.node? node = there at snapshot ⊢
    cases here <;> cases there
    · rfl
    · cases snapshot
    · cases snapshot
    · exact congrArg (ScanScope.ended _) (Option.some.inj snapshot)
  | _ => rfl

/-- A scan delivers the same rows in the same order. -/
theorem scanned (command : Command) :
    Tied (LiveAlike now) (c.scanned now command) (d.scanned now command) := by
  obtain ⟨reply, c', d', here, there, clusters⟩ := ((likeness now).accept alike command.policy).split
  rw [Cluster.scanned, Cluster.scanned, here, there]
  cases reply with
  | error e => exact ⟨rfl, clusters⟩
  | ok _ => exact ⟨LiveAlike.delivery clusters command, clusters⟩

end Scans

end LiveAlike

/-- Erasing records that have expired leaves the live ones. -/
theorem liveAlike_of_erased {now : UInt32} {c d : Cluster} (names : d.nodeNames = c.nodeNames)
    (erased : ∀ place id, d.storedAt place id = c.storedAt place id ∨
      d.storedAt place id = none ∧ ∃ r, c.storedAt place id = some r ∧ r.expiredAt now = true)
    (connected : d.connected = c.connected) (recordLimit : d.recordLimit = c.recordLimit)
    (faults : d.faults = c.faults) : LiveAlike now c d where
  names := names
  live place id := by
    rw [liveAt, liveAt]
    rcases erased place id with same | ⟨gone, r, stored, expired⟩
    · rw [same]
    · rw [gone, stored, Option.filter_some, expired]
      rfl
  connected := connected
  recordLimit := recordLimit
  faults := faults

end Cluster

end RecordGate
