import Mathlib.Data.List.Nodup
import RecordGate.Proofs.Store.Soundness
import RecordGate.Proofs.Store.Visits

/-!
# The records of a cluster, all together

Where every record lies at its home, look-ups determine the records of a cluster up to their order
(`entries_perm`): no record is stored twice, and none is out of the reach of a look-up. Counts, copies and
scan summaries are made of these records.
-/

namespace RecordGate
set_option autoImplicit false

namespace Cluster

/-- Every stored record with its identity, node by node. -/
def entries (c : Cluster) : List (RecordId × StoredRecord) := c.nodes.flatMap (·.records.entries)

theorem mem_entries_iff {c : Cluster} (placed : c.Placed) {id : RecordId} {r : StoredRecord} :
    (id, r) ∈ c.entries ↔ c.find? id = some r := by
  simp only [entries, List.mem_flatMap, ← OrderedMap.get?_eq_some_iff]
  constructor
  · rintro ⟨node, member, found⟩
    obtain ⟨place, here⟩ := List.getElem?_of_mem member
    have stored : c.storedAt place id = some r := by
      rw [storedAt, here]
      exact found
    rw [find?_eq_storedAt, ← placed place id r stored, stored]
  · intro found
    have member : c.nodeOf id.digest ∈ c.nodes := List.get_mem _ _
    exact ⟨c.nodeOf id.digest, member, found⟩

theorem nodup_entries {c : Cluster} (placed : c.Placed) : c.entries.Nodup := by
  rw [entries, List.nodup_flatMap]
  constructor
  · intro node _
    apply node.records.ascending.imp
    intro a b less same
    rw [same] at less
    exact KeyOrder.irrefl _ less
  · -- An entry of two nodes would have two homes.
    rw [List.pairwise_iff_getElem]
    intro i j hi hj less
    rintro ⟨id, r⟩ here there
    have home : ∀ place (h : place < c.nodes.length), (id, r) ∈ c.nodes[place].records.entries →
        place = c.home id.digest := by
      intro place h member
      apply placed place id r
      rw [storedAt, List.getElem?_eq_getElem h]
      exact OrderedMap.get?_eq_some_iff.2 member
    have first := home i hi here
    have second := home j hj there
    omega

/-- Look-ups determine the records up to their order. -/
theorem entries_perm {c d : Cluster} (placed : c.Placed) (placed' : d.Placed)
    (same : ∀ id, d.find? id = c.find? id) : c.entries.Perm d.entries := by
  rw [List.perm_ext_iff_of_nodup (nodup_entries placed) (nodup_entries placed')]
  intro e
  rw [mem_entries_iff placed, mem_entries_iff placed', same]

theorem recordCount_eq (c : Cluster) : c.recordCount = c.entries.length := by
  rw [recordCount, entries]
  generalize c.nodes = nodes
  induction nodes with
  | nil => rfl
  | cons node rest ih =>
    rw [List.map_cons, List.flatMap_cons, List.length_append, ← ih]
    rfl

/-- The live records of a namespace and set on all nodes, by digest. -/
def snapshot (c : Cluster) (ns setName : String) (now : UInt32) : List (Digest × StoredRecord) :=
  c.nodes.flatMap (·.snapshot ns setName now)

theorem snapshot_eq (c : Cluster) (ns setName : String) (now : UInt32) :
    c.snapshot ns setName now =
      (c.entries.filter fun e => Node.scanned ns setName now e.1 e.2).map fun e => (e.1.digest, e.2) := by
  simp only [snapshot, entries, Node.snapshot, List.filter_flatMap, List.map_flatMap]

end Cluster

namespace ScanSummary

theorem ofRecords_perm {a b : List (Digest × StoredRecord)} (perm : a.Perm b) :
    ofRecords a = ofRecords b := by
  simp only [ofRecords, (perm.filter _).length_eq, perm.any_eq]

end ScanSummary

theorem ScanScope.rows_perm (scope : ScanScope) {a b : List (Digest × StoredRecord)}
    (perm : a.Perm b) : (scope.rows a).Perm (scope.rows b) :=
  (perm.filter _).map _

end RecordGate
