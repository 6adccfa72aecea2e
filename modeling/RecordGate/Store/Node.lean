import RecordGate.Key
import RecordGate.Store.StoredRecord

/-!
# Nodes of the cluster
-/

namespace RecordGate
set_option autoImplicit false

/-- A node and the records that it holds, expired ones included. -/
structure Node where
  name : String
  records : OrderedMap RecordId StoredRecord := ∅
  deriving Inhabited

namespace Node

/-- The node of a place in the cluster, counted from zero. -/
def numbered (i : Nat) : Node := { name := s!"node-{i + 1}" }

def find? (n : Node) (id : RecordId) : Option StoredRecord := n.records.get? id

def put (n : Node) (id : RecordId) (r : StoredRecord) : Node :=
  { n with records := n.records.insert id r }

def erase (n : Node) (id : RecordId) : Node := { n with records := n.records.erase id }

/-- Whether a scan of a namespace and set looks at a record. Without a set name it looks at every
set. -/
def scanned (ns setName : String) (now : UInt32) (id : RecordId) (r : StoredRecord) : Bool :=
  id.ns == ns && (setName.isEmpty || r.setName == setName) && !r.expiredAt now

/-- The live records of a namespace and set, by digest. -/
def snapshot (n : Node) (ns setName : String) (now : UInt32) : List (Digest × StoredRecord) :=
  (n.records.entries.filter fun e => scanned ns setName now e.1 e.2).map fun e => (e.1.digest, e.2)

theorem mem_snapshot_iff {n : Node} {ns setName : String} {now : UInt32} {d : Digest}
    {r : StoredRecord} :
    (d, r) ∈ n.snapshot ns setName now ↔
      n.find? ⟨ns, d⟩ = some r ∧ scanned ns setName now ⟨ns, d⟩ r = true := by
  rw [find?, OrderedMap.get?_eq_some_iff]
  simp only [snapshot, List.mem_map, List.mem_filter, Prod.mk.injEq]
  constructor
  · rintro ⟨⟨⟨m, e⟩, r'⟩, ⟨hmem, hs⟩, hd, hr⟩
    simp only at hd hr hs
    subst hd hr
    have hn : m = ns := by
      simp only [scanned, Bool.and_eq_true, beq_iff_eq] at hs
      exact hs.1.1
    subst hn
    exact ⟨hmem, hs⟩
  · rintro ⟨hmem, hs⟩
    exact ⟨(⟨ns, d⟩, r), ⟨hmem, hs⟩, rfl, rfl⟩

end Node

end RecordGate
