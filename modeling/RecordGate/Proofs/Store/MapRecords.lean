import RecordGate.Proofs.Store.Delivery

/-!
# Clusters with other records

`mapRecords` puts another record in the place of each record of a cluster. What a look-up finds, what is
stored and erased, and what a scan copies is mapped with it, so that two clusters can be compared by what a
function leaves of their records.
-/

namespace RecordGate
set_option autoImplicit false

/-! ## Maps with other values -/

namespace OrderedMap

universe u v w

variable {κ : Type u} {α : Type v} {β : Type w} [LT κ]

/-- The map with a function applied to every value. -/
def mapValues (f : α → β) (m : OrderedMap κ α) : OrderedMap κ β where
  entries := m.entries.map fun e => (e.1, f e.2)
  ascending := List.pairwise_map.2 m.ascending

variable [DecidableEq κ]

theorem get?_mapValues (f : α → β) (m : OrderedMap κ α) (k : κ) :
    (m.mapValues f).get? k = (m.get? k).map f := by
  rw [get?, get?, mapValues]
  dsimp only
  induction m.entries with
  | nil => rfl
  | cons e rest ih =>
    rw [List.map_cons, List.lookup_cons, List.lookup_cons, ih]
    cases k == e.1 <;> rfl

theorem mapValues_erase [KeyOrder κ] (f : α → β) (m : OrderedMap κ α) (k : κ) :
    (m.erase k).mapValues f = (m.mapValues f).erase k := by
  apply ext_get?
  intro other
  rw [get?_mapValues, get?_erase, get?_erase, get?_mapValues, apply_ite (Option.map f)]
  rfl

theorem mapValues_insert [DecidableLT κ] [KeyOrder κ] (f : α → β) (m : OrderedMap κ α) (k : κ) (v : α) :
    (m.insert k v).mapValues f = (m.mapValues f).insert k (f v) := by
  apply ext_get?
  intro other
  rw [get?_mapValues, get?_insert, get?_insert, get?_mapValues, apply_ite (Option.map f)]
  rfl

end OrderedMap

variable (f : StoredRecord → StoredRecord)

/-! ## Nodes -/

namespace Node

def mapRecords (n : Node) : Node := { n with records := n.records.mapValues f }

variable (n : Node)

theorem find?_mapRecords (id : RecordId) : (n.mapRecords f).find? id = (n.find? id).map f :=
  n.records.get?_mapValues f id

theorem mapRecords_put (id : RecordId) (r : StoredRecord) :
    (n.put id r).mapRecords f = (n.mapRecords f).put id (f r) :=
  congrArg (Node.mk n.name) (n.records.mapValues_insert f id r)

theorem mapRecords_erase (id : RecordId) : (n.erase id).mapRecords f = (n.mapRecords f).erase id :=
  congrArg (Node.mk n.name) (n.records.mapValues_erase f id)

variable {f} in
/-- A scan that looks at the same records copies the mapped ones. -/
theorem snapshot_mapRecords {ns setName : String} {now : UInt32}
    (same : ∀ id r, scanned ns setName now id (f r) = scanned ns setName now id r) :
    (n.mapRecords f).snapshot ns setName now = (n.snapshot ns setName now).map (Prod.map id f) := by
  simp only [snapshot, mapRecords, OrderedMap.mapValues, List.filter_map, List.map_map]
  congr 1
  exact List.filter_congr fun e _ => same e.1 e.2

end Node

/-! ## Clusters -/

namespace Cluster

variable (c : Cluster)

def mapRecords : Cluster where
  nodes := c.nodes.map (Node.mapRecords f)
  nodes_ne_nil := mt List.map_eq_nil_iff.1 c.nodes_ne_nil
  connected := c.connected
  recordLimit := c.recordLimit
  faults := c.faults
  lastPolicy := c.lastPolicy
  calls := c.calls

theorem storedAt_mapRecords (place : Nat) (id : RecordId) :
    (c.mapRecords f).storedAt place id = (c.storedAt place id).map f := by
  rw [storedAt, storedAt, mapRecords, List.getElem?_map]
  cases c.nodes[place]? with
  | none => rfl
  | some n => exact n.find?_mapRecords f id

theorem nodeNames_mapRecords : (c.mapRecords f).nodeNames = c.nodeNames := by
  rw [nodeNames, mapRecords, List.map_map]
  rfl

theorem home_mapRecords (d : Digest) : (c.mapRecords f).home d = c.home d := by
  rw [home, home, mapRecords, List.length_map]

theorem find?_mapRecords (id : RecordId) : (c.mapRecords f).find? id = (c.find? id).map f := by
  rw [find?_eq_storedAt, find?_eq_storedAt, home_mapRecords, storedAt_mapRecords]

theorem mapRecords_updateNode (d : Digest) {change change' : Node → Node}
    (same : ∀ n, (change n).mapRecords f = change' (n.mapRecords f)) :
    (c.updateNode d change).mapRecords f = (c.mapRecords f).updateNode d change' := by
  have nodes : (c.nodes.modify (c.home d) change).map (Node.mapRecords f) =
      (c.nodes.map (Node.mapRecords f)).modify ((c.mapRecords f).home d) change' := by
    apply List.ext_getElem
    · simp only [List.length_map, List.length_modify]
    · intro place h h'
      simp only [List.getElem_map, List.getElem_modify, home_mapRecords]
      split
      · exact same _
      · rfl
  simp only [updateNode, mapRecords, nodes]

theorem mapRecords_put (id : RecordId) (r : StoredRecord) :
    (c.put id r).mapRecords f = (c.mapRecords f).put id (f r) :=
  c.mapRecords_updateNode f id.digest fun n => n.mapRecords_put f id r

theorem mapRecords_erase (id : RecordId) : (c.erase id).mapRecords f = (c.mapRecords f).erase id :=
  c.mapRecords_updateNode f id.digest fun n => n.mapRecords_erase f id

theorem accept_mapRecords (policy : CommandPolicy) :
    (c.mapRecords f).accept policy = (c.accept policy).map id (mapRecords f) := by
  obtain ⟨nodes, ne, connected, limit, faults, _, calls⟩ := c
  cases connected with
  | false => rfl
  | true => cases faults <;> rfl

theorem node?_mapRecords (name : String) :
    (c.mapRecords f).node? name = (c.node? name).map (Node.mapRecords f) :=
  List.find?_map

variable {f} in
theorem snapshot_mapRecords {ns setName : String} {now : UInt32}
    (same : ∀ id r, Node.scanned ns setName now id (f r) = Node.scanned ns setName now id r) :
    (c.mapRecords f).snapshot ns setName now = (c.snapshot ns setName now).map (Prod.map id f) := by
  simp only [snapshot, mapRecords, List.flatMap_map, List.map_flatMap, Node.snapshot_mapRecords _ same]

end Cluster

end RecordGate
