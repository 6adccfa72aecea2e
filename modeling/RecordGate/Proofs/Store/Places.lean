import Mathlib.Data.List.Nodup
import RecordGate.Store.Cluster

/-!
# Where records lie

A record lies at a place of the cluster: a node, counted from zero, and an identity. `storedAt` is the
view of a cluster through which its changes are described; a look-up by identity is that view at the home
of the digest. A change of one record leaves every other place alone.
-/

namespace RecordGate
set_option autoImplicit false

namespace Node

@[simp] theorem find?_put (n : Node) (id id' : RecordId) (r : StoredRecord) :
    (n.put id r).find? id' = if id' = id then some r else n.find? id' :=
  OrderedMap.get?_insert n.records id r id'

@[simp] theorem find?_erase (n : Node) (id id' : RecordId) :
    (n.erase id).find? id' = if id' = id then none else n.find? id' :=
  OrderedMap.get?_erase n.records id id'

@[simp] theorem find?_numbered (i : Nat) (id : RecordId) : (Node.numbered i).find? id = none := rfl

theorem name_numbered_injective : Function.Injective fun i => (numbered i).name := by
  intro i j same
  have lists := congrArg String.toList same
  have digits : Nat.toDigits 10 (i + 1) = Nat.toDigits 10 (j + 1) := by
    simpa [numbered, Nat.repr_eq_ofList_toDigits] using lists
  have numbers := congrArg (Nat.ofDigitChars 10 · 0) digits
  simpa only [Nat.ofDigitChars_ten_toDigits, Nat.succ.injEq] using numbers

end Node

namespace Cluster

/-- The record that the node of a place keeps under an identity. -/
def storedAt (c : Cluster) (place : Nat) (id : RecordId) : Option StoredRecord :=
  c.nodes[place]?.bind (·.find? id)

theorem find?_eq_storedAt (c : Cluster) (id : RecordId) :
    c.find? id = c.storedAt (c.home id.digest) id := by
  simp only [find?, nodeOf, storedAt, List.get_eq_getElem,
    List.getElem?_eq_getElem (c.home_lt id.digest), Option.bind_some]

/-- Two clusters with the same nodes keep the same records. -/
theorem storedAt_congr {c d : Cluster} (same : d.nodes = c.nodes) (place : Nat) (id : RecordId) :
    d.storedAt place id = c.storedAt place id := by
  rw [storedAt, same, storedAt]

theorem home_congr {c d : Cluster} (same : d.nodes.length = c.nodes.length) (digest : Digest) :
    d.home digest = c.home digest := by
  rw [home, same, home]

theorem find?_congr {c d : Cluster} (same : d.nodes = c.nodes) (id : RecordId) :
    d.find? id = c.find? id := by
  have home : d.home id.digest = c.home id.digest := home_congr (by rw [same]) _
  rw [find?_eq_storedAt, find?_eq_storedAt, storedAt_congr same, home]

/-- The nodes of a new cluster have names of their own. -/
theorem nodup_nodeNames_ofSize (n limit : Nat) : (ofSize n limit).nodeNames.Nodup := by
  rw [nodeNames, ofSize, List.map_map]
  exact List.nodup_range.map Node.name_numbered_injective

@[simp] theorem storedAt_ofSize (n limit place : Nat) (id : RecordId) :
    (ofSize n limit).storedAt place id = none := by
  rw [storedAt, Option.bind_eq_none_iff]
  intro node here
  simp only [ofSize, List.getElem?_map, Option.map_eq_some_iff] at here
  obtain ⟨i, -, rfl⟩ := here
  exact Node.find?_numbered i id

/-! ## A change of one node -/

section UpdateNode

variable (c : Cluster) (digest : Digest) (f : Node → Node)

@[simp] theorem length_updateNode : (c.updateNode digest f).nodes.length = c.nodes.length :=
  List.length_modify f c.nodes (c.home digest)

@[simp] theorem home_updateNode (d : Digest) : (c.updateNode digest f).home d = c.home d :=
  home_congr (c.length_updateNode digest f) d

theorem nodeNames_updateNode (same : ∀ n, (f n).name = n.name) :
    (c.updateNode digest f).nodeNames = c.nodeNames := by
  apply List.ext_getElem
  · simp only [nodeNames, List.length_map, length_updateNode]
  · intro i h h'
    simp only [nodeNames, updateNode, List.getElem_map, List.getElem_modify]
    split
    · exact same _
    · rfl

theorem storedAt_updateNode (place : Nat) (id : RecordId) :
    (c.updateNode digest f).storedAt place id =
      if place = c.home digest then (f (c.nodeOf digest)).find? id else c.storedAt place id := by
  rw [storedAt, updateNode, List.getElem?_modify]
  split
  · next here =>
    subst here
    rw [if_pos rfl, List.getElem?_eq_getElem (c.home_lt digest)]
    rfl
  · next elsewhere =>
    rw [if_neg (Ne.symm elsewhere)]
    cases h : c.nodes[place]? <;> simp [storedAt, h]

end UpdateNode

section OneRecord

variable (c : Cluster) (id : RecordId)

@[simp] theorem length_put (r : StoredRecord) : (c.put id r).nodes.length = c.nodes.length :=
  c.length_updateNode id.digest _

@[simp] theorem length_erase : (c.erase id).nodes.length = c.nodes.length :=
  c.length_updateNode id.digest _

@[simp] theorem home_put (r : StoredRecord) (d : Digest) : (c.put id r).home d = c.home d :=
  c.home_updateNode id.digest _ d

@[simp] theorem home_erase (d : Digest) : (c.erase id).home d = c.home d :=
  c.home_updateNode id.digest _ d

@[simp] theorem nodeNames_put (r : StoredRecord) : (c.put id r).nodeNames = c.nodeNames :=
  c.nodeNames_updateNode id.digest (·.put id r) fun _ => rfl

@[simp] theorem nodeNames_erase : (c.erase id).nodeNames = c.nodeNames :=
  c.nodeNames_updateNode id.digest (·.erase id) fun _ => rfl

/-- A change of the home of an identity that shows at no other identity shows at no other place. -/
theorem storedAt_updateNode_of {f : Node → Node} {v : Option StoredRecord}
    (change : ∀ n other, (f n).find? other = if other = id then v else n.find? other)
    (place : Nat) (other : RecordId) :
    (c.updateNode id.digest f).storedAt place other =
      if place = c.home id.digest ∧ other = id then v else c.storedAt place other := by
  rw [storedAt_updateNode, change]
  by_cases here : place = c.home id.digest
  · subst here
    by_cases same : other = id
    · simp [same]
    · simp only [same, and_false, if_false, if_true]
      simp [storedAt, nodeOf, List.getElem?_eq_getElem (c.home_lt id.digest)]
  · simp [here]

theorem storedAt_put (r : StoredRecord) (place : Nat) (other : RecordId) :
    (c.put id r).storedAt place other =
      if place = c.home id.digest ∧ other = id then some r else c.storedAt place other :=
  c.storedAt_updateNode_of id (fun n other => n.find?_put id other r) place other

theorem storedAt_erase (place : Nat) (other : RecordId) :
    (c.erase id).storedAt place other =
      if place = c.home id.digest ∧ other = id then none else c.storedAt place other :=
  c.storedAt_updateNode_of id (fun n other => n.find?_erase id other) place other

@[simp] theorem find?_put (r : StoredRecord) (other : RecordId) :
    (c.put id r).find? other = if other = id then some r else c.find? other := by
  rw [find?_eq_storedAt, storedAt_put, home_put, ← find?_eq_storedAt]
  by_cases same : other = id <;> simp [same]

@[simp] theorem find?_erase (other : RecordId) :
    (c.erase id).find? other = if other = id then none else c.find? other := by
  rw [find?_eq_storedAt, storedAt_erase, home_erase, ← find?_eq_storedAt]
  by_cases same : other = id <;> simp [same]

end OneRecord

end Cluster

end RecordGate
