import Mathlib.Data.List.GetD
import RecordGate.Proofs.Store.Locality
import RecordGate.Proofs.Store.MapRecords
import RecordGate.Proofs.Store.TiedScans

/-!
# What damage hides

A damaged record shows neither its bins nor its versions, as long as it is not written. Clusters that differ in
those of one damaged record (`Cluster.Veiled`) answer every command alike that does not write the record
(`Veiled.answer`), and scans of them deliver the same (`Veiled.deliversAlike`).
-/

namespace RecordGate
set_option autoImplicit false

namespace StoredRecord

/-- Damaged records that differ in their bins and versions at most. -/
structure Veiled (r r' : StoredRecord) : Prop where
  damaged : r.corrupted = true
  damaged' : r'.corrupted = true
  setName : r'.setName = r.setName
  generation : r'.generation = r.generation
  expiration : r'.expiration = r.expiration

/-- What a scan can see of a record: of a damaged one neither its bins nor its versions. -/
def face (r : StoredRecord) : StoredRecord :=
  if r.corrupted then { r with bins := ∅, duplicates := [] } else r

theorem corrupted_face (r : StoredRecord) : r.face.corrupted = r.corrupted := by
  rw [face, apply_ite corrupted, ite_self]

theorem face_of_sound {r : StoredRecord} (sound : r.corrupted = false) : r.face = r := by
  rw [face, sound, if_neg Bool.false_ne_true]

theorem Veiled.face {r r' : StoredRecord} (veiled : r.Veiled r') : r'.face = r.face := by
  rw [StoredRecord.face, StoredRecord.face, if_pos veiled.damaged, if_pos veiled.damaged', veiled.setName,
    veiled.generation, veiled.expiration, veiled.damaged, veiled.damaged']

end StoredRecord

theorem Node.scanned_face (ns setName : String) (now : UInt32) (id : RecordId) (r : StoredRecord) :
    scanned ns setName now id r.face = scanned ns setName now id r := by
  cases damaged : r.corrupted with
  | false => rw [StoredRecord.face_of_sound damaged]
  | true =>
    rw [StoredRecord.face, if_pos damaged]
    rfl

/-- A scan delivers records by their faces. -/
theorem ScanScope.deliver_face {σ : Type} (scope : ScanScope) (visit : Visitor σ)
    (records : List (Digest × StoredRecord)) (summary : ScanSummary) (s : σ) :
    scope.deliver visit (records.map (Prod.map id StoredRecord.face)) summary s =
      scope.deliver visit records summary s := by
  induction records generalizing summary s with
  | nil => rfl
  | cons e rest ih =>
    obtain ⟨digest, r⟩ := e
    rw [List.map_cons, Prod.map_apply, deliver, deliver, StoredRecord.corrupted_face]
    cases damaged : r.corrupted with
    | true => exact ih _ s
    | false =>
      rw [if_neg Bool.false_ne_true, if_neg Bool.false_ne_true, StoredRecord.face_of_sound damaged]
      simp only [ih, id_eq]

namespace Cluster

/-! ## A damaged record -/

section Damaged

variable {c : Cluster} {now : UInt32} {key : Key} {r : StoredRecord} (live : c.live? now key.id = some r)
  (damaged : r.corrupted = true)
include live damaged

theorem readLive_of_damaged (selection : BinSelection) :
    c.readLive now key selection = .error (.corrupted key) := by
  rw [readLive, live]
  exact if_pos damaged

/-- Operations that only read are refused. -/
theorem operate_of_damaged (admits : c.Admits) {ops : List Operation}
    (reads : ops.any Operation.isWrite = false) (policy : WritePolicy) :
    c.operate now policy key ops =
      (.error (Refusal.corrupted key).toError, c.counted (.write policy)) := by
  have same : (c.counted (.write policy)).live? now key.id = some r := live
  rw [operate, serve_of_admits admits]
  simp only [same, Option.any_some, damaged, reads]
  rfl

end Damaged

/-! ## Clusters that differ behind a veil -/

/-- Where one cluster has a damaged record under an identity, the other has that record with other bins and
versions. They differ in nothing else that a command looks at. The record may be gone from both. -/
structure Veiled (id : RecordId) (r r' : StoredRecord) (c d : Cluster) : Prop where
  records : r.Veiled r'
  names : d.nodeNames = c.nodeNames
  here : c.find? id = some r ∧ d.find? id = some r' ∨ c.find? id = none ∧ d.find? id = none
  elsewhere : ∀ place other, ¬(place = c.home id.digest ∧ other = id) →
    d.storedAt place other = c.storedAt place other
  connected : d.connected = c.connected
  recordLimit : d.recordLimit = c.recordLimit
  faults : d.faults = c.faults

/-- A damaged record is changed behind its veil. -/
theorem veiled_put {c : Cluster} {id : RecordId} {r r' : StoredRecord} (found : c.find? id = some r)
    (records : r.Veiled r') : Veiled id r r' c (c.put id r') where
  records := records
  names := c.nodeNames_put id r'
  here := .inl ⟨found, by rw [find?_put, if_pos rfl]⟩
  elsewhere place other apart := by rw [storedAt_put, if_neg apart]
  connected := rfl
  recordLimit := rfl
  faults := rfl

namespace Veiled

variable {id : RecordId} {r r' : StoredRecord} {c d : Cluster}

section Seen

variable (veiled : Veiled id r r' c d)
include veiled

theorem length : d.nodes.length = c.nodes.length := by
  simpa only [nodeNames, List.length_map] using congrArg List.length veiled.names

theorem find?_of_other {other : RecordId} (apart : other ≠ id) : d.find? other = c.find? other := by
  rw [find?_eq_storedAt, find?_eq_storedAt, home_congr veiled.length, veiled.elsewhere]
  exact fun here => apart here.2

theorem congr {c' d' : Cluster} (nodes : c'.nodes = c.nodes) (nodes' : d'.nodes = d.nodes)
    (connected : d'.connected = c'.connected) (recordLimit : d'.recordLimit = c'.recordLimit)
    (faults : d'.faults = c'.faults) : Veiled id r r' c' d' where
  records := veiled.records
  names := by rw [nodeNames, nodes', nodeNames, nodes]; exact veiled.names
  here := by rw [find?_congr nodes, find?_congr nodes']; exact veiled.here
  elsewhere place other apart := by
    rw [home_congr (congrArg List.length nodes)] at apart
    rw [storedAt_congr nodes', storedAt_congr nodes, veiled.elsewhere place other apart]
  connected := connected
  recordLimit := recordLimit
  faults := faults

theorem put {other : RecordId} (apart : other ≠ id) (next : StoredRecord) :
    Veiled id r r' (c.put other next) (d.put other next) where
  records := veiled.records
  names := by rw [nodeNames_put, nodeNames_put, veiled.names]
  here := by
    rw [find?_put, find?_put, if_neg apart.symm, if_neg apart.symm]
    exact veiled.here
  elsewhere place other' away := by
    rw [home_put] at away
    rw [storedAt_put, storedAt_put, home_congr veiled.length, veiled.elsewhere place other' away]
  connected := veiled.connected
  recordLimit := veiled.recordLimit
  faults := veiled.faults

theorem erase (other : RecordId) : Veiled id r r' (c.erase other) (d.erase other) where
  records := veiled.records
  names := by rw [nodeNames_erase, nodeNames_erase, veiled.names]
  here := by
    rw [find?_erase, find?_erase]
    split
    · exact .inr ⟨rfl, rfl⟩
    · exact veiled.here
  elsewhere place other' away := by
    rw [home_erase] at away
    rw [storedAt_erase, storedAt_erase, home_congr veiled.length, veiled.elsewhere place other' away]
  connected := veiled.connected
  recordLimit := veiled.recordLimit
  faults := veiled.faults

/-- At a time either cluster has its own of the two records, or both have none. -/
theorem live (now : UInt32) :
    c.live? now id = some r ∧ d.live? now id = some r' ∨ c.live? now id = none ∧ d.live? now id = none := by
  have expired : r'.expiredAt now = r.expiredAt now := by
    rw [StoredRecord.expiredAt, StoredRecord.expiredAt, veiled.records.expiration]
  rw [live?, live?]
  rcases veiled.here with ⟨here, there⟩ | ⟨here, there⟩
  · rw [here, there, Option.filter_some, Option.filter_some, expired]
    cases r.expiredAt now with
    | true => exact .inr ⟨rfl, rfl⟩
    | false => exact .inl ⟨rfl, rfl⟩
  · rw [here, there]
    exact .inr ⟨rfl, rfl⟩

end Seen

/-- Under other identities than the record's, a veil is a likeness at all times. -/
theorem likeness (now : UInt32) (id : RecordId) (r r' : StoredRecord) :
    Likeness now (· ≠ id) (Veiled id r r') where
  live {c d} veiled other apart := by rw [live?, live?, veiled.find?_of_other apart]
  connected veiled := veiled.connected
  recordLimit veiled := veiled.recordLimit
  faults veiled := veiled.faults
  congr veiled := veiled.congr
  put veiled _ apart := veiled.put apart
  erase veiled other _ := veiled.erase other

/-! ## Commands -/

section Commands

variable (veiled : Veiled id r r' c d) (now : UInt32)
include veiled

theorem readLive (key : Key) (selection : BinSelection) :
    d.readLive now key selection = c.readLive now key selection := by
  by_cases here : key.id = id
  · subst here
    rcases veiled.live now with ⟨live, live'⟩ | ⟨live, live'⟩
    · rw [readLive_of_damaged live veiled.records.damaged, readLive_of_damaged live' veiled.records.damaged']
    · rw [Cluster.readLive, Cluster.readLive, live, live']
  · exact (likeness now id r r').readLive here veiled selection

theorem isLive (key : Key) : d.isLive now key = c.isLive now key := by
  by_cases here : key.id = id
  · rw [Cluster.isLive, Cluster.isLive, here]
    rcases veiled.live now with ⟨live, live'⟩ | ⟨live, live'⟩
    · rw [live, live']
      rfl
    · rw [live, live']
  · exact (likeness now id r r').isLive here veiled

theorem holds (key : Key) : d.holds key = c.holds key := by
  rw [Cluster.holds, Cluster.holds]
  by_cases here : key.id = id
  · rw [here]
    rcases veiled.here with ⟨found, found'⟩ | ⟨found, found'⟩
    · rw [found, found']
      rfl
    · rw [found, found']
  · rw [veiled.find?_of_other here]

theorem asksTime (command : Command) : d.asksTime command = c.asksTime command := by
  cases command with
  | get _ key _ | contains _ key | delete _ key => exact veiled.holds key
  | operate policy key ops => exact congrArg (· || _) (veiled.holds key)
  | batchGet _ keys _ | batchContains _ keys => exact congrArg keys.any (funext veiled.holds)
  | scanAll | scanNode => rfl

/-- The record itself is deleted, or not, by its generation. -/
theorem delete (policy : WritePolicy) (key : Key) :
    Tied (Veiled id r r') (c.delete now policy key) (d.delete now policy key) := by
  by_cases here : key.id = id
  · rw [delete_eq, delete_eq]
    refine (likeness now id r r').serve veiled _ fun {c d} veiled => ?_
    rw [here]
    rcases veiled.live now with ⟨live, live'⟩ | ⟨live, live'⟩
    · rw [live, live']
      dsimp only
      rw [veiled.records.generation]
      split
      · exact ⟨rfl, veiled⟩
      · exact ⟨rfl, veiled.erase id⟩
    · rw [live, live']
      exact ⟨rfl, veiled.erase id⟩
  · exact (likeness now id r r').delete here veiled policy

/-- Operations that only read are refused where the record is live. -/
theorem operate (policy : WritePolicy) (key : Key) (ops : List Operation)
    (unwritten : (Command.operate policy key ops).writes id = false) :
    Tied (Veiled id r r') (c.operate now policy key ops) (d.operate now policy key ops) := by
  by_cases here : key.id = id
  · have reads : ops.any Operation.isWrite = false := by
      simpa [Command.writes, Command.target?, Command.isWrite, here] using unwritten
    refine (likeness now id r r').serve veiled _ fun {c d} veiled => ?_
    simp only [here, execute_of_reads reads]
    rcases veiled.live now with ⟨live, live'⟩ | ⟨live, live'⟩
    · simp only [live, live', Option.any_some, veiled.records.damaged, veiled.records.damaged', reads]
      exact ⟨rfl, veiled⟩
    · rw [live, live']
      exact ⟨rfl, veiled⟩
  · exact (likeness now id r r').operate here veiled policy ops

/-- **What damage hides shows in the answer of no command that does not write the record.** -/
theorem answer {command : Command} (unwritten : command.writes id = false) :
    Tied (Veiled id r r') (c.answer now command) (d.answer now command) := by
  have like := likeness now id r r'
  cases command with
  | get policy key selection =>
    exact like.reads veiled (.read policy) (·.readLive now key selection) .record
      fun veiled => veiled.readLive now key selection
  | contains policy key =>
    exact like.reads veiled (.read policy) (fun c => .ok (c.isLive now key)) .flag
      fun veiled => congrArg _ (veiled.isLive now key)
  | delete policy key => exact (veiled.delete now policy key).map CommandReply.flag
  | operate policy key ops => exact (veiled.operate now policy key ops unwritten).map CommandReply.written
  | batchGet policy keys selection =>
    refine like.reads veiled (.read policy)
      (fun c => .ok (keys.map fun key => (c.readLive now key selection).mapError Refusal.toError))
      .records fun veiled => ?_
    simp only [veiled.readLive]
  | batchContains policy keys =>
    refine like.reads veiled (.read policy) (fun c => .ok (keys.map (c.isLive now))) .flags fun veiled => ?_
    rw [funext (veiled.isLive now)]
  | scanAll policy | scanNode policy =>
    exact like.reads veiled (.scan policy) (fun _ => .ok {}) .summary fun _ => rfl

end Commands

/-! ## Scans -/

section Scans

variable (veiled : Veiled id r r' c d)
include veiled

theorem nodes_face : d.nodes.map (Node.mapRecords .face) = c.nodes.map (Node.mapRecords .face) := by
  have names : (d.mapRecords .face).nodeNames = (c.mapRecords .face).nodeNames := by
    rw [nodeNames_mapRecords, nodeNames_mapRecords, veiled.names]
  refine nodes_eq_of_storedAt names fun place other => ?_
  rw [storedAt_mapRecords, storedAt_mapRecords]
  by_cases here : place = c.home id.digest ∧ other = id
  · obtain ⟨rfl, rfl⟩ := here
    have home : d.home other.digest = c.home other.digest := home_congr veiled.length _
    rw [← home, ← find?_eq_storedAt, home, ← find?_eq_storedAt]
    rcases veiled.here with ⟨found, found'⟩ | ⟨found, found'⟩ <;> rw [found, found']
    exact congrArg some veiled.records.face
  · rw [veiled.elsewhere place other here]

theorem nodesIn {σ : Type} (cluster : σ → Cluster) {s t : σ} (here : cluster s = c) (there : cluster t = d) :
    nodesIn cluster t = nodesIn cluster s := by
  rw [Cluster.nodesIn, Cluster.nodesIn, here, there, veiled.length]

theorem nodeNamed? {σ : Type} (cluster : σ → Cluster) {s t : σ} (here : cluster s = c) (there : cluster t = d)
    (name : String) : nodeNamed? cluster t name = nodeNamed? cluster s name := by
  have named (c : Cluster) : c.nodes.findIdx? (·.name == name) = c.nodeNames.findIdx? (· == name) := by
    rw [nodeNames, List.findIdx?_map]
    rfl
  rw [Cluster.nodeNamed?, Cluster.nodeNamed?, here, there, named, named, veiled.names]

end Scans

/-- A node of veiled clusters delivers the same. -/
theorem deliversAlike {σ : Type} {R : σ → σ → Prop} (cluster : σ → Cluster)
    (veils : ∀ ⦃s t⦄, R s t → Veiled id r r' (cluster s) (cluster t)) (scope : ScanScope) (visit : Visitor σ)
    (place : Nat) : scope.DeliversAlike visit R fun t => (cluster t).nodes.getD place default := by
  intro s t related now
  have faces := congrArg (·.getD place (Node.mapRecords .face default)) (veils related).nodes_face
  simp only [List.getD_map] at faces
  have copies := congrArg (·.snapshot scope.ns scope.setName now) faces
  simp only [Node.snapshot_mapRecords _ (Node.scanned_face scope.ns scope.setName now)] at copies
  funext summary u
  rw [← scope.deliver_face, copies, scope.deliver_face]

end Veiled

end Cluster

end RecordGate
