import RecordGate.Proofs.Store.Likeness

/-!
# What a command on one record sees

To agree on an identity (`AgreeAt`) is a likeness that has seen that identity alone. So a command on its record
is answered the same, and the clusters still agree then (`AgreeAt.answer`). Under every other identity the
command leaves a cluster that agrees with the one before (`agreeAt_answer`). Of damage the same two hold.
-/

namespace RecordGate.Cluster
set_option autoImplicit false

/-- Clusters keep the same records if they do under every identity. -/
theorem nodes_eq_of_storedAt {c d : Cluster} (names : d.nodeNames = c.nodeNames)
    (stored : ∀ place id, d.storedAt place id = c.storedAt place id) : d.nodes = c.nodes := by
  have length : d.nodes.length = c.nodes.length := by
    simpa only [nodeNames, List.length_map] using congrArg List.length names
  apply List.ext_getElem length
  intro place h h'
  have name : (d.nodes[place]).name = (c.nodes[place]).name := by
    have there := congrArg (·[place]?) names
    simpa only [nodeNames, List.getElem?_map, List.getElem?_eq_getElem h, List.getElem?_eq_getElem h',
      Option.map_some, Option.some.injEq] using there
  have records : (d.nodes[place]).records = (c.nodes[place]).records := by
    apply OrderedMap.ext_get?
    intro id
    have there := stored place id
    rwa [storedAt, storedAt, List.getElem?_eq_getElem h, List.getElem?_eq_getElem h'] at there
  generalize d.nodes[place] = n at name records ⊢
  generalize c.nodes[place] = m at name records ⊢
  cases n
  cases m
  cases name
  cases records
  rfl

/-- The same nodes with the same records under an identity, and the same connection and faults. -/
structure AgreeAt (id : RecordId) (c d : Cluster) : Prop where
  names : d.nodeNames = c.nodeNames
  stored : ∀ place, d.storedAt place id = c.storedAt place id
  connected : d.connected = c.connected
  recordLimit : d.recordLimit = c.recordLimit
  faults : d.faults = c.faults

namespace AgreeAt

variable {id : RecordId} {c d e : Cluster}

theorem refl (id : RecordId) (c : Cluster) : AgreeAt id c c := ⟨rfl, fun _ => rfl, rfl, rfl, rfl⟩

theorem symm (agree : AgreeAt id c d) : AgreeAt id d c where
  names := agree.names.symm
  stored place := (agree.stored place).symm
  connected := agree.connected.symm
  recordLimit := agree.recordLimit.symm
  faults := agree.faults.symm

theorem trans (first : AgreeAt id c d) (second : AgreeAt id d e) : AgreeAt id c e where
  names := second.names.trans first.names
  stored place := (second.stored place).trans (first.stored place)
  connected := second.connected.trans first.connected
  recordLimit := second.recordLimit.trans first.recordLimit
  faults := second.faults.trans first.faults

section Seen

variable (agree : AgreeAt id c d)
include agree

theorem home (digest : Digest) : d.home digest = c.home digest := by
  apply home_congr
  simpa only [nodeNames, List.length_map] using congrArg List.length agree.names

theorem find? : d.find? id = c.find? id := by
  rw [find?_eq_storedAt, find?_eq_storedAt, agree.home, agree.stored]

theorem put (r : StoredRecord) : AgreeAt id (c.put id r) (d.put id r) where
  names := by rw [nodeNames_put, nodeNames_put, agree.names]
  stored place := by rw [storedAt_put, storedAt_put, agree.home, agree.stored]
  connected := agree.connected
  recordLimit := agree.recordLimit
  faults := agree.faults

theorem erase : AgreeAt id (c.erase id) (d.erase id) where
  names := by rw [nodeNames_erase, nodeNames_erase, agree.names]
  stored place := by rw [storedAt_erase, storedAt_erase, agree.home, agree.stored]
  connected := agree.connected
  recordLimit := agree.recordLimit
  faults := agree.faults

end Seen

/-- To agree on an identity is a likeness that has seen it. -/
theorem likeness (now : UInt32) (id : RecordId) : Likeness now (· = id) (AgreeAt id) where
  live {c d} agree seen here := by
    subst here
    rw [live?, live?, agree.find?]
  connected agree := agree.connected
  recordLimit agree := agree.recordLimit
  faults agree := agree.faults
  congr {c d c' d'} agree nodes nodes' connected recordLimit faults :=
    { names := by rw [nodeNames, nodes', nodeNames, nodes]; exact agree.names
      stored := by
        intro place
        rw [storedAt_congr nodes', storedAt_congr nodes, agree.stored]
      connected, recordLimit, faults }
  put agree _ here r := here ▸ agree.put r
  erase agree _ here := here ▸ agree.erase

theorem accept (agree : AgreeAt id c d) (policy : CommandPolicy) :
    Tied (AgreeAt id) (c.accept policy) (d.accept policy) :=
  (likeness 0 id).accept agree policy

/-! ## Commands on the record -/

section OneRecord

variable {key : Key} {command : Command}

/-- **A command on a record sees no other.** -/
theorem answer (agree : AgreeAt key.id c d) (now : UInt32) (about : command.keys = [key]) :
    Tied (AgreeAt key.id) (c.answer now command) (d.answer now command) := by
  apply (likeness now key.id).answer agree command
  rw [about, List.forall_mem_singleton]

theorem asksTime (agree : AgreeAt key.id c d) (about : command.keys = [key]) :
    d.asksTime command = c.asksTime command := by
  have holds : d.holds key = c.holds key := by rw [Cluster.holds, Cluster.holds, agree.find?]
  cases command with
  | get | contains | delete =>
    cases about
    exact holds
  | operate policy _ ops =>
    cases about
    exact congrArg (· || _) holds
  | batchGet _ keys | batchContains _ keys =>
    cases about
    exact congrArg (· || false) holds
  | scanAll | scanNode => cases about

theorem corrupt (agree : AgreeAt key.id c d) : Tied (AgreeAt key.id) (c.corrupt key) (d.corrupt key) := by
  rw [Cluster.corrupt, Cluster.corrupt, agree.find?]
  cases c.find? key.id with
  | none => exact ⟨rfl, agree⟩
  | some r => exact ⟨rfl, agree.put _⟩

end OneRecord

end AgreeAt

/-! ## Commands on another record -/

section Elsewhere

variable {c : Cluster} {key : Key} {id : RecordId} (other : id ≠ key.id)

include other in
/-- **A command on a record touches no other.** -/
theorem agreeAt_answer (admits : c.Admits) (now : UInt32) {command : Command} (about : command.keys = [key]) :
    AgreeAt id c (c.answer now command).2 := by
  obtain ⟨effect, spared⟩ := c.answer_effect now command
  have faults := (spared.admits admits).faults.trans admits.faults.symm
  refine ⟨effect.names, ?_, spared.connected, spared.recordLimit, faults⟩
  intro place
  cases command with
  | get | contains | batchGet | batchContains => exact storedAt_congr (effect.nodes_of_idle (.inr rfl)) place id
  | delete | operate =>
    cases about
    exact effect.elsewhere rfl fun here => other here.2
  | scanAll | scanNode => cases about

theorem agreeAt_accept (admits : c.Admits) (policy : CommandPolicy) : AgreeAt id c (c.accept policy).2 := by
  rw [accept_of_admits admits]
  exact ⟨rfl, fun _ => rfl, rfl, rfl, rfl⟩

include other in
theorem agreeAt_corrupt : AgreeAt id c (c.corrupt key).2 := by
  rw [corrupt]
  cases c.find? key.id with
  | none => exact .refl id c
  | some r =>
    refine ⟨c.nodeNames_put key.id _, ?_, rfl, rfl, rfl⟩
    intro place
    rw [storedAt_put, if_neg fun here => other here.2]

end Elsewhere

end RecordGate.Cluster
