import RecordGate.Proofs.Store.Effect

/-!
# Relations that commands keep

A likeness at a time is a relation of clusters that find the same live records, under the identities that it
has seen, and treat the next command the same. It stays when the same record is stored or erased on both
sides. Clusters in a likeness answer every command on what it has seen the same and are in it afterwards
(`Likeness.answer`).
-/

namespace RecordGate
set_option autoImplicit false

/-- The keys under which a command looks. A scan has none. -/
def Command.keys : Command → List Key
  | .get _ key _ | .contains _ key | .delete _ key | .operate _ key _ => [key]
  | .batchGet _ keys _ | .batchContains _ keys => keys
  | .scanAll .. | .scanNode .. => []

theorem Node.erase_of_missing {n : Node} {id : RecordId} (missing : n.find? id = none) :
    n.erase id = n := by
  have records : n.records.erase id = n.records := by
    apply OrderedMap.ext_get?
    intro other
    rw [OrderedMap.get?_erase]
    split
    · next here => rw [here]; exact missing.symm
    · rfl
  rw [erase, records]

namespace Cluster

theorem erase_of_missing {c : Cluster} {id : RecordId} (missing : c.find? id = none) :
    c.erase id = c := by
  have nodes : (c.erase id).nodes = c.nodes := by
    apply List.ext_getElem
    · exact c.length_erase id
    · intro place h h'
      simp only [erase, updateNode, List.getElem_modify]
      split
      · next here =>
        subst here
        exact Node.erase_of_missing missing
      · rfl
  obtain ⟨_, _, _, _, _, _, _⟩ := c
  simp only [erase, updateNode] at nodes ⊢
  simp only [nodes]

/-- A deletion looks at a record only if it is live; in any case nothing else is left under the key. -/
theorem delete_eq (c : Cluster) (now : UInt32) (policy : WritePolicy) (key : Key) :
    c.delete now policy key = c.serve (.write policy) fun c =>
      match c.live? now key.id with
      | none => (.ok false, c.erase key.id)
      | some r =>
        if policy.generationCheck = .equal ∧ r.generation ≠ policy.generation then
          (.error (.generationMismatch policy.generation r.generation), c)
        else (.ok true, c.erase key.id) := by
  rw [delete]
  congr 1
  funext c
  rw [live?]
  cases found : c.find? key.id with
  | none =>
    rw [erase_of_missing found]
    rfl
  | some r =>
    rw [Option.filter_some]
    cases expired : r.expiredAt now with
    | true => simp only [expired, if_true, Bool.not_true, Bool.false_eq_true, if_false]
    | false => simp only [expired, Bool.false_eq_true, if_false, Bool.not_false, if_true]

/-- A relation of clusters that cannot be told apart by a command at a time, as far as a command looks under
identities that the relation has seen. -/
structure Likeness (now : UInt32) (seen : RecordId → Prop) (R : Cluster → Cluster → Prop) : Prop where
  live : ∀ {c d}, R c d → ∀ id, seen id → d.live? now id = c.live? now id
  connected : ∀ {c d}, R c d → d.connected = c.connected
  recordLimit : ∀ {c d}, R c d → d.recordLimit = c.recordLimit
  faults : ∀ {c d}, R c d → d.faults = c.faults
  congr : ∀ {c d c' d'}, R c d → c'.nodes = c.nodes → d'.nodes = d.nodes →
    d'.connected = c'.connected → d'.recordLimit = c'.recordLimit → d'.faults = c'.faults → R c' d'
  put : ∀ {c d}, R c d → ∀ id, seen id → ∀ r, R (c.put id r) (d.put id r)
  erase : ∀ {c d}, R c d → ∀ id, seen id → R (c.erase id) (d.erase id)

namespace Likeness

variable {now : UInt32} {seen : RecordId → Prop} {R : Cluster → Cluster → Prop} (like : Likeness now seen R)
  {c d : Cluster}
include like

theorem accept (related : R c d) (policy : CommandPolicy) :
    Tied R (c.accept policy) (d.accept policy) := by
  have connected := like.connected related
  have limit := like.recordLimit related
  have faults := like.faults related
  unfold Cluster.accept
  by_cases isOpen : c.connected = true
  · rw [if_pos isOpen, if_pos (connected.trans isOpen)]
    cases held : c.faults with
    | nil =>
      rw [held] at faults
      simp only [faults]
      exact ⟨rfl, like.congr related rfl rfl connected limit rfl⟩
    | cons e rest =>
      rw [held] at faults
      simp only [faults]
      exact ⟨rfl, like.congr related rfl rfl connected limit rfl⟩
  · rw [if_neg isOpen, if_neg (connected ▸ isOpen)]
    exact ⟨rfl, like.congr related rfl rfl connected limit faults⟩

theorem serve {α : Type} (related : R c d) (policy : CommandPolicy)
    {body : Cluster → Except Refusal α × Cluster}
    (bodies : ∀ {c d}, R c d → Tied R (body c) (body d)) :
    Tied R (c.serve policy body) (d.serve policy body) := by
  obtain ⟨reply, c', d', here, there, accepted⟩ := (like.accept related policy).split
  rw [Cluster.serve, Cluster.serve, here, there]
  cases reply with
  | error e => exact ⟨rfl, accepted⟩
  | ok _ =>
    obtain ⟨result, c'', d'', here', there', after⟩ := (bodies accepted).split
    dsimp only
    rw [here', there']
    cases result with
    | error refusal => exact ⟨rfl, after⟩
    | ok a => exact ⟨rfl, after⟩

theorem reads {α : Type} (related : R c d) (policy : CommandPolicy) (read : Cluster → Except Refusal α)
    (kind : Reply α → CommandReply) (same : ∀ {c d}, R c d → read d = read c) :
    Tied R ((c.serve policy fun c => (read c, c)).map kind id)
      ((d.serve policy fun c => (read c, c)).map kind id) :=
  (like.serve related policy fun related => ⟨same related, related⟩).map kind

section OneRecord

variable {key : Key} (here : seen key.id)
include here

theorem readLive (related : R c d) (selection : BinSelection) :
    d.readLive now key selection = c.readLive now key selection := by
  rw [Cluster.readLive, Cluster.readLive, like.live related key.id here]

theorem isLive (related : R c d) : d.isLive now key = c.isLive now key := by
  rw [Cluster.isLive, Cluster.isLive, like.live related key.id here]

theorem delete (related : R c d) (policy : WritePolicy) :
    Tied R (c.delete now policy key) (d.delete now policy key) := by
  rw [delete_eq, delete_eq]
  apply like.serve related
  intro c d related
  rw [like.live related key.id here]
  cases c.live? now key.id with
  | none => exact ⟨rfl, like.erase related key.id here⟩
  | some r =>
    dsimp only
    split
    · exact ⟨rfl, related⟩
    · exact ⟨rfl, like.erase related key.id here⟩

theorem operate (related : R c d) (policy : WritePolicy) (ops : List Operation) :
    Tied R (c.operate now policy key ops) (d.operate now policy key ops) := by
  apply like.serve related
  intro c d related
  rw [like.live related key.id here, like.recordLimit related]
  dsimp only
  split
  · exact ⟨rfl, related⟩
  · rcases execute (c.live? now key.id) (key.setName.getD "") policy ops c.recordLimit now
      with refusal | ⟨_ | r, _⟩
    · exact ⟨rfl, related⟩
    · exact ⟨rfl, related⟩
    · exact ⟨rfl, like.put related key.id here r⟩

end OneRecord

/-- **Clusters in a likeness answer every command on what it has seen the same**, and are in it afterwards. -/
theorem answer (related : R c d) (command : Command) (within : ∀ key ∈ command.keys, seen key.id) :
    Tied R (c.answer now command) (d.answer now command) := by
  cases command with
  | get policy key selection =>
    have here := within key List.mem_cons_self
    exact like.reads related (.read policy) (·.readLive now key selection) .record
      fun related => like.readLive here related selection
  | contains policy key =>
    have here := within key List.mem_cons_self
    exact like.reads related (.read policy) (fun c => .ok (c.isLive now key)) .flag
      fun related => congrArg _ (like.isLive here related)
  | delete policy key =>
    exact (like.delete (within key List.mem_cons_self) related policy).map CommandReply.flag
  | operate policy key ops =>
    exact (like.operate (within key List.mem_cons_self) related policy ops).map CommandReply.written
  | batchGet policy keys selection =>
    refine like.reads related (.read policy)
      (fun c => .ok (keys.map fun key => (c.readLive now key selection).mapError Refusal.toError))
      .records fun related => ?_
    have same : ∀ key ∈ keys, (_ : Reply (Option Record)) = _ := fun key member =>
      congrArg (·.mapError Refusal.toError) (like.readLive (within key member) related selection)
    exact congrArg Except.ok (List.map_congr_left same)
  | batchContains policy keys =>
    refine like.reads related (.read policy) (fun c => .ok (keys.map (c.isLive now))) .flags
      fun related => ?_
    exact congrArg Except.ok (List.map_congr_left fun key member => like.isLive (within key member) related)
  | scanAll policy _ _ | scanNode policy _ _ _ =>
    exact like.reads related (.scan policy) (fun _ => .ok {}) .summary fun _ => rfl

theorem failNext (related : R c d) (e : ClientError) : R (c.failNext e) (d.failNext e) := by
  have connected := like.connected related
  have limit := like.recordLimit related
  have faults := congrArg (· ++ [e]) (like.faults related)
  exact like.congr related rfl rfl connected limit faults

theorem setConnected (related : R c d) (connected : Bool) :
    R (c.setConnected connected) (d.setConnected connected) := by
  have limit := like.recordLimit related
  have faults := like.faults related
  exact like.congr related rfl rfl rfl limit faults

theorem connect (related : R c d) (seeds hosts : List Host) :
    Tied R (c.connect seeds hosts) (d.connect seeds hosts) := by
  rw [Cluster.connect, Cluster.connect]
  split
  · exact ⟨rfl, related⟩
  · split
    · exact ⟨rfl, like.setConnected related true⟩
    · exact ⟨rfl, related⟩

end Likeness

end Cluster

end RecordGate
