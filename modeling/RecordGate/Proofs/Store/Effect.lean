import RecordGate.Proofs.Client.Command
import RecordGate.Proofs.Store.Served

/-!
# What a command does to the records

`Cluster.answer` runs a command that is given as data, and `answer_effect` says what it does to the
records: nothing, or it removes or replaces the record of its key. What a scan does beside being let in is
its visitor's doing and stands with the visits.
-/

namespace RecordGate
set_option autoImplicit false

/-- The policy of a command. -/
def Command.policy : Command → CommandPolicy
  | .get policy .. | .contains policy _ | .batchGet policy .. | .batchContains policy _ => .read policy
  | .delete policy _ | .operate policy .. => .write policy
  | .scanAll policy .. | .scanNode policy .. => .scan policy

/-- Whether a command hands rows to a handler. -/
def Command.isScan : Command → Bool
  | .scanAll .. | .scanNode .. => true
  | _ => false

theorem Command.target?_of_isScan (command : Command) (scan : command.isScan = true) :
    command.target? = none := by
  cases command <;> first | rfl | cases scan

namespace Cluster

/-- How a cluster answers a command at a time. A scan is here one that visits no node. -/
def answer (c : Cluster) (now : UInt32) : Command → CommandReply × Cluster
  | .get policy key selection => (c.get now policy key selection).map .record id
  | .contains policy key => (c.contains now policy key).map .flag id
  | .delete policy key => (c.delete now policy key).map .flag id
  | .operate policy key ops => (c.operate now policy key ops).map .written id
  | .batchGet policy keys selection => (c.batchGet now policy keys selection).map .records id
  | .batchContains policy keys => (c.batchContains now policy keys).map .flags id
  | .scanAll policy _ _ | .scanNode policy _ _ _ =>
    (c.serve (.scan policy) fun c => (.ok {}, c)).map .summary id

/-- Whether a command asks for the time, once it is let in. -/
def asksTime (c : Cluster) : Command → Bool
  | .get _ key _ | .contains _ key | .delete _ key => c.holds key
  | .operate policy key ops => c.operateAsksTime policy key ops
  | .batchGet _ keys _ | .batchContains _ keys => keys.any c.holds
  | .scanAll .. | .scanNode .. => true

/-- What may happen to the records when a command is answered. -/
inductive Effect (c : Cluster) (now : UInt32) : Command → CommandReply → Cluster → Prop
  /-- The command failed, or it is no write. -/
  | kept {command : Command} {reply : CommandReply} {d : Cluster} (nodes : d.nodes = c.nodes)
      (idle : reply.isOk = true → command.isWrite = false) :
      Effect c now command reply d
  | erased {policy : WritePolicy} {key : Key} {d : Cluster} (admits : c.Admits)
      (nodes : d.nodes = (c.erase key.id).nodes) :
      Effect c now (.delete policy key) (.flag (.ok (c.isLive now key))) d
  | wrote {policy : WritePolicy} {key : Key} {ops : List Operation} {d : Cluster}
      (next : StoredRecord) (admits : c.Admits) (writes : ops.any Operation.isWrite = true)
      (written : Written (c.live? now key.id) (key.setName.getD "") policy ops c.recordLimit now next)
      (nodes : d.nodes = (c.put key.id next).nodes) :
      Effect c now (.operate policy key ops) (.written (.ok (next.view (Operation.selection ops)))) d

theorem effect_of_reads {α : Type} {c : Cluster} {now : UInt32} (command : Command)
    (reads : command.isWrite = false) (policy : CommandPolicy) (body : Cluster → Except Refusal α)
    (kind : Reply α → CommandReply) :
    Effect c now command (kind (c.serve policy fun c => (body c, c)).1)
        (c.serve policy fun c => (body c, c)).2 ∧
      Spared c (c.serve policy fun c => (body c, c)).2 := by
  have served : (c.serve policy fun c => (body c, c)).2.nodes = c.nodes ∧ _ :=
    serve_reads fun _ => rfl
  obtain ⟨nodes, spared⟩ := served
  refine ⟨.kept nodes ?_, spared⟩
  intro _
  exact reads

/-- **One command, one effect.** -/
theorem answer_effect (c : Cluster) (now : UInt32) (command : Command) :
    Effect c now command (c.answer now command).1 (c.answer now command).2 ∧
      Spared c (c.answer now command).2 := by
  cases command with
  | get policy key selection =>
    exact effect_of_reads (.get policy key selection) rfl (.read policy)
      (fun c => c.readLive now key selection) .record
  | contains policy key =>
    exact effect_of_reads (.contains policy key) rfl (.read policy)
      (fun c => .ok (c.isLive now key)) .flag
  | batchGet policy keys selection =>
    exact effect_of_reads (.batchGet policy keys selection) rfl (.read policy)
      (fun c => .ok (keys.map fun key => (c.readLive now key selection).mapError Refusal.toError))
      .records
  | batchContains policy keys =>
    exact effect_of_reads (.batchContains policy keys) rfl (.read policy)
      (fun c => .ok (keys.map (c.isLive now))) .flags
  | scanAll policy ns setName =>
    exact effect_of_reads (.scanAll policy ns setName) rfl (.scan policy) (fun _ => .ok {}) .summary
  | scanNode policy node ns setName =>
    exact effect_of_reads (.scanNode policy node ns setName) rfl (.scan policy) (fun _ => .ok {})
      .summary
  | delete policy key =>
    obtain ⟨effect, spared⟩ := c.delete_effect now policy key
    refine ⟨?_, spared⟩
    simp only [answer, Prod.map_fst, Prod.map_snd, id_eq]
    cases effect with
    | erased admits nodes reply => exact reply ▸ .erased admits nodes
    | kept nodes missing => exact .kept nodes fun _ => rfl
  | operate policy key ops =>
    obtain ⟨effect, spared⟩ := c.operate_effect now policy key ops
    refine ⟨?_, spared⟩
    simp only [answer, Prod.map_fst, Prod.map_snd, id_eq]
    cases effect with
    | wrote next admits writes written nodes reply =>
      exact reply ▸ .wrote next admits writes written nodes
    | kept nodes idle => exact .kept nodes idle

/-- A command that fails or reads has no effect on the records. -/
theorem Effect.nodes_of_idle {c d : Cluster} {now : UInt32} {command : Command}
    {reply : CommandReply} (effect : Effect c now command reply d)
    (idle : reply.isOk = false ∨ command.isRead = true) : d.nodes = c.nodes := by
  cases effect with
  | kept nodes _ => exact nodes
  | erased admits nodes => rcases idle with failed | reads <;> contradiction
  | wrote next admits writes written nodes =>
    rcases idle with failed | reads
    · contradiction
    · rw [Command.isRead, writes] at reads
      contradiction

theorem Effect.names {c d : Cluster} {now : UInt32} {command : Command} {reply : CommandReply}
    (effect : Effect c now command reply d) : d.nodeNames = c.nodeNames := by
  cases effect with
  | kept nodes idle => rw [nodeNames, nodes, nodeNames]
  | @erased _ key _ admits nodes => exact (congrArg _ nodes).trans (c.nodeNames_erase key.id)
  | @wrote _ key _ _ next admits writes written nodes =>
    exact (congrArg _ nodes).trans (c.nodeNames_put key.id next)

/-- What was removed or replaced was the one record of the command's key. -/
theorem Effect.elsewhere {c d : Cluster} {now : UInt32} {command : Command} {reply : CommandReply}
    (effect : Effect c now command reply d) {key : Key} (target : command.target? = some key)
    {place : Nat} {id : RecordId} (other : ¬ (place = c.home key.digest ∧ id = key.id)) :
    d.storedAt place id = c.storedAt place id := by
  cases effect with
  | kept nodes idle => exact storedAt_congr nodes place id
  | erased admits nodes =>
    cases target
    rw [storedAt_congr nodes, storedAt_erase]
    exact if_neg other
  | wrote next admits writes written nodes =>
    cases target
    rw [storedAt_congr nodes, storedAt_put]
    exact if_neg other

end Cluster

end RecordGate
