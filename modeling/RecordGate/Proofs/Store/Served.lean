import RecordGate.Proofs.Store.Execute
import RecordGate.Proofs.Store.Places

/-!
# What a served command changes

A command is turned away, and then no record changes, or it is let in. `Spared` is what every command
leaves alone beside the records. Of the commands on one record `operate_effect` and `delete_effect` say
all that can happen to the records; the other commands change none.
-/

namespace RecordGate
set_option autoImplicit false

namespace Cluster

/-- The cluster after it has counted a command. -/
def counted (c : Cluster) (policy : CommandPolicy) : Cluster :=
  { c with calls := c.calls + 1, lastPolicy := some policy }

/-- Whether the next command is let in. -/
structure Admits (c : Cluster) : Prop where
  connected : c.connected = true
  faults : c.faults = []

/-- What a command leaves alone: it neither connects nor closes, and adds no fault. -/
structure Spared (c d : Cluster) : Prop where
  connected : d.connected = c.connected
  recordLimit : d.recordLimit = c.recordLimit
  faults : d.faults <:+ c.faults

theorem Spared.refl (c : Cluster) : Spared c c := ⟨rfl, rfl, List.suffix_refl _⟩

theorem Spared.admits {c d : Cluster} (spared : Spared c d) (admits : c.Admits) : d.Admits where
  connected := spared.connected.trans admits.connected
  faults := List.suffix_nil.1 (admits.faults ▸ spared.faults)

theorem spared_counted (c : Cluster) (policy : CommandPolicy) : Spared c (c.counted policy) :=
  ⟨rfl, rfl, List.suffix_refl _⟩

theorem spared_put (c : Cluster) (policy : CommandPolicy) (id : RecordId) (r : StoredRecord) :
    Spared c ((c.counted policy).put id r) :=
  ⟨rfl, rfl, List.suffix_refl _⟩

theorem spared_erase (c : Cluster) (policy : CommandPolicy) (id : RecordId) :
    Spared c ((c.counted policy).erase id) :=
  ⟨rfl, rfl, List.suffix_refl _⟩

/-! ## Acceptance -/

theorem accept_of_admits {c : Cluster} (admits : c.Admits) (policy : CommandPolicy) :
    c.accept policy = (.ok (), c.counted policy) := by
  unfold accept
  rw [if_pos admits.connected]
  simp only [counted, admits.faults]

/-- A closed connection turns every command away, before any fault. -/
theorem accept_of_closed {c : Cluster} (closed : c.connected = false) (policy : CommandPolicy) :
    c.accept policy = (.error Refusal.notConnected.toError, c.counted policy) := by
  have unconnected : ¬ c.connected = true := by simp only [closed, Bool.false_eq_true, not_false_eq_true]
  unfold accept
  rw [if_neg unconnected]
  rfl

/-- The oldest fault turns a command away that reaches the cluster. -/
theorem accept_of_fault {c : Cluster} {e : ClientError} {rest : List ClientError}
    (connected : c.connected = true) (faults : c.faults = e :: rest) (policy : CommandPolicy) :
    c.accept policy = (.error e, { c.counted policy with faults := rest }) := by
  unfold accept
  rw [if_pos connected]
  simp only [counted, faults]

/-- A command that is turned away fails, and changes no record. -/
theorem accept_of_not_admits {c : Cluster} (not : ¬ c.Admits) (policy : CommandPolicy) :
    ∃ e d, c.accept policy = (.error e, d) ∧ d.nodes = c.nodes ∧ Spared c d := by
  cases connected : c.connected with
  | true =>
    cases faults : c.faults with
    | nil => exact absurd ⟨connected, faults⟩ not
    | cons e rest =>
      exact ⟨e, _, accept_of_fault connected faults policy, rfl, rfl, rfl, faults ▸ List.suffix_cons e rest⟩
  | false => exact ⟨_, _, accept_of_closed connected policy, rfl, c.spared_counted policy⟩

/-- Whether a command is turned away, and why, does not hang on its policy. -/
theorem accept_fst (c : Cluster) (policy policy' : CommandPolicy) :
    (c.accept policy).1 = (c.accept policy').1 := by
  unfold accept
  cases c.connected with
  | false => rfl
  | true => cases c.faults <;> rfl

theorem accept_keeps (c : Cluster) (policy : CommandPolicy) :
    (c.accept policy).2.nodes = c.nodes ∧ Spared c (c.accept policy).2 := by
  by_cases admits : c.Admits
  · rw [accept_of_admits admits]
    exact ⟨rfl, c.spared_counted policy⟩
  · obtain ⟨e, d, accept, kept⟩ := accept_of_not_admits admits policy
    rw [accept]
    exact kept

section Serve

variable {α : Type} {c : Cluster} {policy : CommandPolicy}
  {body : Cluster → Except Refusal α × Cluster}

theorem serve_of_admits (admits : c.Admits) :
    c.serve policy body =
      ((body (c.counted policy)).1.mapError Refusal.toError, (body (c.counted policy)).2) := by
  rw [serve, accept_of_admits admits]
  dsimp only
  rcases body (c.counted policy) with ⟨_ | _, _⟩ <;> rfl

theorem serve_of_not_admits (not : ¬ c.Admits) :
    ∃ e d, c.serve policy body = (.error e, d) ∧ d.nodes = c.nodes ∧ Spared c d := by
  obtain ⟨e, d, accept, kept⟩ := accept_of_not_admits not policy
  exact ⟨e, d, by rw [serve, accept], kept⟩

/-- A body that changes no record makes a command that changes none. -/
theorem serve_reads (reads : ∀ c, (body c).2 = c) :
    (c.serve policy body).2.nodes = c.nodes ∧ Spared c (c.serve policy body).2 := by
  by_cases admits : c.Admits
  · rw [serve_of_admits admits, reads]
    exact ⟨rfl, spared_counted c policy⟩
  · have turnedAway : ∃ e d, c.serve policy body = (.error e, d) ∧ _ := serve_of_not_admits admits
    obtain ⟨e, d, serve, kept⟩ := turnedAway
    rw [serve]
    exact kept

/-- A look that succeeds has looked at the cluster as it is. -/
theorem look_of_serve {look : Cluster → Except Refusal α} (steady : ∀ c, look (c.counted policy) = look c)
    {a : α} (ok : (c.serve policy fun c => (look c, c)).1 = .ok a) : look c = .ok a := by
  by_cases admits : c.Admits
  · rw [serve_of_admits admits, steady] at ok
    cases found : look c with
    | error refusal =>
      rw [found] at ok
      cases ok
    | ok b =>
      rw [found] at ok
      cases ok
      rfl
  · have turnedAway : ∃ e d, (c.serve policy fun c => (look c, c)) = (.error e, d) ∧ _ :=
      serve_of_not_admits admits
    obtain ⟨e, d, refused, -⟩ := turnedAway
    rw [refused] at ok
    cases ok

end Serve

/-! ## Commands on one record -/

section OneRecord

variable (c : Cluster) (now : UInt32) (policy : WritePolicy) (key : Key)

/-- What may happen to the records when a record is deleted. -/
inductive DeleteEffect (reply : Reply Bool) (d : Cluster) : Prop
  /-- Nothing is deleted: the command failed, or there was no record. -/
  | kept (nodes : d.nodes = c.nodes) (missing : reply ≠ .ok true)
  /-- The record is gone; it is reported unless it had expired. -/
  | erased (admits : c.Admits) (nodes : d.nodes = (c.erase key.id).nodes)
      (reply : reply = .ok (c.isLive now key))

theorem isLive_eq : c.isLive now key = (c.find? key.id).any fun r => !r.expiredAt now := by
  rw [isLive, live?]
  cases c.find? key.id with
  | none => rfl
  | some r =>
    rw [Option.filter_some, Option.any_some]
    cases r.expiredAt now with
    | true => rfl
    | false => rfl

theorem delete_effect :
    DeleteEffect c now key (c.delete now policy key).1 (c.delete now policy key).2 ∧
      Spared c (c.delete now policy key).2 := by
  by_cases admits : c.Admits
  · have find : (c.counted (.write policy)).find? key.id = c.find? key.id := rfl
    have live := c.isLive_eq now key
    have spared := c.spared_counted (.write policy)
    have sparedErase := c.spared_erase (.write policy) key.id
    rw [delete, serve_of_admits admits]
    simp only [find]
    cases stored : c.find? key.id with
    | none =>
      refine ⟨.kept rfl ?_, spared⟩
      intro reported
      cases reported
    | some r =>
      rw [stored, Option.any_some] at live
      cases expired : r.expiredAt now with
      | true =>
        simp only [expired, if_true]
        refine ⟨.erased admits rfl ?_, sparedErase⟩
        rw [live, expired]
        rfl
      | false =>
        simp only [expired, Bool.false_eq_true, if_false]
        by_cases mismatch : policy.generationCheck = .equal ∧ r.generation ≠ policy.generation
        · simp only [if_pos mismatch]
          refine ⟨.kept rfl ?_, spared⟩
          intro reported
          cases reported
        · simp only [if_neg mismatch]
          refine ⟨.erased admits rfl ?_, sparedErase⟩
          rw [live, expired]
          rfl
  · obtain ⟨e, d, serve, nodes, spared⟩ := serve_of_not_admits admits
    rw [delete, serve]
    refine ⟨.kept nodes ?_, spared⟩
    intro reported
    cases reported

/-- What may happen to the records when operations run on a record. -/
inductive OperateEffect (ops : List Operation) (reply : Reply Record) (d : Cluster) : Prop
  /-- The command failed, or only read. -/
  | kept (nodes : d.nodes = c.nodes)
      (idle : reply.toBool = true → ops.any Operation.isWrite = false)
  /-- The record that the writes left behind is stored, and seen by the reads. -/
  | wrote (next : StoredRecord) (admits : c.Admits) (writes : ops.any Operation.isWrite = true)
      (written : Written (c.live? now key.id) (key.setName.getD "") policy ops c.recordLimit now next)
      (nodes : d.nodes = (c.put key.id next).nodes)
      (reply : reply = .ok (next.view (Operation.selection ops)))

theorem operate_effect (ops : List Operation) :
    OperateEffect c now policy key ops (c.operate now policy key ops).1
        (c.operate now policy key ops).2 ∧
      Spared c (c.operate now policy key ops).2 := by
  have spared := c.spared_counted (.write policy)
  -- What fails leaves the records as they are.
  have failed {d : Cluster} {e : ClientError} (nodes : d.nodes = c.nodes) :
      OperateEffect c now policy key ops (.error e) d := by
    refine .kept nodes ?_
    intro ok
    cases ok
  by_cases admits : c.Admits
  · rw [operate, serve_of_admits admits]
    have live : (c.counted (.write policy)).live? now key.id = c.live? now key.id := rfl
    have limit : (c.counted (.write policy)).recordLimit = c.recordLimit := rfl
    simp only [live, limit]
    cases writes : ops.any Operation.isWrite with
    | false =>
      rw [execute_of_reads writes]
      cases c.live? now key.id with
      | none => exact ⟨failed rfl, spared⟩
      | some r =>
        cases corrupted : r.corrupted with
        | true =>
          simp only [Option.any_some, corrupted]
          exact ⟨failed rfl, spared⟩
        | false =>
          simp only [Option.any_some, corrupted]
          exact ⟨.kept rfl fun _ => writes, spared⟩
    | true =>
      rw [execute_of_writes writes]
      simp only [Bool.not_true, Bool.and_false, Bool.false_eq_true, if_false]
      by_cases touch : ((c.live? now key.id).isNone && ops.any Operation.isTouch) = true
      · simp only [if_pos touch]
        exact ⟨failed rfl, spared⟩
      · simp only [if_neg touch]
        cases ok : writeRecord (c.live? now key.id) (key.setName.getD "") policy ops
            c.recordLimit now with
        | error e => exact ⟨failed rfl, spared⟩
        | ok next =>
          have written := written_of_writeRecord ok
          exact ⟨.wrote next admits writes written rfl rfl, c.spared_put (.write policy) key.id next⟩
  · obtain ⟨e, d, serve, nodes, spared⟩ := serve_of_not_admits admits
    rw [operate, serve]
    exact ⟨failed nodes, spared⟩

/-- What a reader sees is a live record that is sound. -/
theorem live_of_readLive {selection : BinSelection} {record : Record}
    (read : c.readLive now key selection = .ok (some record)) :
    ∃ r, c.live? now key.id = some r ∧ r.corrupted = false ∧ record = r.view selection := by
  rw [readLive] at read
  cases live : c.live? now key.id with
  | none =>
    rw [live] at read
    cases read
  | some r =>
    rw [live] at read
    cases corrupted : r.corrupted with
    | true =>
      simp only [corrupted, if_true] at read
      cases read
    | false =>
      simp only [corrupted] at read
      cases read
      exact ⟨r, rfl, corrupted, rfl⟩

/-- Operations that only read return a live record as it is, if it is sound. -/
theorem live_of_operate {ops : List Operation} (reads : ops.any Operation.isWrite = false)
    {record : Record} (ok : (c.operate now policy key ops).1 = .ok record) :
    ∃ r, c.live? now key.id = some r ∧ r.corrupted = false ∧
      record = r.view (Operation.selection ops) := by
  by_cases admits : c.Admits
  · rw [operate, serve_of_admits admits] at ok
    have same : (c.counted (.write policy)).live? now key.id = c.live? now key.id := rfl
    simp only [same, execute_of_reads reads] at ok
    cases live : c.live? now key.id with
    | none =>
      rw [live] at ok
      cases ok
    | some r =>
      cases corrupted : r.corrupted with
      | true =>
        simp only [live, Option.any_some, corrupted, reads] at ok
        cases ok
      | false =>
        simp only [live, Option.any_some, corrupted] at ok
        cases ok
        exact ⟨r, rfl, corrupted, rfl⟩
  · obtain ⟨e, d, refused, -⟩ := serve_of_not_admits admits
    rw [operate, refused] at ok
    cases ok

section Admitted

variable {c : Cluster} {now : UInt32} {policy : WritePolicy} {key : Key} {ops : List Operation}
  (admits : c.Admits)
  (readable : ((c.live? now key.id).any (·.corrupted) && !ops.any Operation.isWrite) = false)
include admits readable

theorem operate_of_ok {outcome : Outcome}
    (ok : execute (c.live? now key.id) (key.setName.getD "") policy ops c.recordLimit now = .ok outcome) :
    c.operate now policy key ops = (.ok outcome.record,
      outcome.state.elim (c.counted (.write policy)) ((c.counted (.write policy)).put key.id)) := by
  have live : (c.counted (.write policy)).live? now key.id = c.live? now key.id := rfl
  have limit : (c.counted (.write policy)).recordLimit = c.recordLimit := rfl
  rw [operate, serve_of_admits admits]
  simp only [live, limit, readable, Bool.false_eq_true, if_false, ok]
  cases outcome.state <;> rfl

theorem operate_of_error {refusal : Refusal}
    (refused : execute (c.live? now key.id) (key.setName.getD "") policy ops c.recordLimit now =
      .error refusal) :
    c.operate now policy key ops = (.error refusal.toError, c.counted (.write policy)) := by
  have live : (c.counted (.write policy)).live? now key.id = c.live? now key.id := rfl
  have limit : (c.counted (.write policy)).recordLimit = c.recordLimit := rfl
  rw [operate, serve_of_admits admits]
  simp only [live, limit, readable, Bool.false_eq_true, if_false, refused]
  rfl

end Admitted

/-- Where a command is turned away, its operations do not matter. -/
theorem operate_of_not_admits {c : Cluster} (not : ¬ c.Admits) {now : UInt32} (policy : WritePolicy)
    (key : Key) (ops ops' : List Operation) :
    c.operate now policy key ops' = c.operate now policy key ops := by
  obtain ⟨e, d, accept, -⟩ := accept_of_not_admits not (.write policy)
  rw [operate, operate, serve, serve, accept]

theorem readable_of_writes {existing : Option StoredRecord} {ops : List Operation}
    (writes : ops.any Operation.isWrite = true) :
    (existing.any (·.corrupted) && !ops.any Operation.isWrite) = false := by
  rw [writes]
  exact Bool.and_false _

/-- A write whose bins cannot be made fails for them. -/
theorem operate_of_unmade {c : Cluster} {now : UInt32} {policy : WritePolicy} {key : Key}
    {ops : List Operation} {refusal : Refusal} (admits : c.Admits)
    (writes : ops.any Operation.isWrite = true)
    (untouched : ((c.live? now key.id).isNone && ops.any Operation.isTouch) = false)
    (refused : writeBins (c.live? now key.id) policy ops = .error refusal) :
    c.operate now policy key ops = (.error refusal.toError, c.counted (.write policy)) :=
  operate_of_error admits (readable_of_writes writes) (execute_of_unmade writes untouched refused)

/-- A write whose check is refused fails as the check does. -/
theorem operate_of_refused {c : Cluster} {now : UInt32} {policy : WritePolicy} {key : Key}
    {ops : List Operation} {r : StoredRecord} {refusal : Refusal} (admits : c.Admits)
    (live : c.live? now key.id = some r) (writes : ops.any Operation.isWrite = true)
    (refused : checkWrite (some r) policy = .error refusal) :
    c.operate now policy key ops = (.error refusal.toError, c.counted (.write policy)) := by
  refine operate_of_unmade admits writes ?_ ?_
  · rw [live]
    rfl
  · rw [live]
    exact writeBins_of_checkWrite refused ops

end OneRecord

end Cluster

end RecordGate
