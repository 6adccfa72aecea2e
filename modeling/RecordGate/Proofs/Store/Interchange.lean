import RecordGate.Proofs.Store.Reading

/-!
# Reads among writes

What a command does is settled by the bins that its operations make and by what they ask for
(`Interchangeable`), and so by its writes, in their order, and by its reads, wherever they stand
(`Rearranged.interchangeable`). It may as well run its writes first and its reads after them
(`reads_follow_writes`): a read sees the record that all of the writes leave behind.
-/

namespace RecordGate
set_option autoImplicit false

/-! ## Operations that can take the place of others -/

/-- Operations that ask for the same as others and make the same bins of a record. -/
structure Interchangeable (existing : Option StoredRecord) (policy : WritePolicy)
    (ops ops' : List Operation) : Prop where
  touch : ops'.any Operation.isTouch = ops.any Operation.isTouch
  write : ops'.any Operation.isWrite = ops.any Operation.isWrite
  asked : ∀ name, ops'.any (·.readsBin name) = ops.any (·.readsBin name)
  made : writeBins existing policy ops' = writeBins existing policy ops

namespace Interchangeable

section Execute

variable {existing : Option StoredRecord} {policy : WritePolicy} {ops ops' : List Operation}
  (same : Interchangeable existing policy ops ops')
include same

theorem execute (setName : String) (limit : Nat) (now : UInt32) :
    execute existing setName policy ops' limit now = execute existing setName policy ops limit now := by
  have view (r : StoredRecord) : r.view (Operation.selection ops') = r.view (Operation.selection ops) := by
    apply StoredRecord.view_congr
    intro name
    rw [includes_selection, includes_selection, same.asked]
  simp only [RecordGate.execute, writeRecord, same.touch, same.write, same.made, view]

theorem asksTime : asksTime existing policy ops' = asksTime existing policy ops := by
  rw [RecordGate.asksTime, RecordGate.asksTime, same.touch, same.write, same.made]

end Execute

/-- A command does the same with either operations. -/
theorem operate {c : Cluster} {now : UInt32} {policy : WritePolicy} {key : Key} {ops ops' : List Operation}
    (same : Interchangeable (c.live? now key.id) policy ops ops') :
    c.operate now policy key ops' = c.operate now policy key ops := by
  by_cases admits : c.Admits
  · have live : (c.counted (.write policy)).live? now key.id = c.live? now key.id := rfl
    rw [Cluster.operate, Cluster.operate, Cluster.serve_of_admits admits, Cluster.serve_of_admits admits]
    simp only [live, same.write, same.execute]
  · exact Cluster.operate_of_not_admits admits policy key ops ops'

end Interchangeable

/-! ## Writes and reads in other places -/

/-- The same writes in the same order, among them the same reads in some order. -/
structure Rearranged (ops ops' : List Operation) : Prop where
  writes : ops'.filter Operation.isWrite = ops.filter Operation.isWrite
  reads : (ops'.filter fun op => !op.isWrite).Perm (ops.filter fun op => !op.isWrite)

/-- Operations that are sought among writes are not missed where the others are dropped, and likewise among
reads. -/
theorem any_filter_of_imp {sought kind : Operation → Bool}
    (among : ∀ op, sought op = true → kind op = true) (ops : List Operation) :
    (ops.filter kind).any sought = ops.any sought := by
  rw [List.any_filter]
  congr 1
  funext op
  cases found : sought op with
  | false => exact Bool.and_false _
  | true => rw [among op found, Bool.and_true]

theorem Operation.not_isWrite_of_readsBin {op : Operation} {name : String}
    (reads : op.readsBin name = true) : (!op.isWrite) = true := by
  cases op with
  | read _ | readAll => rfl
  | _ => cases reads

/-- The bins that a write makes are made by its writes. -/
theorem writeBins_filter_isWrite (existing : Option StoredRecord) (policy : WritePolicy)
    (ops : List Operation) :
    writeBins existing policy (ops.filter Operation.isWrite) = writeBins existing policy ops := by
  simp only [writeBins, applyAll_filter_isWrite]

/-- **Where the reads stand among the writes does not matter**, nor does their order. -/
theorem Rearranged.interchangeable {ops ops' : List Operation} (same : Rearranged ops ops')
    (existing : Option StoredRecord) (policy : WritePolicy) : Interchangeable existing policy ops ops' where
  touch := by
    rw [← any_filter_of_imp (fun _ => Operation.isWrite_of_isTouch) ops', same.writes,
      any_filter_of_imp fun _ => Operation.isWrite_of_isTouch]
  write := by
    rw [← any_filter_of_imp (fun _ => id) ops', same.writes, any_filter_of_imp fun _ => id]
  asked name := by
    rw [← any_filter_of_imp (fun _ => Operation.not_isWrite_of_readsBin) ops', same.reads.any_eq,
      any_filter_of_imp fun _ => Operation.not_isWrite_of_readsBin]
  made := by
    rw [← writeBins_filter_isWrite, same.writes, writeBins_filter_isWrite]

/-- Reads that follow the writes are the command, rearranged. -/
theorem rearranged_of_perm {ops reads : List Operation}
    (order : reads.Perm (ops.filter fun op => !op.isWrite)) :
    Rearranged ops (ops.filter Operation.isWrite ++ reads) := by
  have read : ∀ op ∈ reads, op.isWrite = false := by
    intro op member
    simpa using (List.mem_filter.1 (order.mem_iff.1 member)).2
  constructor
  · have none : reads.filter Operation.isWrite = [] :=
      List.filter_eq_nil_iff.2 fun op member => by simp [read op member]
    rw [List.filter_append, List.filter_filter, none, List.append_nil]
    simp only [Bool.and_self]
  · have all : reads.filter (fun op => !op.isWrite) = reads :=
      List.filter_eq_self.2 fun op member => by simp [read op member]
    rw [List.filter_append, List.filter_filter, all]
    simpa using order

section Commands

variable (existing : Option StoredRecord) (setName : String) (policy : WritePolicy) (limit : Nat)
  (now : UInt32)

/-- What a command leaves behind its writes leave alone. -/
theorem state_of_writes (ops : List Operation) :
    (execute existing setName policy (ops.filter Operation.isWrite) limit now).map (·.state) =
      (execute existing setName policy ops limit now).map (·.state) := by
  have touch : (ops.filter Operation.isWrite).any Operation.isTouch = ops.any Operation.isTouch :=
    any_filter_of_imp (fun _ => Operation.isWrite_of_isTouch) ops
  have write : (ops.filter Operation.isWrite).any Operation.isWrite = ops.any Operation.isWrite :=
    any_filter_of_imp (fun _ => id) ops
  cases writes : ops.any Operation.isWrite with
  | true =>
    have made : writeRecord existing setName policy (ops.filter Operation.isWrite) limit now =
        writeRecord existing setName policy ops limit now := by
      simp only [writeRecord, writeBins_filter_isWrite]
    rw [execute_of_writes (write.trans writes), execute_of_writes writes, touch, made]
    split
    · rfl
    · cases writeRecord existing setName policy ops limit now <;> rfl
  | false =>
    rw [execute_of_reads (write.trans writes), execute_of_reads writes]
    cases existing <;> rfl

variable {existing setName policy limit now} in
/-- A command that succeeds shows the record that is there after it. -/
theorem shown_of_execute {ops : List Operation} {outcome : Outcome}
    (ok : execute existing setName policy ops limit now = .ok outcome) :
    ∃ r, outcome.state.or existing = some r ∧ outcome.record = r.view (Operation.selection ops) := by
  cases writes : ops.any Operation.isWrite with
  | true =>
    rw [execute_of_writes writes] at ok
    split at ok
    · cases ok
    · obtain ⟨r, -, rfl⟩ := map_eq_ok_iff.1 ok
      exact ⟨r, rfl, rfl⟩
  | false =>
    rw [execute_of_reads writes] at ok
    cases existing with
    | none => cases ok
    | some r =>
      cases ok
      exact ⟨r, rfl, rfl⟩

/-- **Writes run first, then reads.** A command does what its writes do that run in their order and are
followed by its reads in any order, and it asks for the time if they do. What it leaves behind its writes
leave alone, and it returns the record that is there after them, with the bins that some read asks for. -/
theorem reads_follow_writes (ops : List Operation) {reads : List Operation}
    (order : reads.Perm (ops.filter fun op => !op.isWrite)) :
    execute existing setName policy (ops.filter Operation.isWrite ++ reads) limit now =
        execute existing setName policy ops limit now ∧
      asksTime existing policy (ops.filter Operation.isWrite ++ reads) = asksTime existing policy ops ∧
      (execute existing setName policy (ops.filter Operation.isWrite) limit now).map (·.state) =
        (execute existing setName policy ops limit now).map (·.state) ∧
      ∀ outcome, execute existing setName policy ops limit now = .ok outcome →
        ∃ r, outcome.state.or existing = some r ∧
          outcome.record = r.view (Operation.selection ops) ∧
          ∀ name, outcome.record.bins.get? name =
            if ops.any (·.readsBin name) then r.bins.get? name else none := by
  have same := (rearranged_of_perm order).interchangeable existing policy
  refine ⟨same.execute setName limit now, same.asksTime,
    state_of_writes existing setName policy limit now ops, ?_⟩
  intro outcome ok
  obtain ⟨r, left, shown⟩ := shown_of_execute ok
  refine ⟨r, left, shown, fun name => ?_⟩
  rw [shown, ← includes_selection]
  exact BinSelection.get?_project _ _ _

end Commands

/-- A command whose reads stand between its writes. -/
def mingled : List Operation :=
  [.read "n", .add ⟨"n", .int 2⟩, .readHeader, .write ⟨"m", .int 1⟩, .readAll]

theorem mingled_reads_follow :
    [Operation.readAll, .readHeader, .read "n"].Perm (mingled.filter fun op => !op.isWrite) ∧
      execute none "s" {} (mingled.filter Operation.isWrite ++ [.readAll, .readHeader, .read "n"]) 1000 5 =
        execute none "s" {} mingled 1000 5 := by
  have order : [Operation.readAll, .readHeader, .read "n"].Perm (mingled.filter fun op => !op.isWrite) :=
    List.reverse_perm [Operation.read "n", .readHeader, .readAll]
  exact ⟨order, (reads_follow_writes none "s" {} 1000 5 mingled order).1⟩

end RecordGate
