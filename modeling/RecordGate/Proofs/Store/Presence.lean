import RecordGate.CallResult
import RecordGate.Proofs.Store.Likeness
import RecordGate.Proofs.Store.Soundness

/-!
# Whether there is a record

A command that is let in looks for the live record of its key. Reads, existence checks and deletions report
whether there is one (`code_readLive`, `code_isLive`, `delete_of_unchecked`), a touch needs one, and a write
that wants to be unique must not find one.
-/

namespace RecordGate
set_option autoImplicit false

/-- The code of a refusal is all that its result carries. -/
theorem CallResult.ofError_toError (refusal : Refusal) :
    CallResult.ofError refusal.toError = .ofCode (.ofNative refusal.code) := by
  rw [ofError, ResultCode.ofCode, Refusal.toError, ClientError.ofNative, NativeCode.ofCode?_code]

@[simp] theorem CallResult.code_ofError_toError (refusal : Refusal) :
    (CallResult.ofError refusal.toError).code = .ofNative refusal.code := by
  rw [ofError_toError, ofCode]

@[simp] theorem CallResult.code_ofRecord (r : Record) : (CallResult.ofRecord r).code = .ok := by
  rw [ofRecord]
  split <;> rfl

/-- Operations that make the same bins of any bins. -/
theorem applyAll_of_still {ops : List Operation} (still : ∀ op ∈ ops, ∀ bins, applyOperation bins op = .ok bins)
    (bins : BinMap) : applyAll bins ops = .ok bins := by
  induction ops with
  | nil => rfl
  | cons op rest ih =>
    obtain ⟨here, others⟩ := List.forall_mem_cons.1 still
    exact bind_eq_ok_iff.2 ⟨bins, here bins, ih others⟩

namespace Cluster

variable {c : Cluster} {now : UInt32} {key : Key}

theorem code_readLive (selection : BinSelection) :
    (CallResult.ofReply .ofFoundRecord ((c.readLive now key selection).mapError Refusal.toError)).code =
      .keyNotFound ↔ c.live? now key.id = none := by
  rw [readLive]
  cases c.live? now key.id with
  | none => exact iff_of_true rfl rfl
  | some r =>
    refine iff_of_false ?_ (Option.some_ne_none r)
    cases corrupted : r.corrupted with
    | true =>
      simp only [corrupted, if_true, Except.mapError, CallResult.ofReply, CallResult.code_ofError_toError]
      exact ResultCode.noConfusion
    | false =>
      simp only [corrupted, Bool.false_eq_true, if_false, Except.mapError, CallResult.ofReply,
        CallResult.ofFoundRecord, CallResult.code_ofRecord]
      exact ResultCode.noConfusion

theorem code_isLive :
    (CallResult.ofPresence (c.isLive now key)).code = .keyNotFound ↔ c.live? now key.id = none := by
  rw [isLive, CallResult.ofPresence]
  cases c.live? now key.id with
  | none => exact iff_of_true rfl rfl
  | some r => exact iff_of_false ResultCode.noConfusion (Option.some_ne_none r)

section Admitted

variable (admits : c.Admits)
include admits

theorem get_of_admits (policy : Policy) (selection : BinSelection) :
    (c.get now policy key selection).1 = (c.readLive now key selection).mapError Refusal.toError := by
  rw [get, serve_of_admits admits]
  rfl

theorem contains_of_admits (policy : Policy) : (c.contains now policy key).1 = .ok (c.isLive now key) := by
  rw [contains, serve_of_admits admits]
  rfl

theorem batchGet_of_admits (policy : Policy) (keys : List Key) (selection : BinSelection) :
    (c.batchGet now policy keys selection).1 =
      .ok (keys.map fun key => (c.readLive now key selection).mapError Refusal.toError) := by
  rw [batchGet, serve_of_admits admits]
  rfl

theorem batchContains_of_admits (policy : Policy) (keys : List Key) :
    (c.batchContains now policy keys).1 = .ok (keys.map (c.isLive now)) := by
  rw [batchContains, serve_of_admits admits]
  rfl

/-- A deletion that expects no generation reports whether there was a record. -/
theorem delete_of_unchecked {policy : WritePolicy} (unchecked : policy.generationCheck ≠ .equal) :
    (c.delete now policy key).1 = .ok (c.isLive now key) := by
  have same : (c.counted (.write policy)).live? now key.id = c.live? now key.id := rfl
  rw [delete_eq, serve_of_admits admits, isLive]
  simp only [same]
  cases c.live? now key.id with
  | none => rfl
  | some r =>
    simp only [unchecked, false_and, if_false]
    rfl

/-- There is nothing to touch where there is no record. -/
theorem operate_of_missing (missing : c.live? now key.id = none) {ops : List Operation}
    (touches : ops.any Operation.isTouch = true) (policy : WritePolicy) :
    (c.operate now policy key ops).1 = .error Refusal.touchMissing.toError := by
  have writes := any_isWrite_of_isTouch touches
  refine congrArg Prod.fst (operate_of_error admits (readable_of_writes writes) ?_)
  rw [missing, execute_of_writes writes, touches]
  rfl

/-- A write of a live record succeeds once its bins are made, if they fit. -/
theorem operate_of_fits {r : StoredRecord} (live : c.live? now key.id = some r) {policy : WritePolicy}
    {ops : List Operation} (writes : ops.any Operation.isWrite = true) {bins : BinMap}
    (made : writeBins (some r) policy ops = .ok (.apply, bins))
    (fits : { r with bins }.size ≤ c.recordLimit) :
    ∃ record, (c.operate now policy key ops).1 = .ok record := by
  have written : ∃ next, writeRecord (some r) (key.setName.getD "") policy ops c.recordLimit now =
      .ok next := by
    simp only [writeRecord, made]
    exact ⟨_, if_pos fits⟩
  obtain ⟨next, written⟩ := written
  have ok : execute (c.live? now key.id) (key.setName.getD "") policy ops c.recordLimit now =
      .ok { state := some next, record := next.view (Operation.selection ops) } := by
    rw [live, execute_of_writes writes, written]
    rfl
  exact ⟨_, congrArg Prod.fst (operate_of_ok admits (readable_of_writes writes) ok)⟩

/-- A write that leaves the bins alone fits where the record fitted, and succeeds unless it is checked. -/
theorem operate_of_still {r : StoredRecord} (live : c.live? now key.id = some r)
    (fits : r.size ≤ c.recordLimit) {ops : List Operation} (writes : ops.any Operation.isWrite = true)
    (still : ∀ op ∈ ops, ∀ bins, applyOperation bins op = .ok bins) {policy : WritePolicy}
    (merges : policy.existence = .update) (unchecked : policy.generationCheck = .unchecked) :
    ∃ record, (c.operate now policy key ops).1 = .ok record := by
  have made := writeBins_of_merge merges unchecked (some r) ops
  rw [Option.map_some, Option.getD_some, applyAll_of_still still] at made
  exact operate_of_fits admits live writes made fits

/-- A command whose bins can be made fails for its size only. -/
theorem operate_of_made {policy : WritePolicy} {ops : List Operation} {made : Disposition × BinMap}
    (writes : ops.any Operation.isWrite = true)
    (touched : ((c.live? now key.id).isNone && ops.any Operation.isTouch) = false)
    (ok : writeBins (c.live? now key.id) policy ops = .ok made) {e : ClientError}
    (failed : (c.operate now policy key ops).1 = .error e) :
    ∃ size limit, e = (Refusal.tooBig size limit).toError := by
  have run : execute (c.live? now key.id) (key.setName.getD "") policy ops c.recordLimit now = _ :=
    execute_of_writes writes
  rw [touched, if_neg Bool.false_ne_true] at run
  cases written : writeRecord (c.live? now key.id) (key.setName.getD "") policy ops c.recordLimit now with
  | ok next =>
    rw [written] at run
    rw [operate_of_ok admits (readable_of_writes writes) run] at failed
    cases failed
  | error refusal =>
    obtain ⟨size, rfl⟩ := tooBig_of_writeBins ok written
    rw [written] at run
    rw [operate_of_error admits (readable_of_writes writes) run] at failed
    cases failed
    exact ⟨size, _, rfl⟩

/-- Where there is no record, a write of one bin fails for its size only. -/
theorem operate_of_unique (missing : c.live? now key.id = none) {policy : WritePolicy}
    (creates : policy.existence = .createOnly) (bin : Bin) {e : ClientError}
    (failed : (c.operate now policy key [.write bin, .readHeader]).1 = .error e) :
    ∃ size limit, e = (Refusal.tooBig size limit).toError := by
  have check : checkWrite none policy = .ok .apply := by
    simp only [checkWrite, checkExistence, creates]
    rfl
  have made : ∃ bins, writeBins none policy [.write bin, .readHeader] = .ok (.apply, bins) := by
    rw [writeBins, check]
    exact ⟨_, rfl⟩
  obtain ⟨bins, made⟩ := made
  rw [← missing] at made
  exact operate_of_made admits rfl (Bool.and_false _) made failed

end Admitted

end Cluster

end RecordGate
