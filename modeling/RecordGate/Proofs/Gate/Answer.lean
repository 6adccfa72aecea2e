import RecordGate.Proofs.Gate.Command

/-!
# The answer to a call

A call reads the reply to its command by the kind of the reply (`GateCall.answer`). It has an answer also
where the command cannot be given (`GateCall.failed`) and where it gives none (`GateCall.idle`).
-/

namespace RecordGate
set_option autoImplicit false

/-- The results of the answer to a batch of so many keys. -/
def Batch.settled {α : Type} (n : Nat) (value : α → CallResult) : Reply (List α) → List CallResult
  | .ok answers =>
    if answers.length = n then answers.map value
    else List.replicate n (.ofError (misaligned n answers.length))
  | .error e => List.replicate n (.ofError e)

/-- The results of an answer, in the order of keys. -/
def GateAnswer.places : GateAnswer → List CallResult
  | result r => [r]
  | results rs => rs
  | rejected _ => []

namespace GateCall

/-- The keys of a batch. A call for one record is no batch. -/
def batch? : GateCall → Option (Except GateError (List Key))
  | batchContains ns setName keys _ | batchGet ns setName keys _ _ | batchGetAll ns setName keys _ =>
    some (keysOf ns setName keys)
  | batchContainsDigests ns digests _ | batchGetDigests ns digests _ _ => some (keysOfDigests ns digests)
  | batchContainsKeys keys _ | batchGetKeys keys _ _ => some (.ok keys)
  | _ => none

/-- The kind of the reply that a call reads. -/
def kind : GateCall → ReplyKind
  | write .. | addAndGet .. | getWithTouch .. | operate .. => .written
  | delete .. | contains .. => .flag
  | getBin .. | getBins .. | getAll .. => .record
  | batchContains .. | batchContainsDigests .. | batchContainsKeys .. => .flags
  | batchGet .. | batchGetAll .. | batchGetDigests .. | batchGetKeys .. => .records

/-- The number of places of a batch. -/
def width (call : GateCall) : Nat :=
  match call.batch? with
  | some (.ok keys) => keys.length
  | _ => 0

/-- The keys that a call is about, in the order of the answer. -/
def keys : GateCall → List Key
  | write _ key .. | addAndGet key .. | delete key .. | getBin key .. | getBins key .. | getAll key ..
  | getWithTouch key .. | contains key .. | operate key .. => [key]
  | call =>
    match call.batch? with
    | some (.ok keys) => keys
    | _ => []

/-- The bins that a call asks for, if it asks for bins. -/
def selection? : GateCall → Option BinSelection
  | getBin _ name _ => some (.named [name])
  | getBins _ names _ | batchGet _ _ _ names _ => some (.named names)
  | addAndGet .. | getAll .. | batchGetAll .. => some .all
  | getWithTouch _ names _ _ | batchGetDigests _ _ names _ | batchGetKeys _ names _ =>
    some (.ofNames names)
  | operate _ reads _ _ _ => if reads.isEmpty then none else some (.named reads)
  | _ => none

/-- What becomes of the record that a write returns: an acknowledgement, or a reading. -/
def ofWritten : GateCall → Record → CallResult
  | write .. => .ofHeader
  | operate _ reads _ _ _ => if reads.isEmpty then .ofHeader else .ofRecord
  | _ => .ofRecord

/-- The last touch to a reading: the value of a bin that was asked for alone is named. -/
def named : GateCall → CallResult → CallResult
  | getBin _ name _ => fun r => r.withSingle name
  | _ => id

/-- What a call makes of the reply to its command. -/
def answer (call : GateCall) : CommandReply → GateAnswer
  | .record reply => .result (call.named (.ofReply .ofFoundRecord reply))
  | .flag reply => .result (.ofReply .ofPresence reply)
  | .written reply => .result (.ofReply call.ofWritten reply)
  | .records reply => .results (Batch.settled call.width (.ofReply .ofFoundRecord) reply)
  | .flags reply => .results (Batch.settled call.width .ofPresence reply)
  | .summary reply => .result (.ofReply .ofSummary reply)

/-- What a call answers when its command cannot be given. -/
def failed (call : GateCall) (e : ClientError) : GateAnswer :=
  match call.batch? with
  | some (.ok keys) => .results (List.replicate keys.length (.ofError e))
  | some (.error e) => .rejected e
  | none => .result (.ofError e)

/-- What a call answers that gives no command: it has no bins, no keys, or something that is no key. -/
def idle (call : GateCall) : GateAnswer :=
  match call.batch? with
  | some (.ok _) => .results []
  | some (.error e) => .rejected e
  | none => .result (.ofCode .parameterError)

/-- A batch of some keys reads their records, or asks whether there are any. -/
theorem command?_of_batch? {call : GateCall} {keys : List Key} (asked : call.batch? = some (.ok keys))
    (nonempty : keys ≠ []) :
    (∃ policy selection, call.command? = some (.batchGet policy keys selection)) ∨
      ∃ policy, call.command? = some (.batchContains policy keys) := by
  have gives (build : List Key → Command) : batchCommand? build (.ok keys) = some (build keys) :=
    if_neg (mt List.isEmpty_iff.1 nonempty)
  cases call with
  | batchContains _ _ _ tx | batchContainsDigests _ _ tx =>
    rw [command?, Option.some.inj asked, gives]
    exact .inr ⟨_, rfl⟩
  | batchGet _ _ _ _ tx | batchGetAll _ _ _ tx | batchGetDigests _ _ _ tx =>
    rw [command?, Option.some.inj asked, gives]
    exact .inl ⟨_, _, rfl⟩
  | batchContainsKeys _ tx =>
    cases asked
    exact .inr ⟨_, gives _⟩
  | batchGetKeys _ _ tx =>
    cases asked
    exact .inl ⟨_, _, gives (.batchGet _ · _)⟩
  | _ => cases asked

/-- A call reads the reply to its command. -/
theorem kind_of_command? {call : GateCall} {command : Command} (gives : call.command? = some command) :
    command.kind = call.kind := by
  have batch {build : List Key → Command} {keys : Except GateError (List Key)} {kind : ReplyKind}
      (kinds : ∀ keys, (build keys).kind = kind) (gives : batchCommand? build keys = some command) :
      command.kind = kind := by
    obtain ⟨keys, -, -, rfl⟩ := eq_of_batchCommand? gives
    exact kinds keys
  cases call with
  | write _ _ _ _ _ | addAndGet _ _ _ _ =>
    rw [command?] at gives
    split at gives
    · cases gives
    · cases gives
      rfl
  | delete _ _ _ | getBin _ _ _ | getBins _ _ _ | getAll _ _ | getWithTouch _ _ _ _ | contains _ _
  | operate _ _ _ _ _ =>
    cases gives
    rfl
  | batchContains _ _ _ _ | batchGet _ _ _ _ _ | batchGetAll _ _ _ _ | batchContainsDigests _ _ _
  | batchGetDigests _ _ _ _ | batchContainsKeys _ _ | batchGetKeys _ _ _ =>
    rw [command?] at gives
    exact batch (fun _ => rfl) gives

theorem keys_of_batch? {call : GateCall} {keys : List Key} (asked : call.batch? = some (.ok keys)) :
    call.keys = keys := by
  cases call with
  | batchContains _ _ _ _ | batchGet _ _ _ _ _ | batchGetAll _ _ _ _ | batchContainsDigests _ _ _
  | batchGetDigests _ _ _ _ | batchContainsKeys _ _ | batchGetKeys _ _ _ =>
    simp only [GateCall.keys, asked]
  | _ => cases asked

theorem width_of_batch? {call : GateCall} {keys : List Key} (asked : call.batch? = some (.ok keys)) :
    call.width = keys.length := by
  rw [width, asked]

/-! ## Failure -/

theorem named_ofError (call : GateCall) (e : ClientError) : call.named (.ofError e) = .ofError e := by
  cases call with
  | getBin key name tx =>
    have single : (getBin key name tx).named (.ofError e) = (CallResult.ofError e).withSingle name := rfl
    rw [single]
    unfold CallResult.withSingle
    split <;> rfl
  | _ => rfl

/-- The codes that a failure is reported by, whatever the call. -/
theorem code_of_failed (call : GateCall) (e : ClientError) :
    ∀ r ∈ (call.failed e).places, r.code = .ofCode e.code := by
  intro r member
  rw [failed] at member
  split at member
  · rw [List.eq_of_mem_replicate member]
    rfl
  · cases member
  · rw [List.eq_of_mem_singleton member]
    rfl

/-- A command that fails is answered by its failure. -/
theorem answer_failed {call : GateCall} {command : Command} (gives : call.command? = some command)
    (e : ClientError) : call.answer (call.kind.failed e) = call.failed e := by
  have batch {keys : List Key} (asked : call.batch? = some (.ok keys)) :
      GateAnswer.results (List.replicate call.width (.ofError e)) = call.failed e := by
    rw [failed, asked, width_of_batch? asked]
  cases call with
  | write _ _ _ _ _ | addAndGet _ _ _ _ | delete _ _ _ | getWithTouch _ _ _ _ | contains _ _
  | operate _ _ _ _ _ => rfl
  | getBin _ _ _ | getBins _ _ _ | getAll _ _ => exact congrArg GateAnswer.result (named_ofError _ e)
  | batchContains _ _ _ _ | batchGet _ _ _ _ _ | batchGetAll _ _ _ _ | batchContainsDigests _ _ _
  | batchGetDigests _ _ _ _ | batchContainsKeys _ _ | batchGetKeys _ _ _ =>
    rw [command?] at gives
    obtain ⟨keys, asked, -, -⟩ := eq_of_batchCommand? gives
    exact batch (congrArg some asked)

/-! ## Success -/

/-- A call may name one value of a result alone, and changes nothing else of it. -/
theorem named_eq (call : GateCall) (r : CallResult) : ∃ single, call.named r = { r with single } := by
  cases call with
  | getBin key name tx =>
    have single : (getBin key name tx).named r = r.withSingle name := rfl
    rw [single]
    unfold CallResult.withSingle
    split
    · exact ⟨_, rfl⟩
    · exact ⟨r.single, rfl⟩
  | _ => exact ⟨r.single, rfl⟩

theorem isOk_named (call : GateCall) (r : CallResult) : (call.named r).isOk = r.isOk := by
  obtain ⟨single, same⟩ := call.named_eq r
  rw [same]
  rfl

theorem not_isOk_of_idle (call : GateCall) : ∀ r ∈ call.idle.places, r.isOk = false := by
  rw [idle]
  split <;> simp [GateAnswer.places, CallResult.ofCode, CallResult.isOk, ResultCode.isOk]

theorem not_isOk_of_failed (call : GateCall) :
    ∀ r ∈ (call.failed Gate.notConnected).places, r.isOk = false := by
  rw [failed]
  split
  · intro r member
    rw [List.eq_of_mem_replicate member]
    rfl
  · intro r member
    cases member
  · intro r member
    rw [List.mem_singleton.1 member]
    rfl

end GateCall

end RecordGate
