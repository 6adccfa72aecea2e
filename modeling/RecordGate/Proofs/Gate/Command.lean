import RecordGate.Gate.Call
import RecordGate.Proofs.Client.Command

/-!
# The command of a call

A call of a gate gives the client at most one command, and none if what it was given makes no command.
-/

namespace RecordGate
set_option autoImplicit false

/-- Whether a call reports success. -/
def GateAnswer.isOk : GateAnswer → Bool
  | result r => r.isOk
  | _ => false

namespace GateCall

/-- The command of a batch that has keys. -/
def batchCommand? (command : List Key → Command) : Except GateError (List Key) → Option Command
  | .ok keys => if keys.isEmpty then none else some (command keys)
  | .error _ => none

/-- The command that a call gives. -/
def command? : GateCall → Option Command
  | write kind key bins tx options =>
    if bins.isEmpty then none
    else some (.operate (.ofOptions tx options) key (bins.map kind.operation ++ [.readHeader]))
  | addAndGet key bins tx options =>
    if bins.isEmpty then none
    else some (.operate (.ofOptions tx options) key (bins.map .add ++ [.readAll]))
  | delete key tx options => some (.delete (.ofOptions tx options) key)
  | getBin key name tx => some (.get (.ofOptions tx) key (.named [name]))
  | getBins key names tx => some (.get (.ofOptions tx) key (.named names))
  | getAll key tx => some (.get (.ofOptions tx) key .all)
  | getWithTouch key names tx options =>
    some (.operate (.ofOptions tx options) key
      (.touch :: match names with | some names => names.map .read | none => [.readAll]))
  | contains key tx => some (.contains (.ofOptions tx) key)
  | operate key reads writes tx options =>
    some (.operate (.ofOptions tx options) key
      (writes.map .write ++ if reads.isEmpty then [.readHeader] else reads.map .read))
  | batchContains ns setName keys tx =>
    batchCommand? (.batchContains (.ofOptions tx)) (keysOf ns setName keys)
  | batchGet ns setName keys names tx =>
    batchCommand? (.batchGet (.ofOptions tx) · (.named names)) (keysOf ns setName keys)
  | batchGetAll ns setName keys tx =>
    batchCommand? (.batchGet (.ofOptions tx) · .all) (keysOf ns setName keys)
  | batchContainsDigests ns digests tx =>
    batchCommand? (.batchContains (.ofOptions tx)) (keysOfDigests ns digests)
  | batchGetDigests ns digests names tx =>
    batchCommand? (.batchGet (.ofOptions tx) · (.ofNames names)) (keysOfDigests ns digests)
  | batchContainsKeys keys tx => batchCommand? (.batchContains (.ofOptions tx)) (.ok keys)
  | batchGetKeys keys names tx =>
    batchCommand? (.batchGet (.ofOptions tx) · (.ofNames names)) (.ok keys)

/-- The conditions that a call puts on its write. -/
def options? : GateCall → Option WriteOptions
  | write _ _ _ _ options | addAndGet _ _ _ options | delete _ _ options
  | getWithTouch _ _ _ options | operate _ _ _ _ options => options
  | _ => none

/-- Whether a call writes to the record of an identity. -/
def writes (id : RecordId) (call : GateCall) : Bool := call.command?.any (·.writes id)

/-- The command of a batch is about its keys, and there are some. -/
theorem eq_of_batchCommand? {build : List Key → Command} {keys : Except GateError (List Key)}
    {command : Command} (gives : batchCommand? build keys = some command) :
    ∃ given, keys = .ok given ∧ given ≠ [] ∧ command = build given := by
  cases keys with
  | error e => cases gives
  | ok given =>
    rw [batchCommand?] at gives
    split at gives
    · cases gives
    · next nonempty =>
      cases gives
      exact ⟨given, rfl, mt List.isEmpty_iff.2 nonempty, rfl⟩

/-- A write is made under the call's own conditions. -/
theorem command?_of_isWrite {call : GateCall} {command : Command} (gives : call.command? = some command)
    (writes : command.isWrite = true) :
    ∃ tx key ops, command = .operate (.ofOptions tx call.options?) key ops := by
  have noBatch {build : List Key → Command} {keys : Except GateError (List Key)}
      (reads : ∀ keys, (build keys).isWrite = false) (gives : batchCommand? build keys = some command) :
      ∃ tx key ops, command = .operate (.ofOptions tx call.options?) key ops := by
    obtain ⟨keys, -, -, rfl⟩ := eq_of_batchCommand? gives
    rw [reads keys] at writes
    cases writes
  cases call with
  | write kind key bins tx options | addAndGet key bins tx options =>
    rw [command?] at gives
    split at gives
    · cases gives
    · cases gives
      exact ⟨_, _, _, rfl⟩
  | getWithTouch key names tx options | operate key reads writes tx options =>
    cases gives
    exact ⟨_, _, _, rfl⟩
  | delete _ _ _ | getBin _ _ _ | getBins _ _ _ | getAll _ _ | contains _ _ =>
    cases gives
    cases writes
  | batchContains _ _ _ _ | batchGet _ _ _ _ _ | batchGetAll _ _ _ _ | batchContainsDigests _ _ _
  | batchGetDigests _ _ _ _ | batchContainsKeys _ _ | batchGetKeys _ _ _ =>
    rw [command?] at gives
    exact noBatch (fun _ => rfl) gives

/-- The operations of a touch make the bins that they find. -/
theorem command?_getWithTouch (key : Key) (names : Option (List String))
    (tx : Option TransactionOptions) (options : Option WriteOptions) :
    ∃ reads : List Operation, (getWithTouch key names tx options).command? =
        some (.operate (.ofOptions tx options) key (.touch :: reads)) ∧
      ∀ op ∈ Operation.touch :: reads, ∀ bins, applyOperation bins op = .ok bins := by
  refine ⟨_, rfl, List.forall_mem_cons.2 ⟨fun _ => rfl, ?_⟩⟩
  intro op member bins
  cases names with
  | some names =>
    obtain ⟨name, -, rfl⟩ := List.mem_map.1 member
    rfl
  | none =>
    cases List.mem_singleton.1 member
    rfl

end GateCall

end RecordGate
