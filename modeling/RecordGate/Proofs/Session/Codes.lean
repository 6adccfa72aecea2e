import RecordGate.Proofs.Gate.Positions
import RecordGate.Proofs.Session.Counter
import RecordGate.Proofs.Session.Faults

/-!
# The codes of calls

A call of a gate that is connected ends with one of the codes of its kind, on every store that calls lead to.
A parameter error says that there are no bins to write, or that the first of them that has a fault has an
operand which cannot be taken. A touch is too big only where it is kept as a version of its own
(`calls_end_in_their_own_ways`).
-/

namespace RecordGate
set_option autoImplicit false

/-- The codes with which a read ends: damage is a failure of the client. -/
def ResultCode.reading : List ResultCode := [ok, keyNotFound, clientError]

/-- The codes that tell whether there was a record. -/
def ResultCode.presence : List ResultCode := [ok, keyNotFound]

/-- The codes with which a deletion ends. -/
def ResultCode.deletion : List ResultCode := [ok, keyNotFound, generationMismatch]

/-- The codes with which a write ends whose bins can be made. -/
def ResultCode.writing : List ResultCode := [ok, keyExists, generationMismatch, recordTooBig]

namespace GateCall

/-- The codes with which a call ends. -/
def codes : GateCall → List ResultCode
  | getBin _ _ _ | getBins _ _ _ | getAll _ _ | batchGet _ _ _ _ _ | batchGetAll _ _ _ _
  | batchGetDigests _ _ _ _ | batchGetKeys _ _ _ => ResultCode.reading
  | contains _ _ | batchContains _ _ _ _ | batchContainsDigests _ _ _ | batchContainsKeys _ _ =>
    ResultCode.presence
  | delete _ _ _ => ResultCode.deletion
  | write .set _ _ _ _ => .parameterError :: ResultCode.writing
  | write _ _ _ _ _ | addAndGet _ _ _ _ => .parameterError :: .binTypeError :: ResultCode.writing
  | getWithTouch _ _ _ _ => .keyNotFound :: ResultCode.writing
  | operate _ _ writes _ _ => if writes.isEmpty then ResultCode.reading else ResultCode.writing

/-- Whether a write gets as far as its bins, and the first that has a fault has an operand that cannot be
taken. -/
def Untaken (kind : Gate.WriteKind) (options : Option WriteOptions) (existing : Option StoredRecord)
    (bins : List Bin) : Prop :=
  WriteOptions.Passes options existing ∧
    kind.firstFault? ((existing.map (·.bins)).getD ∅) bins = some .parameterError

/-- Whether a call is given no bins to write, or an operand that cannot be taken. -/
def Misgiven (live? : RecordId → Option StoredRecord) : GateCall → Prop
  | write .set _ bins _ _ => bins = []
  | write kind key bins _ options => bins = [] ∨ Untaken kind options (live? key.id) bins
  | addAndGet key bins _ options => bins = [] ∨ Untaken .add options (live? key.id) bins
  | _ => False

/-- What the code of a result is held to, among the live records. -/
structure Ends (call : GateCall) (live? : RecordId → Option StoredRecord) (code : ResultCode) : Prop where
  mem : code ∈ call.codes
  parameterError : code = .parameterError ↔ call.Misgiven live?
  tooBig : ∀ key names tx options, call = .getWithTouch key names tx options → code = .recordTooBig →
    ∃ r, live? key.id = some r ∧ options.any (·.conflicts r.generation) = true

variable {live? : RecordId → Option StoredRecord} {code : ResultCode}

theorem mem_codes_of_misgiven {call : GateCall} (misgiven : call.Misgiven live?) :
    .parameterError ∈ call.codes := by
  cases call with
  | write kind _ _ _ _ => cases kind <;> exact .head _
  | addAndGet _ _ _ _ => exact .head _
  | _ => cases misgiven

/-- A call whose codes are neither those of a write of bins nor those of a touch is held to its codes only. -/
theorem Ends.of_mem {call : GateCall} (codes : List ResultCode) (same : call.codes = codes) (mem : code ∈ codes)
    (apart : .parameterError ∉ codes ∧ codes ≠ .keyNotFound :: ResultCode.writing) : call.Ends live? code where
  mem := same ▸ mem
  parameterError := by
    refine iff_of_false (fun given => apart.1 (given ▸ mem)) fun misgiven => apart.1 ?_
    exact same ▸ mem_codes_of_misgiven misgiven
  tooBig := by
    rintro _ _ _ _ rfl
    exact absurd same.symm apart.2

/-- A write that ends as writes of bins do is held to what the call says. -/
theorem ends_of_writeEnds {kind : Gate.WriteKind} {options : Option WriteOptions}
    {existing : Option StoredRecord} {bins : List Bin}
    (ends : WriteEnds (WriteOptions.Passes options existing)
      (kind.firstFault? ((existing.map (·.bins)).getD ∅) bins) code) :
    (code ∈ ResultCode.parameterError :: .binTypeError :: ResultCode.writing) ∧
      (kind = .set → code ∈ ResultCode.writing) ∧
      (code = .parameterError ↔ Untaken kind options existing bins) := by
  cases ends with
  | notNew fails =>
    exact ⟨by decide, fun _ => by decide, iff_of_false ResultCode.noConfusion fun untaken => fails untaken.1⟩
  | mismatch fails =>
    exact ⟨by decide, fun _ => by decide, iff_of_false ResultCode.noConfusion fun untaken => fails untaken.1⟩
  | fault passed fault =>
    refine ⟨?_, ?_, ?_⟩
    · rcases Gate.WriteKind.firstFault?_cases fault with rfl | ⟨rfl, -⟩ <;> decide
    · rintro rfl
      rw [Gate.WriteKind.firstFault?_set] at fault
      cases fault
    · rw [Untaken, fault, and_iff_right passed]
      exact Option.some_inj.symm
  | tooBig passed none =>
    refine ⟨by decide, fun _ => by decide, iff_of_false ResultCode.noConfusion fun untaken => ?_⟩
    cases none.symm.trans untaken.2
  | done passed none =>
    refine ⟨by decide, fun _ => by decide, iff_of_false ResultCode.noConfusion fun untaken => ?_⟩
    cases none.symm.trans untaken.2

end GateCall

/-! ## Codes of commands -/

theorem CallResult.code_ofPresence_mem (found : Bool) : (ofPresence found).code ∈ ResultCode.presence := by
  cases found <;> decide

namespace GateCall

theorem code_named (call : GateCall) (r : CallResult) : (call.named r).code = r.code := by
  cases call with
  | getBin key name tx =>
    have single : (getBin key name tx).named r = r.withSingle name := rfl
    rw [single]
    unfold CallResult.withSingle
    split <;> rfl
  | _ => rfl

theorem code_ofWritten (call : GateCall) (record : Record) : (call.ofWritten record).code = .ok :=
  eq_of_beq (Session.isOk_ofWritten call record)

end GateCall

namespace Cluster

variable {c : Cluster} (admits : c.Admits) {now : UInt32} {key : Key} (call : GateCall)

theorem code_readLive_mem (selection : BinSelection) :
    (CallResult.ofReply .ofFoundRecord ((c.readLive now key selection).mapError Refusal.toError)).code ∈
      ResultCode.reading := by
  have missing : ResultCode.keyNotFound ∈ ResultCode.reading := by decide
  have damaged : ResultCode.clientError ∈ ResultCode.reading := by decide
  rw [readLive]
  cases c.live? now key.id with
  | none => exact missing
  | some r =>
    dsimp only
    split
    · exact damaged
    · rw [Except.mapError, CallResult.ofReply, CallResult.ofFoundRecord, CallResult.code_ofRecord]
      decide

include admits

theorem code_get (policy : Policy) (selection : BinSelection) :
    ∀ r ∈ (call.answer (c.answer now (.get policy key selection)).1).places, r.code ∈ ResultCode.reading := by
  have reply : (c.answer now (.get policy key selection)).1 = .record _ :=
    congrArg CommandReply.record (get_of_admits admits policy selection)
  intro r member
  rw [reply] at member
  rw [List.mem_singleton.1 member, call.code_named]
  exact code_readLive_mem selection

theorem code_contains (policy : Policy) :
    ∀ r ∈ (call.answer (c.answer now (.contains policy key)).1).places, r.code ∈ ResultCode.presence := by
  have reply : (c.answer now (.contains policy key)).1 = .flag _ :=
    congrArg CommandReply.flag (contains_of_admits admits policy)
  intro r member
  rw [reply] at member
  rw [List.mem_singleton.1 member]
  exact CallResult.code_ofPresence_mem _

theorem code_delete (policy : WritePolicy) :
    ∀ r ∈ (call.answer (c.answer now (.delete policy key)).1).places,
      r.code ∈ ResultCode.deletion := by
  have mismatch : ResultCode.generationMismatch ∈ ResultCode.deletion := by decide
  have code : (CallResult.ofReply .ofPresence (c.delete now policy key).1).code ∈ ResultCode.deletion := by
    rw [delete_eq, serve_of_admits admits]
    dsimp only
    split
    · exact .tail _ (.head _)
    · split
      · exact mismatch
      · exact .head _
  exact List.forall_mem_singleton.2 code

/-- Operations that do not write end as a read does. -/
theorem code_operate_reads (policy : WritePolicy) {ops : List Operation}
    (aloof : ∀ op ∈ ops, op.isWrite = false) :
    ∀ r ∈ (call.answer (c.answer now (.operate policy key ops)).1).places, r.code ∈ ResultCode.reading := by
  have reads : ops.any Operation.isWrite = false := by
    rw [List.any_eq_false]
    intro op member
    rw [aloof op member]
    exact Bool.false_ne_true
  have missing : ResultCode.keyNotFound ∈ ResultCode.reading := by decide
  have damaged : ResultCode.clientError ∈ ResultCode.reading := by decide
  have found (record : Record) : (call.ofWritten record).code ∈ ResultCode.reading := by
    rw [call.code_ofWritten]
    decide
  have code : (CallResult.ofReply call.ofWritten (c.operate now policy key ops).1).code ∈ ResultCode.reading := by
    rw [operate, serve_of_admits admits]
    simp only [reads, execute_of_reads reads]
    split
    · exact damaged
    · cases (c.counted (.write policy)).live? now key.id with
      | none => exact missing
      | some r => exact found _
  exact List.forall_mem_singleton.2 code

variable {call} {keys : List Key} (asked : call.batch? = some (.ok keys))
include asked

/-- The entries of a batch end as commands for one record do. -/
theorem code_batchGet (policy : Policy) (selection : BinSelection) :
    ∀ r ∈ (call.answer (c.answer now (.batchGet policy keys selection)).1).places,
      r.code ∈ ResultCode.reading := by
  have reply : (c.answer now (.batchGet policy keys selection)).1 = .records (.ok _) :=
    congrArg CommandReply.records (batchGet_of_admits admits policy keys selection)
  intro r member
  rw [reply, GateCall.answer, GateAnswer.places, GateCall.width_of_batch? asked, Batch.settled,
    if_pos (List.length_map _), List.map_map] at member
  obtain ⟨key, -, rfl⟩ := List.mem_map.1 member
  exact code_readLive_mem selection

theorem code_batchContains (policy : Policy) :
    ∀ r ∈ (call.answer (c.answer now (.batchContains policy keys)).1).places,
      r.code ∈ ResultCode.presence := by
  have reply : (c.answer now (.batchContains policy keys)).1 = .flags (.ok _) :=
    congrArg CommandReply.flags (batchContains_of_admits admits policy keys)
  intro r member
  rw [reply, GateCall.answer, GateAnswer.places, GateCall.width_of_batch? asked, Batch.settled,
    if_pos (List.length_map _), List.map_map] at member
  obtain ⟨key, -, rfl⟩ := List.mem_map.1 member
  exact CallResult.code_ofPresence_mem _

end Cluster

/-! ## Results -/

/-- A reply is of the kind of its command. -/
theorem Cluster.kind_answer (c : Cluster) (now : UInt32) (command : Command) :
    (c.answer now command).1.kind = command.kind := by
  cases command <;> rfl

namespace GateCall

theorem length_keys_of_batch {call : GateCall} {keys : Except GateError (List Key)}
    (asked : call.batch? = some keys) : call.keys.length = call.width := by
  cases keys with
  | ok keys => rw [keys_of_batch? asked, width_of_batch? asked]
  | error e =>
    rw [width, asked]
    cases call <;> first | cases asked | simp only [GateCall.keys, asked, List.length_nil]

/-- **A reply makes a result for each key.** -/
theorem length_places_answer {call : GateCall} {reply : CommandReply} (kind : reply.kind = call.kind) :
    (call.answer reply).places.length = call.keys.length := by
  have entries {α : Type} (value : α → CallResult) (reply : Reply (List α))
      {keys : Except GateError (List Key)} (asked : call.batch? = some keys) :
      (Batch.settled call.width value reply).length = call.keys.length := by
    rw [length_keys_of_batch asked]
    exact (Batch.settled_positional value call.width reply).length
  cases reply with
  | record _ | flag _ | written _ => cases call <;> first | rfl | cases kind
  | records reply => cases call <;> first | exact entries _ reply rfl | cases kind
  | flags reply => cases call <;> first | exact entries _ reply rfl | cases kind
  | summary reply => cases call <;> cases kind

/-- A batch that gives no command has no keys, and another call has one result. -/
theorem length_places_idle {call : GateCall} (idle : call.command? = none) :
    call.idle.places.length = call.keys.length := by
  have batch {build : List Key → Command} {keys : Except GateError (List Key)}
      (asked : call.batch? = some keys) (none : batchCommand? build keys = Option.none) :
      call.idle.places.length = call.keys.length := by
    rw [GateCall.idle, length_keys_of_batch asked, width, asked]
    cases keys with
    | error e => rfl
    | ok keys =>
      cases keys with
      | nil => rfl
      | cons key rest => cases none
  cases call with
  | write _ _ _ _ _ | addAndGet _ _ _ _ => rfl
  | delete _ _ _ | getBin _ _ _ | getBins _ _ _ | getAll _ _ | getWithTouch _ _ _ _ | contains _ _
  | operate _ _ _ _ _ => cases idle
  | batchContains _ _ _ _ | batchGet _ _ _ _ _ | batchGetAll _ _ _ _ | batchContainsDigests _ _ _
  | batchGetDigests _ _ _ _ | batchContainsKeys _ _ | batchGetKeys _ _ _ =>
    rw [command?] at idle
    exact batch rfl idle

end GateCall

/-! ## Codes of calls -/

namespace GateCall

section Answer

variable {c : Cluster} (admits : c.Admits) {now : UInt32}
include admits

/-- What a write of bins is held to. -/
theorem ends_of_bins (call : GateCall) (kind : Gate.WriteKind) (key : Key) {bins : List Bin}
    (nonempty : bins ≠ []) (tx : Option TransactionOptions) (options : Option WriteOptions)
    {reads : List Operation} (aloof : ∀ op ∈ reads, op.isWrite = false) :
    ∀ r ∈ (call.answer (c.answer now
        (.operate (.ofOptions tx options) key (bins.map kind.operation ++ reads))).1).places,
      (r.code ∈ ResultCode.parameterError :: .binTypeError :: ResultCode.writing) ∧
        (kind = .set → r.code ∈ ResultCode.writing) ∧
        (r.code = .parameterError ↔ bins = [] ∨ Untaken kind options (c.live? now key.id) bins) := by
  obtain ⟨mem, sets, untaken⟩ :=
    ends_of_writeEnds (Cluster.code_operate_bins admits tx options call.code_ofWritten kind nonempty aloof)
  exact List.forall_mem_singleton.2 ⟨mem, sets, untaken.trans (or_iff_right nonempty).symm⟩

/-- What a touch is held to. -/
theorem ends_of_touch {key : Key} (fits : ∀ r, c.live? now key.id = some r → r.size ≤ c.recordLimit)
    (names : Option (List String)) (tx : Option TransactionOptions) (options : Option WriteOptions)
    {command : Command} (gives : (getWithTouch key names tx options).command? = some command) :
    ∀ r ∈ ((getWithTouch key names tx options).answer (c.answer now command).1).places,
      (getWithTouch key names tx options).Ends (c.live? now) r.code := by
  obtain ⟨reads, same, still⟩ := command?_getWithTouch key names tx options
  cases same.symm.trans gives
  have touched : ∀ r ∈ ((getWithTouch key names tx options).answer
      (c.answer now (.operate (.ofOptions tx options) key (.touch :: reads))).1).places,
      TouchEnds options (c.live? now key.id) r.code :=
    List.forall_mem_singleton.2 (Cluster.code_operate_touch admits tx options (code_ofWritten _) fits rfl still)
  intro r member
  have ends := touched r member
  generalize live : c.live? now key.id = existing at ends
  generalize r.code = code at ends
  have mem : code ∈ ResultCode.keyNotFound :: ResultCode.writing := by
    cases ends <;> decide
  have given : ResultCode.parameterError ∉ ResultCode.keyNotFound :: ResultCode.writing := by decide
  refine ⟨mem, iff_of_false (fun same => given (same ▸ mem)) id, ?_⟩
  rintro _ _ _ _ ⟨⟩ rfl
  cases ends with
  | tooBig conflicts => exact ⟨_, live, conflicts⟩

/-- **What the results of a command's reply are held to.** -/
theorem ends_of_answer (fits : ∀ id r, c.live? now id = some r → r.size ≤ c.recordLimit) {call : GateCall}
    {command : Command} (gives : call.command? = some command) :
    ∀ r ∈ (call.answer (c.answer now command).1).places, call.Ends (c.live? now) r.code := by
  intro r member
  cases call with
  | write kind key bins tx options =>
    rw [command?] at gives
    split at gives
    · cases gives
    · next empty =>
      cases gives
      have nonempty : bins ≠ [] := mt List.isEmpty_iff.2 empty
      obtain ⟨mem, sets, given⟩ :=
        ends_of_bins admits _ kind key nonempty tx options (List.forall_mem_singleton.2 rfl) r member
      cases kind with
      | append | prepend | add => exact ⟨mem, given, fun _ _ _ _ => GateCall.noConfusion⟩
      | set =>
        have writing := sets rfl
        have out : ResultCode.parameterError ∉ ResultCode.writing := by decide
        exact ⟨List.mem_cons_of_mem _ writing, iff_of_false (fun same => out (same ▸ writing)) nonempty,
          fun _ _ _ _ => GateCall.noConfusion⟩
  | addAndGet key bins tx options =>
    rw [command?] at gives
    split at gives
    · cases gives
    · next empty =>
      cases gives
      have nonempty : bins ≠ [] := mt List.isEmpty_iff.2 empty
      obtain ⟨mem, -, given⟩ :=
        ends_of_bins admits _ .add key nonempty tx options (List.forall_mem_singleton.2 rfl) r member
      exact ⟨mem, given, fun _ _ _ _ => GateCall.noConfusion⟩
  | operate key reads writes tx options =>
    cases gives
    have aloof : ∀ op ∈ if reads.isEmpty then [Operation.readHeader] else reads.map .read,
        op.isWrite = false := by
      intro op member
      split at member
      · rw [List.mem_singleton.1 member]
        rfl
      · obtain ⟨name, -, rfl⟩ := List.mem_map.1 member
        rfl
    cases writes with
    | nil =>
      have code := Cluster.code_operate_reads admits _ (.ofOptions tx options) aloof r member
      exact .of_mem ResultCode.reading rfl code (by decide)
    | cons bin rest =>
      obtain ⟨-, writing, -⟩ :=
        ends_of_bins admits _ .set key (List.cons_ne_nil bin rest) tx options aloof r member
      exact .of_mem ResultCode.writing rfl (writing rfl) (by decide)
  | getWithTouch key names tx options =>
    exact ends_of_touch admits (fits key.id) names tx options gives r member
  | delete key tx options =>
    cases gives
    exact .of_mem ResultCode.deletion rfl (Cluster.code_delete admits _ _ r member) (by decide)
  | getBin _ _ _ | getBins _ _ _ | getAll _ _ =>
    cases gives
    exact .of_mem ResultCode.reading rfl (Cluster.code_get admits _ _ _ r member) (by decide)
  | contains key tx =>
    cases gives
    exact .of_mem ResultCode.presence rfl (Cluster.code_contains admits _ _ r member) (by decide)
  | batchContains _ _ _ _ | batchContainsDigests _ _ _ | batchContainsKeys _ _ =>
    rw [command?] at gives
    obtain ⟨keys, asked, -, rfl⟩ := eq_of_batchCommand? gives
    refine .of_mem ResultCode.presence rfl (Cluster.code_batchContains admits ?_ _ r member) (by decide)
    exact congrArg some asked
  | batchGet _ _ _ _ _ | batchGetAll _ _ _ _ | batchGetDigests _ _ _ _ | batchGetKeys _ _ _ =>
    rw [command?] at gives
    obtain ⟨keys, asked, -, rfl⟩ := eq_of_batchCommand? gives
    refine .of_mem ResultCode.reading rfl (Cluster.code_batchGet admits ?_ _ _ r member) (by decide)
    exact congrArg some asked

end Answer

/-- What the results of a call are held to that gives no command. -/
theorem ends_of_idle {call : GateCall} (idle : call.command? = none) (live? : RecordId → Option StoredRecord) :
    ∀ r ∈ call.idle.places, call.Ends live? r.code := by
  have batch {keys : Except GateError (List Key)} (asked : call.batch? = some keys) :
      ∀ r ∈ call.idle.places, call.Ends live? r.code := by
    intro r member
    rw [GateCall.idle, asked] at member
    cases keys <;> cases member
  have misgiven {bins : List Bin} {command : Command}
      (none : (if bins.isEmpty then Option.none else some command) = Option.none) : bins = [] := by
    split at none
    · next empty => exact List.isEmpty_iff.1 empty
    · cases none
  cases call with
  | write kind key bins tx options =>
    have empty := misgiven idle
    refine List.forall_mem_singleton.2 ⟨?_, iff_of_true rfl ?_, fun _ _ _ _ => GateCall.noConfusion⟩
    · cases kind <;> exact .head _
    · cases kind with
      | set => exact empty
      | append | prepend | add => exact .inl empty
  | addAndGet key bins tx options =>
    exact List.forall_mem_singleton.2
      ⟨.head _, iff_of_true rfl (.inl (misgiven idle)), fun _ _ _ _ => GateCall.noConfusion⟩
  | delete _ _ _ | getBin _ _ _ | getBins _ _ _ | getAll _ _ | getWithTouch _ _ _ _ | contains _ _
  | operate _ _ _ _ _ => cases idle
  | batchContains _ _ _ _ | batchGet _ _ _ _ _ | batchGetAll _ _ _ _ | batchContainsDigests _ _ _
  | batchGetDigests _ _ _ _ | batchContainsKeys _ _ | batchGetKeys _ _ _ => exact batch rfl

end GateCall

namespace Session

/-- **Calls end in their own ways**, on every store that calls lead to. -/
theorem calls_end_in_their_own_ways {nodes limit : Nat} {seconds : Int} {s : Session}
    (reaches : Reaches (opened nodes limit seconds) s) (script : s.script = []) (faults : s.cluster.faults = [])
    {gate : Gate} {seeds : List Host} (connected : gate.isConnected (surroundings seeds) s = true)
    (call : GateCall) :
    let answer? := ((gate.run (surroundings seeds) call).run s).1
    (s.now?.isSome = true → ∃ answer, answer? = some answer ∧ answer.places.length = call.keys.length) ∧
      ∀ answer, answer? = some answer →
        ∀ r ∈ answer.places, call.Ends (s.cluster.live? (s.now?.getD 0)) r.code := by
  intro answer?
  have attached : gate.attached = true := (Bool.and_eq_true_iff.1 connected).1
  have admits : s.cluster.Admits := ⟨(Bool.and_eq_true_iff.1 connected).2, faults⟩
  have sound := reaches.sound (Cluster.sound_ofSize nodes limit)
  have fits : ∀ id r, s.cluster.live? (s.now?.getD 0) id = some r → r.size ≤ s.cluster.recordLimit := by
    intro id r live
    rw [sound.recordLimit]
    exact (sound.live live).size
  have comes : answer? = (outcome gate s call).1 := (answers_run seeds gate call script).answer
  rw [comes, outcome]
  cases gives : call.command? with
  | none =>
    refine ⟨fun _ => ⟨_, rfl, GateCall.length_places_idle gives⟩, ?_⟩
    rintro _ ⟨⟩
    exact GateCall.ends_of_idle gives _
  | some command =>
    simp only [attached, if_true]
    constructor
    · intro told
      obtain ⟨now, told⟩ := Option.isSome_iff_exists.1 told
      have kind := (s.cluster.kind_answer now command).trans (GateCall.kind_of_command? gives)
      rw [served_of_told told]
      exact ⟨_, rfl, GateCall.length_places_answer kind⟩
    · intro answer answered
      rw [served] at answered
      split at answered
      · cases answered
      · cases answered
        exact GateCall.ends_of_answer admits fits gives

/-- A number can be appended to nothing, though the text before it could. -/
theorem calls_end_in_their_own_ways_of_tallied :
    let call := GateCall.write .append contested [⟨"t", .string "x"⟩, ⟨"t", .int 1⟩] none none
    codeAt { hosts := [], attached := true } [] tallied call 0 = some .parameterError := by
  intro call
  have reaches : Reaches (opened 2 1000 10) tallied :=
    .aside (.call (.refl _) (.command _ fun _ => return .ok ()) fun _ => .refl) rfl
  have connected : Gate.isConnected (surroundings []) { hosts := [], attached := true } tallied = true := rfl
  obtain ⟨answers, ends⟩ := calls_end_in_their_own_ways reaches rfl rfl connected call
  obtain ⟨answer, answered, count⟩ := answers rfl
  obtain ⟨r, only⟩ := List.length_eq_one_iff.1 count
  have fault : Gate.WriteKind.append.firstFault?
      (((tallied.cluster.live? 10 contested.id).map (·.bins)).getD ∅)
      [⟨"t", .string "x"⟩, ⟨"t", .int 1⟩] = some .parameterError := by decide +kernel
  have passes : WriteOptions.Passes none (tallied.cluster.live? 10 contested.id) := by
    intro o given
    cases given
  have misgiven : call.Misgiven (tallied.cluster.live? 10) := .inr ⟨passes, fault⟩
  have code := (ends answer answered r (by rw [only]; exact .head _)).parameterError.2 misgiven
  rw [codeAt, answered, Option.bind_some, only]
  exact congrArg some code

end Session

end RecordGate
