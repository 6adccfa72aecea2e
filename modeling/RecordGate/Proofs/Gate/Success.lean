import RecordGate.Proofs.Gate.Positions

/-!
# What success means

A result that succeeds is one of a command that the client was given. If the client failed, it failed with
the code that is named success, and the result carries nothing but that code; else a read that succeeds
reports a generation, with either bins or versions, and a write that succeeds reports a generation
(`GateRequest.earned_of_run`). Conversely, a failure with that code is reported as a success wherever it stands
(`GateRequest.bare_of_run`).
-/

namespace RecordGate
set_option autoImplicit false

/-! ## Failures -/

/-- Zero is the one failure code that callers see as a success. -/
theorem ResultCode.ofCode_eq_ok {code : Int32} (ok : ofCode code = .ok) : code = 0 := by
  rw [ofCode] at ok
  cases named : NativeCode.ofCode? code with
  | none =>
    rw [named] at ok
    cases ok
  | some native =>
    rw [named] at ok
    have same : native.code = code := eq_of_beq (List.find?_some named :)
    cases native with
    | ok => exact same.symm
    | _ => cases ok

/-- The failure of a reply. -/
def Reply.failure? {α : Type} : Reply α → Option ClientError
  | .ok _ => none
  | .error e => some e

/-- The failure in a reply for a place of the answer, be it of the command or of one record. -/
def CommandReply.failure? (place : Nat) : CommandReply → Option ClientError
  | record reply => reply.failure?
  | flag reply => reply.failure?
  | written reply => reply.failure?
  | records (.ok answers) => answers[place]?.bind Reply.failure?
  | records (.error e) => some e
  | flags reply => reply.failure?
  | summary reply => reply.failure?

/-- A reply that is made of entries for single records has one for each of so many places. -/
def CommandReply.Fits (places : Nat) : CommandReply → Prop
  | records (.ok answers) => answers.length = places
  | _ => True

namespace CallResult

/-- A failure that is reported as a success. -/
theorem ofError_of_isOk {e : ClientError} (ok : (ofError e).isOk = true) :
    e.code = 0 ∧ ofError e = .ok := by
  have named : ResultCode.ofCode e.code = .ok := eq_of_beq ok
  exact ⟨ResultCode.ofCode_eq_ok named, congrArg ofCode named⟩

theorem ofError_of_zero {e : ClientError} (zero : e.code = 0) : ofError e = .ok := by
  rw [ofError, zero]
  rfl

/-- What a read reports of a record: its generation, and either bins or versions. -/
structure Reading (r : CallResult) : Prop where
  generation : r.generation.isSome = true
  one : r.bins.isSome ≠ r.versions.isSome

theorem reading_ofRecord (record : Record) : (ofRecord record).Reading := by
  rw [ofRecord]
  cases record.versions with
  | some versions => exact ⟨rfl, Bool.noConfusion⟩
  | none => exact ⟨rfl, Bool.noConfusion⟩

end CallResult

/-- What succeeds in a batch is read from an entry, or the whole batch failed with the code of success. -/
theorem Batch.earned_of_settled {α : Type} {n place : Nat} {value : α → CallResult} {reply : Reply (List α)}
    {r : CallResult} (answered : (settled n value reply)[place]? = some r) (ok : r.isOk = true) :
    (∃ e, reply = .error e ∧ e.code = 0 ∧ r = .ok) ∨
      ∃ answers a, reply = .ok answers ∧ answers[place]? = some a ∧ r = value a := by
  cases reply with
  | error e =>
    obtain rfl := List.eq_of_mem_replicate (List.mem_of_getElem? answered)
    exact .inl ⟨e, rfl, CallResult.ofError_of_isOk ok⟩
  | ok answers =>
    rw [settled] at answered
    split at answered
    · rw [List.getElem?_map] at answered
      obtain ⟨a, here, rfl⟩ := Option.map_eq_some_iff.1 answered
      exact .inr ⟨answers, a, rfl, here, rfl⟩
    · obtain rfl := List.eq_of_mem_replicate (List.mem_of_getElem? answered)
      cases ok

namespace GateCall

theorem reading_named (call : GateCall) {r : CallResult} (reading : r.Reading) :
    (call.named r).Reading := by
  obtain ⟨single, same⟩ := call.named_eq r
  rw [same]
  exact ⟨reading.generation, reading.one⟩

theorem named_ok (call : GateCall) : call.named .ok = .ok := by
  cases call <;> rfl

/-- A failure is reported in its place, if the reply can be told apart into places. -/
theorem place_of_failure {call : GateCall} {reply : CommandReply} {place : Nat} {r : CallResult}
    (answered : (call.answer reply).places[place]? = some r)
    (fits : reply.Fits (call.answer reply).places.length) {e : ClientError}
    (failure : reply.failure? place = some e) : r = .ofError e := by
  cases reply with
  | record reply =>
    have result := List.eq_of_mem_singleton (List.mem_of_getElem? answered)
    cases reply with
    | ok found => cases failure
    | error f =>
      cases failure
      exact result.trans (call.named_ofError e)
  | flag reply | written reply | summary reply =>
    have result := List.eq_of_mem_singleton (List.mem_of_getElem? answered)
    cases reply with
    | ok a => cases failure
    | error f =>
      cases failure
      exact result
  | flags reply =>
    cases reply with
    | ok found => cases failure
    | error f =>
      cases failure
      exact List.eq_of_mem_replicate (List.mem_of_getElem? answered)
  | records reply =>
    cases reply with
    | error f =>
      cases failure
      exact List.eq_of_mem_replicate (List.mem_of_getElem? answered)
    | ok answers =>
      have positional := Batch.settled_positional (.ofReply .ofFoundRecord) call.width (.ok answers)
      have width : answers.length = call.width := fits.trans positional.length
      have aligned := positional.aligned answers rfl width place
      obtain ⟨entry, here, failed⟩ := Option.bind_eq_some_iff.1 failure
      rw [here] at aligned
      cases entry with
      | ok found => cases failed
      | error f =>
        cases failed
        exact Option.some.inj (answered.symm.trans aligned)

/-- A call that asks for bins of the record that it writes reads them. -/
theorem reading_ofWritten {call : GateCall} (asks : call.selection?.isSome = true) (record : Record) :
    (call.ofWritten record).Reading := by
  cases call with
  | write _ _ _ _ _ => cases asks
  | operate key reads _ _ _ =>
    rw [selection?] at asks
    rw [ofWritten]
    split at asks
    · cases asks
    · next some =>
      rw [if_neg some]
      exact CallResult.reading_ofRecord record
  | _ => exact CallResult.reading_ofRecord record

end GateCall

namespace GateRequest

variable {σ : Type}

/-- Whether a request asks for bins. -/
def reads : GateRequest σ → Bool
  | call c => c.selection?.isSome
  | scan _ _ => false

/-- Whether a request only writes bins. -/
def onlyWrites : GateRequest σ → Bool
  | call (.write ..) => true
  | _ => false

/-- Where the success at a place comes from. -/
inductive Earned (request : GateRequest σ) (reply : CommandReply) (place : Nat) (r : CallResult) : Prop
  /-- The client failed, with the code of success; nothing but that is reported. -/
  | failed {e : ClientError} (failure : reply.failure? place = some e) (zero : e.code = 0) (bare : r = .ok)
  | succeeded (unfailed : reply.failure? place = none) (read : request.reads = true → r.Reading)
      (written : request.onlyWrites = true → r.generation.isSome = true)

section Earned

variable {request : GateRequest σ} {place : Nat} {r : CallResult}

/-- A reply that is read as a whole. -/
theorem earned_of_ofReply {α : Type} {reply : Reply α} {f : α → CallResult} {kind : Reply α → CommandReply}
    (failure : (kind reply).failure? place = reply.failure?) (answered : .ofReply f reply = r)
    (ok : r.isOk = true) (read : ∀ a, request.reads = true → (f a).Reading)
    (written : ∀ a, request.onlyWrites = true → (f a).generation.isSome = true) :
    request.Earned (kind reply) place r := by
  subst answered
  cases reply with
  | error e =>
    obtain ⟨zero, bare⟩ := CallResult.ofError_of_isOk ok
    exact .failed failure zero bare
  | ok a => exact .succeeded failure (read a) (written a)

/-- A reply that is read entry by entry. -/
theorem earned_of_settled {α : Type} {n : Nat} {value : α → CallResult} {reply : Reply (List α)}
    {kind : Reply (List α) → CommandReply} (failed : ∀ e, (kind (.error e)).failure? place = some e)
    (answered : (Batch.settled n value reply)[place]? = some r) (ok : r.isOk = true)
    (entry : ∀ answers a, answers[place]? = some a → (value a).isOk = true →
      request.Earned (kind (.ok answers)) place (value a)) : request.Earned (kind reply) place r := by
  obtain ⟨e, rfl, zero, bare⟩ | ⟨answers, a, rfl, here, rfl⟩ := Batch.earned_of_settled answered ok
  · exact .failed (failed e) zero bare
  · exact entry answers a here ok

theorem earned_of_scan {scan : GateScan} {callback : ScanRow → Program σ Unit} {reply : CommandReply}
    (kind : reply.kind = .summary) {r : CallResult}
    (answered : ((GateRequest.scan scan callback).answer reply).places[place]? = some r)
    (ok : r.isOk = true) : (GateRequest.scan scan callback).Earned reply place r := by
  cases reply with
  | summary reply =>
    have result := List.eq_of_mem_singleton (List.mem_of_getElem? answered)
    exact earned_of_ofReply rfl result.symm ok (fun _ => nofun) (fun _ => nofun)
  | _ => cases kind

/-- **What a call makes of a reply**, where it succeeds. -/
theorem earned_of_call {call : GateCall} {reply : CommandReply} (kind : reply.kind = call.kind)
    (answered : (call.answer reply).places[place]? = some r) (ok : r.isOk = true) :
    (GateRequest.call call : GateRequest σ).Earned reply place r := by
  cases reply with
  | record reply =>
    have result := List.eq_of_mem_singleton (List.mem_of_getElem? answered)
    have writes : (GateRequest.call call : GateRequest σ).onlyWrites = false := by
      cases call <;> first | rfl | cases kind
    subst result
    rw [call.isOk_named] at ok
    cases reply with
    | error e =>
      obtain ⟨zero, bare⟩ := CallResult.ofError_of_isOk ok
      exact .failed rfl zero ((congrArg call.named bare).trans call.named_ok)
    | ok found =>
      cases found with
      | none => cases ok
      | some record =>
        refine .succeeded rfl (fun _ => call.reading_named (CallResult.reading_ofRecord record)) ?_
        rw [writes]
        exact nofun
  | flag reply =>
    have result := List.eq_of_mem_singleton (List.mem_of_getElem? answered)
    cases call with
    | delete _ _ _ | contains _ _ =>
      exact earned_of_ofReply rfl result.symm ok (fun _ => nofun) (fun _ => nofun)
    | _ => cases kind
  | written reply =>
    have result := List.eq_of_mem_singleton (List.mem_of_getElem? answered)
    refine earned_of_ofReply rfl result.symm ok (fun record asks => GateCall.reading_ofWritten asks record) ?_
    intro record writes
    cases call with
    | write _ _ _ _ _ => rfl
    | _ => cases writes
  | records reply =>
    have writes : (GateRequest.call call : GateRequest σ).onlyWrites = false := by
      cases call <;> first | rfl | cases kind
    refine earned_of_settled (fun _ => rfl) answered ok fun answers entry here ok => ?_
    have failure : (CommandReply.records (.ok answers)).failure? place = entry.failure? := by
      rw [CommandReply.failure?, here]
      rfl
    cases entry with
    | error e =>
      obtain ⟨zero, bare⟩ := CallResult.ofError_of_isOk ok
      exact .failed failure zero bare
    | ok found =>
      cases found with
      | none => cases ok
      | some record =>
        refine .succeeded failure (fun _ => CallResult.reading_ofRecord record) ?_
        rw [writes]
        exact nofun
  | flags reply =>
    refine earned_of_settled (fun _ => rfl) answered ok fun answers found here ok => ?_
    cases call with
    | batchContains _ _ _ _ | batchContainsDigests _ _ _ | batchContainsKeys _ _ =>
      exact .succeeded rfl nofun nofun
    | _ => cases kind
  | summary reply => cases call <;> cases kind

end Earned

/-- A request for which no command is issued does not succeed. -/
theorem not_isOk_of_unissued (request : GateRequest σ) : ∀ r ∈ request.unissued.places, r.isOk = false := by
  cases request with
  | scan scan callback => exact List.forall_mem_singleton.2 rfl
  | call call =>
    rw [unissued]
    split
    · exact call.not_isOk_of_failed
    · exact call.not_isOk_of_idle

/-- **What succeeds is earned**, whatever the client does. -/
theorem earned_of_run {env : Surroundings σ} {gate : Gate} {request : GateRequest σ} {s t : σ}
    {answer : GateAnswer} (ran : (request.run env gate).run s = (some answer, t)) {place : Nat}
    {r : CallResult} (answered : answer.places[place]? = some r) (ok : r.isOk = true) :
    ∃ reply u, request.issue env gate s = some (some reply, u) ∧ request.Earned reply place r := by
  have conducted := conducted_run env gate request s
  rw [ran] at conducted
  cases conducted with
  | unissued none noted =>
    have fails := request.not_isOk_of_unissued r (List.mem_of_getElem? answered)
    exact Bool.noConfusion (fails.symm.trans ok)
  | @replied reply u _ issued noted =>
    refine ⟨reply, u, issued, ?_⟩
    have kind := kind_of_issue issued
    cases request with
    | call call => exact earned_of_call kind answered ok
    | scan scan callback => exact earned_of_scan kind answered ok

/-- **A failure with the code of success is reported as a bare success**, wherever it stands. -/
theorem bare_of_run {env : Surroundings σ} {gate : Gate} {request : GateRequest σ} {s t u : σ}
    {answer : GateAnswer} (ran : (request.run env gate).run s = (some answer, t)) {reply : CommandReply}
    (issued : request.issue env gate s = some (some reply, u)) (fits : reply.Fits answer.places.length)
    {place : Nat} {r : CallResult} (answered : answer.places[place]? = some r) {e : ClientError}
    (failure : reply.failure? place = some e) (zero : e.code = 0) : r = .ok := by
  have conducted := conducted_run env gate request s
  rw [ran] at conducted
  cases conducted with
  | unissued none noted => cases none.symm.trans issued
  | replied same noted =>
    cases same.symm.trans issued
    have kind := kind_of_issue issued
    rw [← CallResult.ofError_of_zero zero]
    cases request with
    | call call => exact GateCall.place_of_failure answered fits failure
    | scan scan callback =>
      cases reply with
      | summary reply =>
        cases reply with
        | ok summary => cases failure
        | error f =>
          cases failure
          exact List.eq_of_mem_singleton (List.mem_of_getElem? answered)
      | _ => cases kind

end GateRequest

end RecordGate
