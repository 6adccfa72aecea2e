import RecordGate.Proofs.Gate.Request
import RecordGate.Session

/-!
# The shape of results

Whatever a client answers, a result has a code of its own, carries nothing but that code if the call did
not succeed, and never reports bins and versions at once (`CallResult.Shaped`). A value alone and damage
are reported only by the requests that ask for them (`GateRequest.places_shaped`).
-/

namespace RecordGate
set_option autoImplicit false

/-- What every result keeps to. -/
structure CallResult.Shaped (r : CallResult) : Prop where
  set : r.code ≠ .notSet
  bare : r.code ≠ .ok → r = .ofCode r.code
  either : r.bins = none ∨ r.versions = none

/-- A result without a value alone, and without damage. -/
structure CallResult.Plain (r : CallResult) : Prop extends r.Shaped where
  single : r.single = none
  whole : r.corrupted = false

namespace CallResult

theorem ofCode_ne_notSet (code : Int32) : ResultCode.ofCode code ≠ .notSet := by
  rw [ResultCode.ofCode]
  cases NativeCode.ofCode? code with
  | none => exact ResultCode.noConfusion
  | some native => cases native <;> exact ResultCode.noConfusion

theorem plain_ofCode {code : ResultCode} (set : code ≠ .notSet) : (ofCode code).Plain where
  set := set
  bare _ := rfl
  either := .inl rfl
  single := rfl
  whole := rfl

theorem plain_ofError (e : ClientError) : (ofError e).Plain := plain_ofCode (ofCode_ne_notSet e.code)

theorem plain_notFound : notFound.Plain := plain_ofCode ResultCode.noConfusion

theorem plain_ofHeader (record : Record) : (ofHeader record).Plain where
  set := ResultCode.noConfusion
  bare fails := (fails rfl).elim
  either := .inl rfl
  single := rfl
  whole := rfl

theorem plain_ofRecord (record : Record) : (ofRecord record).Plain := by
  rw [ofRecord]
  cases record.versions with
  | some versions => exact ⟨⟨ResultCode.noConfusion, fun fails => (fails rfl).elim, .inl rfl⟩, rfl, rfl⟩
  | none => exact ⟨⟨ResultCode.noConfusion, fun fails => (fails rfl).elim, .inr rfl⟩, rfl, rfl⟩

theorem plain_ofFoundRecord : ∀ found : Option Record, (ofFoundRecord found).Plain
  | some record => plain_ofRecord record
  | none => plain_notFound

theorem plain_ofPresence : ∀ found : Bool, (ofPresence found).Plain
  | true => plain_ofCode ResultCode.noConfusion
  | false => plain_notFound

theorem plain_ofReply {α : Type} {f : α → CallResult} (plain : ∀ a, (f a).Plain) :
    ∀ reply : Reply α, (ofReply f reply).Plain
  | .ok a => plain a
  | .error e => plain_ofError e

theorem shaped_ofSummary (summary : ScanSummary) : (ofSummary summary).Shaped where
  set := ResultCode.noConfusion
  bare fails := (fails rfl).elim
  either := .inl rfl

/-- To name a value alone leaves the shape. -/
theorem Shaped.withSingle {r : CallResult} (shaped : r.Shaped) (name : String) :
    (r.withSingle name).Shaped := by
  rw [CallResult.withSingle]
  cases ok : r.isOk with
  | true =>
    have succeeded : r.code = .ok := eq_of_beq ok
    exact ⟨shaped.set, fun fails => (fails succeeded).elim, shaped.either⟩
  | false => exact shaped

/-- A value alone is the one that is reported under its name. -/
theorem bins_of_withSingle {r : CallResult} (none : r.single = none) {name : String} {v : Value}
    (single : (r.withSingle name).single = some v) :
    ∃ bins, (r.withSingle name).bins = some bins ∧ bins.get? name = some v := by
  rw [withSingle] at single ⊢
  split at single
  · next ok =>
    rw [if_pos ok]
    exact Option.bind_eq_some_iff.1 single
  · rw [none] at single
    cases single

end CallResult

/-- Every result of a batch is of a value or a failure. -/
theorem Batch.forall_mem_settled {α : Type} {property : CallResult → Prop} {value : α → CallResult}
    (values : ∀ a, property (value a)) (failures : ∀ e, property (.ofError e)) (n : Nat)
    (reply : Reply (List α)) : ∀ r ∈ settled n value reply, property r := by
  intro r member
  cases reply with
  | error e => exact List.eq_of_mem_replicate member ▸ failures e
  | ok answers =>
    rw [settled] at member
    split at member
    · obtain ⟨a, -, rfl⟩ := List.mem_map.1 member
      exact values a
    · exact List.eq_of_mem_replicate member ▸ failures _

namespace GateCall

open CallResult

theorem plain_ofWritten (call : GateCall) (record : Record) : (call.ofWritten record).Plain := by
  unfold ofWritten
  split
  · exact plain_ofHeader record
  · split
    · exact plain_ofHeader record
    · exact plain_ofRecord record
  · exact plain_ofRecord record

/-- Only a read of one bin names a value alone. -/
theorem plain_named {call : GateCall} (many : ∀ key name tx, call ≠ .getBin key name tx) {r : CallResult}
    (plain : r.Plain) : (call.named r).Plain := by
  cases call with
  | getBin key name tx => exact (many key name tx rfl).elim
  | _ => exact plain

/-- What a call makes of a reply of its kind is plain, unless it reads one bin. -/
theorem plain_answer {call : GateCall} (many : ∀ key name tx, call ≠ .getBin key name tx)
    {reply : CommandReply} (kind : reply.kind = call.kind) : ∀ r ∈ (call.answer reply).places, r.Plain := by
  cases reply with
  | record reply =>
    exact List.forall_mem_singleton.2 (plain_named many (plain_ofReply plain_ofFoundRecord reply))
  | flag reply => exact List.forall_mem_singleton.2 (plain_ofReply plain_ofPresence reply)
  | written reply => exact List.forall_mem_singleton.2 (plain_ofReply call.plain_ofWritten reply)
  | records reply =>
    exact Batch.forall_mem_settled (plain_ofReply plain_ofFoundRecord) plain_ofError call.width reply
  | flags reply => exact Batch.forall_mem_settled plain_ofPresence plain_ofError call.width reply
  | summary reply => cases call <;> cases kind

theorem plain_failed (call : GateCall) (e : ClientError) : ∀ r ∈ (call.failed e).places, r.Plain := by
  intro r member
  rw [failed] at member
  split at member
  · exact List.eq_of_mem_replicate member ▸ plain_ofError e
  · cases member
  · exact List.eq_of_mem_singleton member ▸ plain_ofError e

theorem plain_idle (call : GateCall) : ∀ r ∈ call.idle.places, r.Plain := by
  intro r member
  rw [idle] at member
  split at member
  · cases member
  · cases member
  · exact List.eq_of_mem_singleton member ▸ plain_ofCode ResultCode.noConfusion

end GateCall

namespace GateRequest

open CallResult

variable {σ : Type}

theorem plain_unissued (request : GateRequest σ) : ∀ r ∈ request.unissued.places, r.Plain := by
  cases request with
  | scan scan callback => exact List.forall_mem_singleton.2 (plain_ofError _)
  | call call =>
    rw [unissued]
    split
    · exact call.plain_failed _
    · exact call.plain_idle

/-- What a place of an answer carries beside its shape: a value alone is a bin of the record that was read,
and damage is what the summary of the scan tells. -/
structure Carries (request : GateRequest σ) (reply? : Option CommandReply) (r : CallResult) : Prop where
  single : ∀ v, r.single = some v → ∃ key name tx bins, request = .call (.getBin key name tx) ∧
    r.bins = some bins ∧ bins.get? name = some v
  corrupted : r.corrupted = true → ∃ scan callback summary, request = .scan scan callback ∧
    reply? = some (.summary (.ok summary)) ∧ summary.corrupted = true

theorem carries_of_plain {request : GateRequest σ} {reply? : Option CommandReply} {r : CallResult}
    (plain : r.Plain) : request.Carries reply? r where
  single v single := by
    rw [plain.single] at single
    cases single
  corrupted damaged := by
    rw [plain.whole] at damaged
    cases damaged

/-- What a request makes of a reply of its kind. -/
theorem shaped_answer {request : GateRequest σ} {reply : CommandReply} (kind : reply.kind = request.kind) :
    ∀ r ∈ (request.answer reply).places, r.Shaped ∧ request.Carries (some reply) r := by
  have ofPlain {r : CallResult} (plain : r.Plain) : r.Shaped ∧ request.Carries (some reply) r :=
    ⟨plain.toShaped, carries_of_plain plain⟩
  cases request with
  | scan scan callback =>
    cases reply with
    | summary reply =>
      refine List.forall_mem_singleton.2 ?_
      cases reply with
      | error e => exact ofPlain (plain_ofError e)
      | ok summary =>
        refine ⟨shaped_ofSummary summary, fun v single => ?_, fun damaged => ?_⟩
        · cases single
        · exact ⟨scan, callback, summary, rfl, rfl, damaged⟩
    | _ => cases kind
  | call call =>
    cases call with
    | getBin key name tx =>
      cases reply with
      | record reply =>
        have plain := plain_ofReply plain_ofFoundRecord reply
        refine List.forall_mem_singleton.2
          ⟨plain.toShaped.withSingle name, fun v single => ?_, fun damaged => ?_⟩
        · obtain ⟨bins, reported, found⟩ := bins_of_withSingle plain.single single
          exact ⟨key, name, tx, bins, rfl, reported, found⟩
        · obtain ⟨single, same⟩ := (GateCall.getBin key name tx).named_eq (.ofReply .ofFoundRecord reply)
          have whole := (congrArg CallResult.corrupted same).trans plain.whole
          cases whole.symm.trans damaged
      | _ => cases kind
    | _ =>
      exact fun r member =>
        ofPlain (GateCall.plain_answer (fun _ _ _ => GateCall.noConfusion) kind r member)

/-- **Every result is in shape**, whatever the client answers. -/
theorem places_shaped (env : Surroundings σ) (gate : Gate) (request : GateRequest σ) {s t : σ}
    {answer : GateAnswer} (ran : (request.run env gate).run s = (some answer, t)) :
    ∀ r ∈ answer.places, r.Shaped ∧
      request.Carries ((request.issue env gate s).bind (·.1)) r := by
  intro r member
  have conducted := conducted_run env gate request s
  rw [ran] at conducted
  cases conducted with
  | unissued none noted =>
    have plain := request.plain_unissued r member
    exact ⟨plain.toShaped, carries_of_plain plain⟩
  | replied issued noted =>
    rw [issued]
    exact shaped_answer (kind_of_issue issued) r member

/-- A session whose next command is answered with a record of one bin. -/
def scriptedRead : Session where
  cluster := default
  clock := 0
  seeds := []
  script := [{ answer := .ok { record := some (some { bins := .ofList [("n", .int 1)] }) } }]

/-- The value of the bin that was read stands alone and among the bins. -/
theorem places_shaped_of_scriptedRead :
    let gate : Gate := { hosts := [], attached := true }
    let request : GateRequest Session := .call (.getBin ⟨"test", none, default⟩ "n" none)
    ∃ r t, (request.run (Session.surroundings []) gate).run scriptedRead = (some (.result r), t) ∧
      r.single = some (.int 1) ∧ r.Shaped ∧ ∃ bins, r.bins = some bins ∧ bins.get? "n" = some (.int 1) := by
  intro gate request
  have shaped := places_shaped (Session.surroundings []) gate request (s := scriptedRead) rfl _
    (List.mem_singleton_self _)
  obtain ⟨key, name, tx, bins, same, reported, found⟩ := shaped.2.single (.int 1) rfl
  obtain ⟨-, rfl, -⟩ := GateCall.getBin.inj (GateRequest.call.inj same)
  exact ⟨_, _, rfl, rfl, shaped.1, bins, reported, found⟩

end GateRequest

end RecordGate
