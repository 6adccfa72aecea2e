import RecordGate.Proofs.Gate.Success
import RecordGate.Proofs.Session.Reading

/-!
# A success is no failure

No call reports a success for a command that failed, unless it failed with the code that is named success, and
then it does. A write that reports a success and is no such failure is stored (`success_is_earned`).
-/

namespace RecordGate
set_option autoImplicit false

/-- A write of the store that is seen to succeed has stored a record, or it failed on a fault with the code
of success. -/
theorem Cluster.stored_of_operate {c : Cluster} {now : UInt32} {policy : WritePolicy} {key : Key}
    {ops : List Operation} (writes : ops.any Operation.isWrite = true) {f : Record → CallResult}
    (ok : (CallResult.ofReply f (c.operate now policy key ops).1).isOk = true) :
    (∃ e rest, c.connected = true ∧ c.faults = e :: rest ∧ e.code = 0 ∧
        (c.operate now policy key ops).1 = .error e) ∨
      ∃ next, (c.operate now policy key ops).2.find? key.id = some next ∧
        (c.operate now policy key ops).1 = .ok (next.view (Operation.selection ops)) ∧
        Written (c.live? now key.id) (key.setName.getD "") policy ops c.recordLimit now next := by
  have effect := (c.operate_effect now policy key ops).1
  cases replied : (c.operate now policy key ops).1 with
  | error e =>
    rw [replied] at ok
    obtain ⟨connected, rest, faults⟩ | ⟨refusal, rfl⟩ := error_of_serve replied
    · exact .inl ⟨e, rest, connected, faults, (CallResult.ofError_of_isOk ok).1, rfl⟩
    · exact Bool.noConfusion ((Session.isOk_ofError refusal).symm.trans ok)
  | ok record =>
    rw [replied] at effect
    cases effect with
    | kept nodes idle => exact Bool.noConfusion ((idle rfl).symm.trans writes)
    | wrote next admits writes written nodes reply =>
      refine .inr ⟨next, ?_, reply, written⟩
      rw [find?_congr nodes, find?_put, if_pos rfl]

namespace Session

/-- What a write leaves behind that succeeds, unless it failed on a fault with the code of success. -/
theorem stored_of_write {gate : Gate} {s t : Session} {kind : Gate.WriteKind} {key : Key} {bins : List Bin}
    {tx : Option TransactionOptions} {options : Option WriteOptions} {r : CallResult}
    (answers : Answers gate s (.write kind key bins tx options) (some (.result r), t)) (ok : r.isOk = true) :
    (r = .ok ∧ s.cluster.connected = true ∧ ∃ e rest, s.cluster.faults = e :: rest ∧ e.code = 0) ∨
      ∃ next, t.cluster.find? key.id = some next ∧ r.generation = some next.generation ∧
        Written (s.cluster.live? (s.now?.getD 0) key.id) (key.setName.getD "") (.ofOptions tx options)
          (bins.map kind.operation ++ [.readHeader]) s.cluster.recordLimit (s.now?.getD 0) next := by
  have place : (GateAnswer.result r).places[0]? = some r := rfl
  obtain ⟨command, gives, -, answered, cluster⟩ := replied_of_place answers place ok
  rw [GateCall.command?] at gives
  split at gives
  · cases gives
  · next nonempty =>
    cases gives
    have made : r = .ofReply .ofHeader (s.cluster.operate (s.now?.getD 0) (.ofOptions tx options) key
        (bins.map kind.operation ++ [.readHeader])).1 := GateAnswer.result.inj answered
    have writes : (bins.map kind.operation ++ [Operation.readHeader]).any Operation.isWrite = true := by
      cases bins with
      | nil => exact absurd rfl nonempty
      | cons bin rest => cases kind <;> rfl
    obtain ⟨e, rest, connected, faults, zero, failed⟩ | ⟨next, found, replied, written⟩ :=
      Cluster.stored_of_operate writes (made ▸ ok)
    · refine .inl ⟨?_, connected, e, rest, faults, zero⟩
      rw [made, failed] at ok
      rw [made, failed]
      exact (CallResult.ofError_of_isOk ok).2
    · refine .inr ⟨next, cluster ▸ found, ?_, written⟩
      rw [made, replied]
      rfl

/-- A session whose next command fails with the code that is named success. -/
def disguised : Session where
  cluster := (default : Cluster).failNext ⟨0, "x"⟩
  clock := 0
  seeds := []

/-- A read that failed reports a success without a generation, and a write that failed reports a success
with nothing stored. -/
theorem failure_reported_ok :
    let gate : Gate := { hosts := [], attached := true }
    let key : Key := ⟨"test", some "s", default⟩
    let read : GateRequest Session := .call (.getAll key none)
    let write : GateRequest Session := .call (.write .set key [⟨"n", .int 1⟩] none none)
    (∃ t, read.issue (surroundings []) gate disguised = some (some (.record (.error ⟨0, "x"⟩)), t)) ∧
      (∃ r t, (read.run (surroundings []) gate).run disguised = (some (.result r), t) ∧ r.code = .ok ∧
        r.generation = none ∧ r.bins.isNone ∧ r.versions.isNone) ∧
      (∃ t, write.issue (surroundings []) gate disguised = some (some (.written (.error ⟨0, "x"⟩)), t)) ∧
      ∃ r t, (write.run (surroundings []) gate).run disguised = (some (.result r), t) ∧ r.code = .ok ∧
        r.generation = none ∧ t.cluster.find? key.id = none :=
  ⟨⟨_, rfl⟩, ⟨_, _, rfl, rfl, rfl, rfl, rfl⟩, ⟨_, rfl⟩, _, _, rfl, rfl, rfl, rfl⟩

/-- **No failure is reported as a success**, unless its code is the one that is named success; a failure with
that code is, and the result carries nothing else. -/
theorem success_is_earned :
    (∀ {σ : Type} (env : Surroundings σ) (gate : Gate) (request : GateRequest σ) (s t : σ)
        (answer : GateAnswer), (request.run env gate).run s = (some answer, t) →
      ∀ (place : Nat) (r : CallResult), answer.places[place]? = some r → r.isOk = true →
        ∃ reply u, request.issue env gate s = some (some reply, u) ∧ request.Earned reply place r) ∧
    (∀ {σ : Type} (env : Surroundings σ) (gate : Gate) (request : GateRequest σ) (s t u : σ)
        (answer : GateAnswer) (reply : CommandReply), (request.run env gate).run s = (some answer, t) →
      request.issue env gate s = some (some reply, u) → reply.Fits answer.places.length →
      ∀ (place : Nat) (r : CallResult) (e : ClientError), answer.places[place]? = some r →
        reply.failure? place = some e → e.code = 0 → r = .ok) ∧
    ∀ (seeds : List Host) (gate : Gate) (kind : Gate.WriteKind) (key : Key) (bins : List Bin)
        (tx : Option TransactionOptions) (options : Option WriteOptions) (s t : Session) (r : CallResult),
      s.script = [] →
      (gate.run (surroundings seeds) (.write kind key bins tx options)).run s = (some (.result r), t) →
      r.isOk = true →
        (r = .ok ∧ s.cluster.connected = true ∧ ∃ e rest, s.cluster.faults = e :: rest ∧ e.code = 0) ∨
          ∃ next, t.cluster.find? key.id = some next ∧ r.generation = some next.generation ∧
            Written (s.cluster.live? (s.now?.getD 0) key.id) (key.setName.getD "") (.ofOptions tx options)
              (bins.map kind.operation ++ [.readHeader]) s.cluster.recordLimit (s.now?.getD 0) next := by
  refine ⟨fun env gate request s t answer ran place r => GateRequest.earned_of_run ran, ?_, ?_⟩
  · intro σ env gate request s t u answer reply ran issued fits place r e answered failure zero
    exact GateRequest.bare_of_run ran issued fits answered failure zero
  · intro seeds gate kind key bins tx options s t r script ran
    exact stored_of_write (ran ▸ answers_run seeds gate _ script)

/-- The first write of a key is stored, and a read that fails with the code of success reports nothing else. -/
theorem success_is_earned_of_firstSet :
    let gate : Gate := { hosts := [], attached := true }
    let key : Key := ⟨"test", some "s", default⟩
    let s : Session := { cluster := default, clock := 7, seeds := [] }
    let read : GateRequest Session := .call (.getAll key none)
    (∃ r t next, (gate.run (surroundings []) (.write .set key [⟨"n", .int 1⟩] none none)).run s =
        (some (.result r), t) ∧ r.isOk = true ∧ t.cluster.find? key.id = some next ∧
      r.generation = some next.generation) ∧
    ∃ t, (read.run (surroundings []) gate).run disguised = (some (.result .ok), t) := by
  intro gate key s read
  constructor
  · obtain ⟨-, -, e, rest, faults, -⟩ | ⟨next, found, reported, -⟩ :=
      success_is_earned.2.2 [] gate .set key [⟨"n", .int 1⟩] none none s _ _ rfl rfl rfl
    · cases faults
    · exact ⟨_, _, next, rfl, rfl, found, reported⟩
  · obtain ⟨r, t, ran⟩ : ∃ r t, (read.run (surroundings []) gate).run disguised = (some (.result r), t) :=
      ⟨_, _, rfl⟩
    have bare := success_is_earned.2.1 (surroundings []) gate read disguised t _ _ _ ran rfl trivial 0 r
      ⟨0, "x"⟩ rfl rfl rfl
    exact ⟨t, bare ▸ ran⟩

end Session

end RecordGate
