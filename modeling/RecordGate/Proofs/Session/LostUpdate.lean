import RecordGate.Proofs.Session.History
import RecordGate.Proofs.Session.StoreCall

/-!
# No lost update

Gates that share a store and each write under the condition that a record still has the generation they
saw cannot overwrite each other: at most one of the writes succeeds, and it is made before any other write
of the record. Writes that want to be unique succeed at most once while their record stays. The order of
the calls does not matter, nor what other calls are made in between.
-/

namespace RecordGate
set_option autoImplicit false

namespace Event

/-- A gate that holds a client writes to the record of an identity, and expects a generation. -/
def expects (id : RecordId) (g : UInt32) (e : Event) : Bool :=
  match e.call with
  | .gate name call =>
    (e.before.gates.get? name).any (·.gate.attached) && call.writes id &&
      call.options?.any fun o => !o.uniqueOnly && o.generationMode == .expectEqual g
  | .command .. => false

/-- A gate writes to the record of an identity, and wants the record to be new. -/
def wantsUnique (id : RecordId) (e : Event) : Bool :=
  match e.call with
  | .gate _ call => call.writes id && call.options?.any (·.uniqueOnly)
  | .command .. => false

theorem wrote_of_isOk {e : Event} {id : RecordId} (writes : e.call.writes id = true)
    (ok : e.answer.isOk = true) : e.wrote id = true := by
  rw [wrote, writes, ok]
  rfl

theorem writes_of_expects {e : Event} {id : RecordId} {g : UInt32} (expects : e.expects id g = true) :
    e.call.writes id = true := by
  obtain ⟨s, _ | _⟩ := e
  · simp only [Event.expects, Bool.and_eq_true] at expects
    exact expects.1.2
  · cases expects

theorem writes_of_wantsUnique {e : Event} {id : RecordId} (unique : e.wantsUnique id = true) :
    e.call.writes id = true := by
  obtain ⟨s, _ | _⟩ := e
  · simp only [Event.wantsUnique, Bool.and_eq_true] at unique
    exact unique.1
  · cases unique

end Event

namespace Session

/-! ## Refused writes -/

/-- A write of a live record that its check refuses fails as the check does, and changes no record. -/
theorem Ran.refused {gate : Gate} {s : Session} {call : GateCall} {x : Option GateAnswer × Session}
    (ran : Ran gate s call x) (ready : s.Ready) {id : RecordId} (writes : call.writes id = true)
    {r : StoredRecord} (live : s.live? id = some r) {refusal : Refusal}
    (refused : ∀ tx, checkWrite (some r) (.ofOptions tx call.options?) = .error refusal) :
    x.1 = some (.result (.ofError refusal.toError)) ∧ x.2.cluster.nodes = s.cluster.nodes ∨
      gate.attached = false ∧ x.1.any (·.isOk) = false := by
  obtain ⟨now, told, live⟩ := Option.bind_eq_some_iff.1 live
  cases ran with
  | idle idle beside failed =>
    right
    refine ⟨idle.resolve_left ?_, failed⟩
    intro none
    rw [GateCall.writes, none] at writes
    cases writes
  | crashed timeless steady =>
    rw [told] at timeless
    cases timeless
  | @replied command reply answer t gives attached answered clock gates script result =>
    rw [GateCall.writes, gives, Option.any_some, Command.writes, Bool.and_eq_true] at writes
    obtain ⟨isWrite, target⟩ := writes
    obtain ⟨tx, key, ops, rfl⟩ := GateCall.command?_of_isWrite gives isWrite
    have here : key.id = id := beq_iff_eq.1 target
    subst here
    rw [told] at answered
    have served := Cluster.operate_of_refused ready.admits live isWrite (refused tx)
    have outcome : (reply, t.cluster) =
        (.written (.error refusal.toError), s.cluster.counted (.write (.ofOptions tx call.options?))) := by
      rw [← answered, Option.getD_some, Cluster.answer, served]
      rfl
    obtain ⟨rfl, cluster⟩ := Prod.mk.inj outcome
    obtain ⟨f, -, made⟩ := result _ rfl
    exact .inl ⟨congrArg some made, (congrArg Cluster.nodes cluster : t.cluster.nodes = _)⟩

/-- A write that expects another generation than the record has is answered with a mismatch. -/
theorem answer_of_expects {e : Event} (ready : e.before.Ready) {id : RecordId} {g : UInt32}
    (expects : e.expects id g = true) {r : StoredRecord} (live : e.before.live? id = some r)
    (moved : r.generation ≠ g) :
    e.answer = .gate (some (some (.result (.ofCode .generationMismatch)))) ∧
      e.after.cluster.nodes = e.before.cluster.nodes := by
  obtain ⟨s, call⟩ := e
  cases call with
  | command => cases expects
  | gate name call =>
    simp only [Event.expects, Bool.and_eq_true, Option.any_eq_true, Bool.not_eq_true',
      beq_iff_eq] at expects
    obtain ⟨⟨⟨g', found, attached⟩, writes⟩, options, given, shared, expected⟩ := expects
    have refused tx : checkWrite (some r) (.ofOptions tx call.options?) =
        .error (.generationMismatch g r.generation) :=
      given ▸ checkWrite_of_expectEqual shared expected moved
    have ran := ran_run g'.seeds g'.gate call ready.script
    rw [Event.answer, Event.after, run_gate found]
    rcases ran.refused ready writes live refused with ⟨answer, nodes⟩ | ⟨detached, -⟩
    · refine ⟨?_, nodes⟩
      rw [Prod.map_fst, answer]
      rfl
    · rw [attached] at detached
      cases detached

/-- A write that wants to be unique does not succeed where the record is live. -/
theorem not_isOk_of_wantsUnique {e : Event} (ready : e.before.Ready) {id : RecordId}
    (unique : e.wantsUnique id = true) (live : (e.before.live? id).isSome = true) :
    e.answer.isOk = false := by
  obtain ⟨s, call⟩ := e
  obtain ⟨r, live⟩ := Option.isSome_iff_exists.1 live
  cases call with
  | command => cases unique
  | gate name call =>
    simp only [Event.wantsUnique, Bool.and_eq_true, Option.any_eq_true] at unique
    obtain ⟨writes, options, given, unique⟩ := unique
    rw [Event.answer]
    cases found : s.gates.get? name with
    | none =>
      rw [DataCall.run, run_call, found]
      rfl
    | some g =>
      have ran := ran_run g.seeds g.gate call ready.script
      have refused tx : checkWrite (some r) (.ofOptions tx call.options?) = .error .recordExists :=
        given ▸ checkWrite_of_unique unique r
      have outcome := ran.refused ready writes live refused
      rw [run_gate found]
      generalize (g.gate.run (surroundings g.seeds) call).run s = ran at outcome ⊢
      obtain ⟨answer?, t⟩ := ran
      rcases outcome with ⟨answer, -⟩ | ⟨-, failed⟩
      · cases answer
        rfl
      · cases answer? with
        | none => rfl
        | some answer => exact failed

/-! ## Histories -/

/-- A test that no event passes after another has passed it is passed once at most. -/
theorem countP_le_one {events : List Event} {p : Event → Bool}
    (alone : ∀ past e future, events = past ++ e :: future → p e = true →
      past.countP p = 0) : events.countP p ≤ 1 := by
  induction events with
  | nil => exact Nat.zero_le 1
  | cons e rest ih =>
    rw [List.countP_cons]
    split
    · next first =>
      have none : rest.countP p = 0 := by
        rw [List.countP_eq_zero]
        intro e' member passes
        obtain ⟨past, future, rfl⟩ := List.append_of_mem member
        have none := alone (e :: past) e' future rfl passes
        rw [List.countP_cons_of_pos first] at none
        omega
      omega
    · apply ih
      intro past e' future split passes
      have none := alone (e :: past) e' future (congrArg _ split) passes
      rw [List.countP_cons] at none
      omega

/-- The record of an identity is there at every event, once it is there. -/
def Lasting (s : Session) (id : RecordId) (events : List Event) : Prop :=
  ∀ past e future, events = past ++ e :: future →
    (s.live? id).isSome = true ∨ past.any (·.wrote id) = true → (e.before.live? id).isSome = true

theorem found_of_live {s : Session} {id : RecordId} {r : StoredRecord} (live : s.live? id = some r) :
    s.cluster.find? id = some r := by
  obtain ⟨_, -, live⟩ := Option.bind_eq_some_iff.1 live
  exact (Option.filter_eq_some_iff.1 live).1

/-- A live record that was written since has another generation than at the start. -/
theorem Run.moved {s : Session} {past future : List Event} {e : Event} {t : Session}
    (run : Run s (past ++ e :: future) t) (ready : s.Ready) {id : RecordId}
    (lasting : Lasting s id (past ++ e :: future)) {r : StoredRecord} (live : s.live? id = some r)
    (few : (past ++ e :: future).countP (·.wrote id) < generations)
    (written : past.any (·.wrote id) = true) :
    ∃ r', e.before.live? id = some r' ∧ r'.generation ≠ r.generation := by
  have start : (s.live? id).isSome = true := by rw [live]; rfl
  have stays : ∀ e' ∈ past, (e'.before.live? id).isSome = true := by
    intro e' member
    obtain ⟨earlier, later, rfl⟩ := List.append_of_mem member
    have split : earlier ++ e' :: later ++ e :: future = earlier ++ e' :: (later ++ e :: future) := by
      rw [List.append_assoc, List.cons_append]
    exact lasting earlier e' (later ++ e :: future) split (.inl start)
  obtain ⟨r', there⟩ := Option.isSome_iff_exists.1 (lasting past e future rfl (.inl start))
  have found := found_of_live there
  have held : (e.before.cluster.find? id).isSome = true := by rw [found]; rfl
  obtain ⟨r'', same, generation⟩ := run.before.generation ready (found_of_live live) stays held
  rw [found] at same
  cases same
  have some : 0 < past.countP (·.wrote id) := by
    rw [List.any_eq_true] at written
    exact List.countP_pos_iff.2 written
  have fewBefore : past.countP (·.wrote id) < generations := by
    rw [List.countP_append] at few
    omega
  refine ⟨r', there, ?_⟩
  rw [generation]
  exact iterate_nextGeneration_ne some fewBefore r.generation

section Lasting

variable {s t : Session} {events : List Event} (run : Run s events t) (ready : s.Ready) {id : RecordId}
  (lasting : Lasting s id events)
include run ready

/-- A run is ready for each of its calls. -/
theorem Run.readyAt {past future : List Event} {e : Event} (split : events = past ++ e :: future) :
    e.before.Ready := by
  subst split
  exact run.before.ready ready

include lasting

/-- Of writes that want to be unique only the first succeeds. -/
theorem Run.countP_wantsUnique :
    events.countP (fun e => e.wantsUnique id && e.answer.isOk) ≤ 1 := by
  apply countP_le_one
  intro past e future split passes
  rw [List.countP_eq_zero]
  simp only [Bool.and_eq_true] at passes ⊢
  rintro e' member ⟨unique', ok'⟩
  have wrote := Event.wrote_of_isOk (Event.writes_of_wantsUnique unique') ok'
  have written : past.any (·.wrote id) = true := List.any_eq_true.2 ⟨e', member, wrote⟩
  have live := lasting past e future split (.inr written)
  have failed := not_isOk_of_wantsUnique (run.readyAt ready split) passes.1 live
  rw [passes.2] at failed
  cases failed

variable {r : StoredRecord} (live : s.live? id = some r)
  (few : events.countP (·.wrote id) < generations)
include live few

/-- A write that expects the first generation is refused once the record was written. -/
theorem Run.mismatch {past future : List Event} {e : Event} (split : events = past ++ e :: future)
    (expects : e.expects id r.generation = true) (written : past.any (·.wrote id) = true) :
    e.answer = .gate (some (some (.result (.ofCode .generationMismatch)))) ∧
      e.after.cluster.nodes = e.before.cluster.nodes := by
  have readyThere := run.readyAt ready split
  subst split
  obtain ⟨r', there, moved⟩ := run.moved ready lasting live few written
  exact answer_of_expects readyThere expects there moved

/-- A write that expects the first generation succeeds only as the first write of the record. -/
theorem Run.unwritten_of_isOk {past future : List Event} {e : Event}
    (split : events = past ++ e :: future) (expects : e.expects id r.generation = true)
    (ok : e.answer.isOk = true) : past.any (·.wrote id) = false := by
  rw [Bool.eq_false_iff]
  intro written
  obtain ⟨answer, -⟩ := run.mismatch ready lasting live few split expects written
  rw [answer] at ok
  cases ok

/-- Of writes that expect the first generation one succeeds at most. -/
theorem Run.countP_expects :
    events.countP (fun e => e.expects id r.generation && e.answer.isOk) ≤ 1 := by
  apply countP_le_one
  intro past e future split passes
  rw [List.countP_eq_zero]
  simp only [Bool.and_eq_true] at passes ⊢
  rintro e' member ⟨expects', ok'⟩
  have first := run.unwritten_of_isOk ready lasting live few split passes.1 passes.2
  have unwritten := List.any_eq_false.1 first e' member
  exact unwritten (Event.wrote_of_isOk (Event.writes_of_expects expects') ok')

end Lasting

/-- **No lost update.** -/
theorem no_lost_update {s t : Session} {events : List Event} (run : Run s events t)
    (ready : s.Ready) {id : RecordId} (lasting : Lasting s id events) :
    (∀ r, s.live? id = some r → events.countP (·.wrote id) < UInt32.size - 1 →
      events.countP (fun e => e.expects id r.generation && e.answer.isOk) ≤ 1 ∧
      ∀ past e future, events = past ++ e :: future → e.expects id r.generation = true →
        (e.answer.isOk = true → past.any (·.wrote id) = false) ∧
        (past.any (·.wrote id) = true →
          e.answer = .gate (some (some (.result (.ofCode .generationMismatch)))) ∧
            e.after.cluster.nodes = e.before.cluster.nodes)) ∧
    events.countP (fun e => e.wantsUnique id && e.answer.isOk) ≤ 1 := by
  constructor
  · intro r live few
    refine ⟨run.countP_expects ready lasting live few, ?_⟩
    intro past e future split expects
    constructor
    · intro ok
      exact run.unwritten_of_isOk ready lasting live few split expects ok
    · intro written
      exact run.mismatch ready lasting live few split expects written
  · exact run.countP_wantsUnique ready lasting

/-! ## Two gates at one record -/

/-- The key of a record that two gates write. -/
def contested : Key := .ofDigest "test" ⟨List.replicate 20 7, rfl⟩

/-- A write of the contested record. -/
def setOne (name : String) (options : Option WriteOptions) : DataCall :=
  .gate name (.write .set contested [⟨"n", .int 1⟩] none options)

/-- Two gates over one store, after the first has written the contested record. -/
def contest : Session :=
  ((setOne "first" none).run
    { opened 2 1000 10 with
      gates := OrderedMap.ofList [("first", ⟨[], { hosts := [], attached := true }⟩),
        ("second", ⟨[], { hosts := [], attached := true }⟩)] }).2

/-- A write of the contested record as it was first seen. -/
def raise (name : String) : DataCall := setOne name (some { generationMode := .expectEqual 1 })

/-- Both gates write the record as they saw it. -/
def raises : List Event :=
  [⟨contest, raise "first"⟩, ⟨((raise "first").run contest).2, raise "second"⟩]

/-- Of two gates one comes first, and the other is told so. -/
theorem no_lost_update_of_raises :
    raises.countP (fun e => e.expects contested.id 1 && e.answer.isOk) ≤ 1 ∧
      (raises.map (·.answer.isOk)) = [true, false] := by
  have ready : contest.Ready := ⟨⟨rfl, rfl⟩, rfl⟩
  have run : Run contest raises ((raise "second").run ((raise "first").run contest).2).2 :=
    .call (.call .start (raise "first")) (raise "second")
  have lasting : Lasting contest contested.id raises := by
    intro past e future split _
    have member : e ∈ raises := by
      rw [split]
      exact List.mem_append_right past List.mem_cons_self
    have live : ∀ e ∈ raises, (e.before.live? contested.id).isSome = true := by decide +kernel
    exact live e member
  obtain ⟨r, live⟩ := Option.isSome_iff_exists.1
    (show (contest.live? contested.id).isSome = true from rfl)
  have first : r.generation = 1 := by
    have generation : (contest.live? contested.id).map (·.generation) = some 1 := by decide +kernel
    rw [live] at generation
    exact Option.some.inj generation
  have few : raises.countP (·.wrote contested.id) < UInt32.size - 1 := by decide +kernel
  constructor
  · rw [← first]
    exact ((no_lost_update run ready lasting).1 r live few).1
  · decide +kernel

end Session

end RecordGate
