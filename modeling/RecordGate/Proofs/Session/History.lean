import RecordGate.Proofs.Session.GateRun
import RecordGate.Proofs.Store.Generation

/-!
# Histories of data calls

Clients of one store, gates and others, make their calls in some order; a run is one such order. Between
the calls time may pass, scans may be opened and rows handed out, and gates may come and go, as long as no
record changes. What a callback of a scan calls is part of the run like any other call (`Run.scan`).
-/

namespace RecordGate
set_option autoImplicit false

/-- A call that reads or writes records: by the gate of a name, or as a command of the store's own
client. -/
inductive DataCall where
  | gate (name : String) (call : GateCall)
  | command (command : Command) (noScan : command.isScan = false)

/-- The answer to a data call. There is none after a crash, and none by a gate that does not exist. -/
inductive DataAnswer where
  | gate (answer : Option (Option GateAnswer))
  | command (reply : Option CommandReply)

namespace DataAnswer

def isOk : DataAnswer → Bool
  | gate (some (some answer)) => answer.isOk
  | command (some reply) => reply.isOk
  | _ => false

end DataAnswer

namespace DataCall

def run : DataCall → Session → DataAnswer × Session
  | gate name call, s => ((Session.call name call).run s).map .gate id
  | command c _, s => ((Session.direct.obey (fun _ => return .ok ()) c).run s).map .command id

/-- Whether a call writes to the record of an identity. -/
def writes (id : RecordId) : DataCall → Bool
  | gate _ call => call.writes id
  | command c _ => c.writes id

end DataCall

/-- A call at its moment. -/
structure Event where
  before : Session
  call : DataCall

namespace Event

def answer (e : Event) : DataAnswer := (e.call.run e.before).1

def after (e : Event) : Session := (e.call.run e.before).2

/-- Whether the record of an identity was written. -/
def wrote (id : RecordId) (e : Event) : Bool := e.call.writes id && e.answer.isOk

end Event

namespace Session

/-- The record of an identity that is there at the present time. -/
def live? (s : Session) (id : RecordId) : Option StoredRecord :=
  s.now?.bind fun now => s.cluster.live? now id

/-- Commands reach the store and are let in. -/
structure Ready (s : Session) : Prop where
  admits : s.cluster.Admits
  script : s.script = []

/-- Calls lead from `s` to a session, in this order. -/
inductive Run (s : Session) : List Event → Session → Prop
  | start : Run s [] s
  | call {past : List Event} {t : Session} (run : Run s past t) (call : DataCall) :
      Run s (past ++ [⟨t, call⟩]) (call.run t).2
  /-- What leaves the records and the connection alone. -/
  | aside {past : List Event} {t u : Session} (run : Run s past t)
      (nodes : u.cluster.nodes = t.cluster.nodes) (spared : t.cluster.Spared u.cluster)
      (script : u.script = t.script) : Run s past u

end Session

/-! ## One call -/

namespace Session

theorem run_call (name : String) (call : GateCall) (s : Session) :
    (Session.call name call).run s =
      match s.gates.get? name with
      | some g => (some <$> g.gate.run (surroundings g.seeds) call).run s
      | none => (some none, s) := by
  have run : (Session.call name call).run s =
      ((match s.gates.get? name with
        | some g => some <$> g.gate.run (surroundings g.seeds) call
        | none => return none : Program Session (Option GateAnswer))).run s := rfl
  rw [run]
  cases s.gates.get? name <;> rfl

/-- The call of a gate that exists. -/
theorem run_gate {name : String} {s : Session} {g : SeededGate} (found : s.gates.get? name = some g)
    (call : GateCall) :
    (DataCall.gate name call).run s =
      ((g.gate.run (surroundings g.seeds) call).run s).map (fun answer => .gate (answer.map some)) id := by
  rw [DataCall.run, run_call, found]
  dsimp only
  rw [Program.run_map]
  rfl

/-- What a call does beside its answer. -/
structure Passed (s t : Session) (wrote : RecordId → Bool) : Prop where
  spared : s.cluster.Spared t.cluster
  script : t.script = s.script
  sequel : ∀ {id r}, s.live? id = some r → t.cluster.Sequel id r (wrote id)

theorem Steady.passed {s t : Session} (steady : Steady s t) : Passed s t fun _ => false where
  spared := steady.spared
  script := steady.script
  sequel {id r} live := by
    obtain ⟨now, -, live⟩ := Option.bind_eq_some_iff.1 live
    exact .kept ((Cluster.find?_congr steady.nodes id).trans (Option.filter_eq_some_iff.1 live).1)

theorem Passed.congr {s t : Session} {wrote wrote' : RecordId → Bool} (passed : Passed s t wrote)
    (same : ∀ id, wrote' id = wrote id) : Passed s t wrote' :=
  funext same ▸ passed

/-- A command that the cluster answers passes as its effect says. -/
theorem passed_of_answer {s t : Session} {now : UInt32} {command : Command} {reply : CommandReply}
    (timely : ∀ time, s.now? = some time → time = now)
    (answer : s.cluster.answer now command = (reply, t.cluster)) (script : t.script = s.script) :
    Passed s t fun id => command.writes id && reply.isOk := by
  obtain ⟨effect, spared⟩ := s.cluster.answer_effect now command
  rw [answer] at effect spared
  refine ⟨spared, script, ?_⟩
  intro id r live
  obtain ⟨time, told, live⟩ := Option.bind_eq_some_iff.1 live
  rw [timely time told] at live
  exact effect.sequel live

/-- A write is refused, or it succeeds. -/
theorem answer_of_writes {c : Cluster} (admits : c.Admits) {now : UInt32} {command : Command}
    {id : RecordId} (writes : command.writes id = true) :
    ∃ outcome : Except Refusal Record,
      (c.answer now command).1 = .written (outcome.mapError Refusal.toError) := by
  cases command with
  | operate policy key ops =>
    exact ⟨_, congrArg CommandReply.written (congrArg Prod.fst (Cluster.serve_of_admits admits))⟩
  | _ => cases writes

theorem Ran.passed {gate : Gate} {s : Session} {call : GateCall} {x : Option GateAnswer × Session}
    (ran : Ran gate s call x) (ready : s.Ready) :
    Passed s x.2 fun id => call.writes id && x.1.any (·.isOk) := by
  cases ran with
  | idle idle beside failed =>
    apply beside.steady.passed.congr
    intro id
    rw [Option.any_some, failed, Bool.and_false]
  | crashed timeless steady =>
    apply steady.passed.congr
    intro id
    exact Bool.and_false _
  | @replied command reply answer t gives attached answered clock gates script result =>
    have timely : ∀ time, s.now? = some time → time = s.now?.getD 0 := by
      intro time told
      rw [told]
      rfl
    apply (passed_of_answer timely answered script).congr
    intro id
    rw [GateCall.writes, gives, Option.any_some, Option.any_some]
    cases writes : command.writes id with
    | false => rfl
    | true =>
      obtain ⟨outcome, written⟩ := answer_of_writes ready.admits writes
      rw [answered] at written
      obtain ⟨f, ok, made⟩ := result _ written
      rw [made, show reply = _ from written]
      cases outcome with
      | ok r => exact ok r
      | error refusal => exact isOk_ofError refusal

/-- **A call moves a live record's generation on if it writes the record, and not otherwise.** -/
theorem passed_run (call : DataCall) {s : Session} (ready : s.Ready) :
    Passed s (call.run s).2 fun id => call.writes id && (call.run s).1.isOk := by
  cases call with
  | gate name call =>
    cases found : s.gates.get? name with
    | none =>
      rw [DataCall.run, run_call, found]
      apply (Steady.refl s).passed.congr
      intro id
      exact Bool.and_false _
    | some g =>
      have passed := (ran_run g.seeds g.gate call ready.script).passed ready
      rw [run_gate found]
      generalize (g.gate.run (surroundings g.seeds) call).run s = ran at passed ⊢
      obtain ⟨_ | answer, t⟩ := ran <;> exact passed
  | command command noScan =>
    obtain ⟨obeyed, spared⟩ := obey_effect (fun _ => return .ok ()) noScan s
    rw [DataCall.run]
    generalize (direct.obey (fun _ => return .ok ()) command).run s = ran at obeyed spared ⊢
    cases obeyed with
    | @crashed d nodes timeless =>
      have steady : Steady s { s with cluster := d } := ⟨nodes, spared, rfl, rfl, rfl⟩
      apply steady.passed.congr
      intro id
      exact Bool.and_false _
    | replied effect =>
      refine ⟨spared, rfl, ?_⟩
      intro id r live
      obtain ⟨now, told, live⟩ := Option.bind_eq_some_iff.1 live
      rw [told] at effect
      exact effect.sequel live

/-! ## Runs -/

theorem Passed.ready {s t : Session} {wrote : RecordId → Bool} (passed : Passed s t wrote)
    (ready : s.Ready) : t.Ready where
  admits := passed.spared.admits ready.admits
  script := passed.script.trans ready.script

namespace Run

variable {s : Session}

theorem ready {past : List Event} {t : Session} (run : Run s past t) (ready : s.Ready) : t.Ready := by
  induction run with
  | start => exact ready
  | call run call ih => exact (passed_run call ih).ready ih
  | aside run nodes spared script ih => exact ⟨spared.admits ih.admits, script.trans ih.script⟩

theorem trans {past next : List Event} {t u : Session} (first : Run s past t)
    (second : Run t next u) : Run s (past ++ next) u := by
  induction second with
  | start =>
    rw [List.append_nil]
    exact first
  | call run call ih =>
    rw [← List.append_assoc]
    exact ih.call call
  | aside run nodes spared script ih => exact ih.aside nodes spared script

/-- A run comes to the moment of each of its events. -/
theorem before {past future : List Event} {e : Event} {t : Session}
    (run : Run s (past ++ e :: future) t) : Run s past e.before := by
  generalize whole : past ++ e :: future = events at run
  induction run generalizing future with
  | start => cases past <;> cases whole
  | @call earlier t run call ih =>
    rcases List.eq_nil_or_concat future with rfl | ⟨rest, last, rfl⟩
    · obtain ⟨rfl, here⟩ := List.append_inj' whole rfl
      cases here
      exact run
    · rw [List.concat_eq_append, ← List.cons_append, ← List.append_assoc] at whole
      exact ih (List.append_inj' whole rfl).1
  | aside run nodes spared script ih => exact ih whole

/-- The generation of a record that stays counts its writes. -/
theorem generation {past : List Event} {t : Session} (run : Run s past t) (ready : s.Ready)
    {id : RecordId} {r : StoredRecord} (start : s.cluster.find? id = some r)
    (stays : ∀ e ∈ past, (e.before.live? id).isSome = true)
    (there : (t.cluster.find? id).isSome = true) :
    ∃ r', t.cluster.find? id = some r' ∧
      r'.generation = nextGeneration^[past.countP (·.wrote id)] r.generation := by
  induction run with
  | start => exact ⟨r, start, rfl⟩
  | @call past t run call ih =>
    obtain ⟨earlier, now⟩ := List.forall_mem_append.1 stays
    obtain ⟨held, live⟩ := Option.isSome_iff_exists.1 (now _ List.mem_cons_self)
    have found : t.cluster.find? id = some held := by
      obtain ⟨_, -, live⟩ := Option.bind_eq_some_iff.1 live
      exact (Option.filter_eq_some_iff.1 live).1
    obtain ⟨r', same, generation⟩ := ih earlier (found ▸ rfl)
    cases found.symm.trans same
    have sequel := (passed_run call (run.ready ready)).sequel live
    rw [List.countP_append, List.countP_singleton]
    have wrote : Event.wrote id ⟨t, call⟩ = (call.writes id && (call.run t).1.isOk) := rfl
    rw [wrote]
    generalize (call.writes id && (call.run t).1.isOk) = wrote at sequel ⊢
    cases sequel with
    | kept found => exact ⟨held, found, generation⟩
    | gone missing =>
      rw [missing] at there
      cases there
    | written next found moved =>
      refine ⟨next, found, ?_⟩
      rw [moved, generation, if_pos rfl, Function.iterate_succ_apply']
  | aside run nodes spared script ih =>
    have same := Cluster.find?_congr nodes id
    rw [same] at there ⊢
    exact ih stays there

/-! ## Scans -/

theorem of_steady {t u : Session} (steady : Steady t u) : Run t [] u :=
  .aside .start steady.nodes steady.spared steady.script

/-- A scan is a run of what its handler calls. -/
theorem scan {handle : RowHandler Session}
    (handled : ∀ row u, ∃ events, Run u events ((handle row).run u).2) {command : Command}
    (scan : command.isScan = true) (t : Session) :
    ∃ events, Run t events ((direct.obey handle command).run t).2 := by
  have keeps : ∀ row u, (∃ events, Run t events u) → ∃ events, Run t events ((handle row).run u).2 := by
    rintro row u ⟨past, before⟩
    obtain ⟨events, run⟩ := handled row u
    exact ⟨past ++ events, before.trans run⟩
  exact scan_keeps keeps scan fun u steady => ⟨[], of_steady steady⟩

theorem of_beside {t u : Session} (beside : Beside t u) : Run t [] u := of_steady beside.steady

section GateScan

variable {callback : ScanRow → Program Session Unit}
  (called : ∀ row u, ∃ events, Run u events ((callback row).run u).2)
include called

/-- A scan through a gate is a run of what its callback calls. -/
theorem gateScan (seeds : List Host) (gate : Gate) (scan : GateScan) {t : Session}
    (script : t.script = []) :
    ∃ events, Run t events ((gate.runScan (surroundings seeds) scan callback).run t).2 := by
  have handled (row : ScanRow) (u : Session) :
      ∃ events, Run u events ((Gate.handler callback row).run u).2 := by
    rw [Gate.handler_snd]
    exact called row u
  have same : ((gate.runScan (surroundings seeds) scan callback).run t).2 =
      (((GateRequest.scan scan callback).run (surroundings seeds) gate).run t).2 := by
    rw [GateRequest.run, Program.run_map]
  rw [same]
  by_cases issued : gate.attached = true ∧ (GateRequest.scan scan callback).passes = true
  · have gives : (GateRequest.scan scan callback).command? = some scan.command := rfl
    obtain ⟨before, after, run⟩ := run_of_attached script seeds issued.1 gives
    rw [run]
    have kept : Beside t { t with lines := before, commands := t.commands ++ [scan.command] } :=
      ⟨rfl, rfl, rfl, rfl⟩
    obtain ⟨events, obeyed⟩ := Run.scan handled scan.isScan_command
      { t with lines := before, commands := t.commands ++ [scan.command] }
    exact ⟨events, ((of_beside kept).trans obeyed).aside rfl (.refl _) rfl⟩
  · obtain ⟨lines, run⟩ := run_of_idle (s := t) seeds issued
    rw [run]
    exact ⟨[], of_beside ⟨rfl, rfl, rfl, rfl⟩⟩

end GateScan

end Run

end Session

end RecordGate
