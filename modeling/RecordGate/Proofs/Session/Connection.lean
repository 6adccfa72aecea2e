import RecordGate.Proofs.Session.Account
import RecordGate.Proofs.Session.History
import RecordGate.Proofs.Session.Link

/-!
# The life of a connection

The gates of a session share one connection, and each of them holds a client or none. Gates are made,
given hosts and closed in any order, between data calls of all of them; a `Life` is one such order. A gate
loses the connection by the closing of another and has it back by the success of another, but a client
only by its own (`lifecycle`).
-/

namespace RecordGate
set_option autoImplicit false

/-- A step in the life of gates: one that makes, links or closes the gate of a name, or a call of it. -/
inductive GateStep where
  | connect (name : String) (hosts : List Host)
  /-- Make a gate from the text of a configuration. -/
  | configure (name text : String)
  | addHost (name : String) (host : Host)
  | close (name : String)
  | call (name : String) (call : GateCall)

namespace GateStep

/-- The gate that a step is about. -/
def name : GateStep → String
  | connect name _ | configure name _ | addHost name _ | close name | call name _ => name

/-- Whether a step is one of the connection, and no data call. -/
def isLink : GateStep → Bool
  | call _ _ => false
  | _ => true

/-- Make a step. Tells whether it connected a gate, or found it connected. -/
def run : GateStep → Session → Bool × Session
  | connect name hosts, s => Session.connect name hosts s
  | configure name text, s =>
    (Session.connectConfigured name text s).map (fun told => told.toOption.getD false) id
  | addHost name host, s => (Session.addHost name host s).map (·.getD false) id
  | close name, s => (Session.closeGate name s).map (fun _ => false) id
  | call name c, s => (false, ((Session.call name c).run s).2)

end GateStep

/-- A step at its moment. -/
structure GateEvent where
  before : Session
  step : GateStep

namespace GateEvent

/-- Whether the step connected its gate, or found it connected. -/
def succeeded (e : GateEvent) : Bool := (e.step.run e.before).1

def after (e : GateEvent) : Session := (e.step.run e.before).2

/-- Whether the step closes the connection: its gate is closed and holds a client. -/
def closes (e : GateEvent) : Bool :=
  match e.step with
  | .close name => (e.before.gates.get? name).any (·.gate.attached)
  | _ => false

end GateEvent

namespace Session

/-! ## One step -/

/-- What a step keeps: the script, and the records if it is no data call. -/
structure Kept (s : Session) (step : GateStep) (t : Session) : Prop where
  script : t.script = s.script
  nodes : step.isLink = true → t.cluster.nodes = s.cluster.nodes

/-- What a step does to the connection and to the gates. -/
inductive Stepped (s : Session) (step : GateStep) : Bool × Session → Prop
  | idle {t : Session} (kept : Kept s step t) (connected : t.cluster.connected = s.cluster.connected)
      (gates : t.gates = s.gates) : Stepped s step (false, t)
  /-- The gate is connected. -/
  | reached {t : Session} {g : SeededGate} (kept : Kept s step t) (connected : t.cluster.connected = true)
      (gates : t.gates = s.gates.insert step.name g) : Stepped s step (true, t)
  /-- The gate holds no client, and the connection stays as it was. -/
  | missed {t : Session} {g : SeededGate} (kept : Kept s step t)
      (connected : t.cluster.connected = s.cluster.connected)
      (gates : t.gates = s.gates.insert step.name g) (detached : g.gate.attached = false) :
      Stepped s step (false, t)
  /-- A gate that held a client closed the connection. -/
  | closed {t : Session} {g : SeededGate} (kept : Kept s step t) (connected : t.cluster.connected = false)
      (gates : t.gates = s.gates.insert step.name g) (detached : g.gate.attached = false)
      (closes : GateEvent.closes ⟨s, step⟩ = true) : Stepped s step (false, t)

/-- A gate that tried to reach the cluster is kept. -/
theorem stepped_of_linked (s : Session) (step : GateStep) {reached : Bool} {g : SeededGate}
    (same : g.gate.attached = reached) (lines : List (LogLevel × String)) (log : LogRouter Unit) :
    Stepped s step (reached,
      { s.linked reached lines with gates := s.gates.insert step.name g, log }) := by
  cases reached with
  | true => exact .reached ⟨rfl, fun _ => rfl⟩ rfl rfl
  | false => exact .missed ⟨rfl, fun _ => rfl⟩ rfl rfl same

/-- A data call leaves the connection and the gates alone. -/
theorem Ran.idle_link {gate : Gate} {s : Session} {call : GateCall} {x : Option GateAnswer × Session}
    (ran : Ran gate s call x) :
    x.2.cluster.connected = s.cluster.connected ∧ x.2.gates = s.gates ∧ x.2.script = s.script := by
  cases ran with
  | idle idle beside failed => exact ⟨congrArg _ beside.cluster, beside.gates, beside.script⟩
  | crashed timeless steady => exact ⟨steady.spared.connected, steady.gates, steady.script⟩
  | @replied command reply answer t gives attached answered clock gates script result =>
    have spared := (s.cluster.answer_effect (s.now?.getD 0) command).2
    rw [answered] at spared
    exact ⟨spared.connected, gates, script⟩

/-- **One step**, whatever it is. -/
theorem stepped_run {s : Session} (script : s.script = []) (step : GateStep) :
    Stepped s step (step.run s) := by
  have idle (step : GateStep) : Stepped s step (false, s) := .idle ⟨rfl, fun _ => rfl⟩ rfl rfl
  cases step with
  | connect name hosts =>
    obtain ⟨reached, lines, -, made⟩ := connect_eq name hosts s
    have same : (⟨s.seeds, { hosts, attached := reached }⟩ : SeededGate).gate.attached = reached := rfl
    rw [GateStep.run, made]
    exact stepped_of_linked s (.connect name hosts) same lines s.log
  | configure name text =>
    rw [GateStep.run]
    obtain ⟨e, log, none⟩ | ⟨hosts, reached, lines, log, -, made⟩ := connectConfigured_eq name text s
    · rw [none]
      exact .idle ⟨rfl, fun _ => rfl⟩ rfl rfl
    · have same : (⟨s.seeds, { hosts, attached := reached }⟩ : SeededGate).gate.attached = reached := rfl
      rw [made]
      exact stepped_of_linked s (.configure name text) same lines log
  | addHost name host =>
    rw [GateStep.run]
    cases found : s.gates.get? name with
    | none =>
      rw [Session.addHost, changeGate_of_none found]
      exact idle _
    | some g =>
      obtain ⟨told, lines, -, added⟩ := addHost_eq found host
      have same : (⟨g.seeds, { g.gate.listing host with attached := told }⟩ : SeededGate).gate.attached =
        told := rfl
      rw [added]
      exact stepped_of_linked s (.addHost name host) same lines s.log
  | close name =>
    rw [GateStep.run]
    cases found : s.gates.get? name with
    | none =>
      rw [closeGate, changeGate_of_none found]
      exact idle _
    | some g =>
      obtain ⟨lines, closed⟩ := closeGate_eq found
      rw [closed]
      cases attached : g.gate.attached with
      | false => exact .missed ⟨rfl, fun _ => rfl⟩ rfl rfl rfl
      | true =>
        have closes : (s.gates.get? name).any (·.gate.attached) = true := by
          rw [found]
          exact attached
        exact .closed ⟨rfl, fun _ => rfl⟩ rfl rfl rfl closes
  | call name call =>
    rw [GateStep.run, run_call]
    cases s.gates.get? name with
    | none => exact idle _
    | some g =>
      have ran := ran_run g.seeds g.gate call script
      obtain ⟨connected, gates, script⟩ := ran.idle_link
      dsimp only
      rw [Program.run_map]
      exact .idle ⟨script, fun link => (Bool.false_ne_true link).elim⟩ connected gates

/-- A step changes no gate but its own. -/
theorem Stepped.others {s : Session} {step : GateStep} {x : Bool × Session} (stepped : Stepped s step x)
    {other : String} (another : other ≠ step.name) : x.2.gates.get? other = s.gates.get? other := by
  have inserted {t : Session} {g : SeededGate} (gates : t.gates = s.gates.insert step.name g) :
      t.gates.get? other = s.gates.get? other := by
    rw [gates, OrderedMap.get?_insert, if_neg another]
  cases stepped with
  | idle kept connected gates => exact congrArg (·.get? other) gates
  | reached kept connected gates => exact inserted gates
  | missed kept connected gates detached => exact inserted gates
  | closed kept connected gates detached closes => exact inserted gates

/-- The gate of a name holds no client. -/
def Detached (s : Session) (name : String) : Prop :=
  ∃ g, s.gates.get? name = some g ∧ g.gate.attached = false

/-- A gate that holds no client is left so, unless it is connected itself. -/
theorem Stepped.detached {s : Session} {step : GateStep} {x : Bool × Session} (stepped : Stepped s step x)
    {name : String} (unopened : x.1 = true → step.name ≠ name) (detached : s.Detached name) :
    x.2.Detached name := by
  by_cases own : step.name = name
  · have inserted {t : Session} {g : SeededGate} (gates : t.gates = s.gates.insert step.name g)
        (detached : g.gate.attached = false) : t.Detached name := by
      refine ⟨g, ?_, detached⟩
      rw [gates, OrderedMap.get?_insert, if_pos own.symm]
    cases stepped with
    | idle kept connected gates =>
      rw [Detached, gates]
      exact detached
    | reached kept connected gates => exact (unopened rfl own).elim
    | missed kept connected gates detached => exact inserted gates detached
    | closed kept connected gates detached closes => exact inserted gates detached
  · rw [Detached, stepped.others (Ne.symm own)]
    exact detached

/-! ## A life -/

/-- Steps lead from `s` to a session, in this order. -/
inductive Life (s : Session) : List GateEvent → Session → Prop
  | start : Life s [] s
  | step {past : List GateEvent} {t : Session} (life : Life s past t) (step : GateStep) :
      Life s (past ++ [⟨t, step⟩]) (step.run t).2
  /-- What leaves the connection and the gates alone, as when a scan is opened, or a record is damaged. -/
  | aside {past : List GateEvent} {t u : Session} (life : Life s past t)
      (connected : u.cluster.connected = t.cluster.connected) (gates : u.gates = t.gates)
      (script : u.script = t.script) : Life s past u

namespace Life

variable {s t u : Session} {events : List GateEvent}

theorem trans {later : List GateEvent} (first : Life s events t) (second : Life t later u) :
    Life s (events ++ later) u := by
  induction second with
  | start => rwa [List.append_nil]
  | step _ step ih =>
    rw [← List.append_assoc]
    exact .step ih step
  | aside _ connected gates script ih => exact .aside ih connected gates script

theorem script (life : Life s events t) (script : s.script = []) : t.script = [] := by
  induction life with
  | start => exact script
  | @step past t _ step ih =>
    have stepped := stepped_run ih step
    generalize step.run t = x at stepped
    cases stepped with
    | idle kept | reached kept | missed kept | closed kept => exact kept.script.trans ih
  | aside _ connected gates script ih => exact script.trans ih

/-- A life goes on after each of its steps. -/
theorem split {past later : List GateEvent} {e : GateEvent} (life : Life s events t)
    (parts : events = past ++ e :: later) : Life s past e.before ∧ Life e.after later t := by
  induction life generalizing later with
  | start => cases past <;> cases parts
  | @step events t life step ih =>
    rcases List.eq_nil_or_concat later with rfl | ⟨front, last, rfl⟩
    · obtain ⟨rfl, same⟩ := List.append_inj' parts rfl
      cases same
      exact ⟨life, .start⟩
    · rw [List.concat_eq_append, ← List.cons_append, ← List.append_assoc] at parts
      obtain ⟨fore, same⟩ := List.append_inj' parts rfl
      cases same
      obtain ⟨before, after⟩ := ih fore
      rw [List.concat_eq_append]
      exact ⟨before, .step after step⟩
  | aside _ connected gates script ih =>
    obtain ⟨before, after⟩ := ih parts
    exact ⟨before, .aside after connected gates script⟩

/-- A closed connection stays closed while no step succeeds. -/
theorem closed (life : Life s events t) (script : s.script = []) (closed : s.cluster.connected = false)
    (fails : ∀ e ∈ events, e.succeeded = false) : t.cluster.connected = false := by
  induction life with
  | start => exact closed
  | @step past t life step ih =>
    have before := ih fun e member => fails e (List.mem_append_left _ member)
    have failed : (step.run t).1 = false := fails ⟨t, step⟩ (List.mem_append_right _ List.mem_cons_self)
    have stepped := stepped_run (life.script script) step
    generalize step.run t = x at stepped failed
    cases stepped with
    | idle kept connected | missed kept connected => exact connected.trans before
    | reached kept connected => cases failed
    | closed kept connected => exact connected
  | aside _ connected gates script ih => exact connected.trans (ih fails)

/-- A connection stays while no gate closes it. -/
theorem connected (life : Life s events t) (script : s.script = []) (connected : s.cluster.connected = true)
    (unclosed : ∀ e ∈ events, e.closes = false) : t.cluster.connected = true := by
  induction life with
  | start => exact connected
  | @step past t life step ih =>
    have before := ih fun e member => unclosed e (List.mem_append_left _ member)
    have open' := unclosed ⟨t, step⟩ (List.mem_append_right _ List.mem_cons_self)
    have stepped := stepped_run (life.script script) step
    generalize step.run t = x at stepped
    cases stepped with
    | idle kept connected | missed kept connected => exact connected.trans before
    | reached kept connected => exact connected
    | closed kept connected gates detached closes => cases open'.symm.trans closes
  | aside _ connected gates script ih => exact connected.trans (ih unclosed)

/-- A gate without a client gets one only by a step of its own. -/
theorem detached (life : Life s events t) (script : s.script = []) {name : String}
    (detached : s.Detached name) (unopened : ∀ e ∈ events, e.succeeded = true → e.step.name ≠ name) :
    t.Detached name := by
  induction life with
  | start => exact detached
  | @step past t life step ih =>
    have before := ih fun e member => unopened e (List.mem_append_left _ member)
    have own := unopened ⟨t, step⟩ (List.mem_append_right _ List.mem_cons_self)
    exact (stepped_run (life.script script) step).detached own before
  | aside _ connected gates script ih =>
    rw [Detached, gates]
    exact ih unopened

/-- A request is a life of what its callback does: a scan as much as a call. -/
theorem request (script : s.script = []) (seeds : List Host) (gate : Gate) (request : GateRequest Session)
    (called : ∀ row u, u.script = [] → ∃ events, Life u events ((request.callback row).run u).2) :
    ∃ events, Life s events ((request.run (surroundings seeds) gate).run s).2 := by
  by_cases issued : gate.attached = true ∧ request.passes = true
  · obtain ⟨attached, passes⟩ := issued
    rw [← GateRequest.isSome_command?] at passes
    obtain ⟨command, gives⟩ := Option.isSome_iff_exists.1 passes
    obtain ⟨before, after, run⟩ := run_of_attached script seeds attached gives
    obtain ⟨cluster, lines, rows, entered, visits, -⟩ := obey_books (Gate.handler request.callback) command
      { s with lines := before, commands := s.commands ++ [command] }
    have connected : cluster.connected = s.cluster.connected := congrArg Cluster.Books.connected entered
    have opened : Life s [] { s with cluster, lines, commands := s.commands ++ [command] } :=
      .aside .start connected rfl rfl
    have handled (row : ScanRow) (u : Session) :
        (u.script = [] ∧ ∃ events, Life s events u) →
          (visitor (Gate.handler request.callback) row u).2.script = [] ∧
            ∃ events, Life s events (visitor (Gate.handler request.callback) row u).2 := by
      rintro ⟨script, past, life⟩
      rw [visitor_snd, Gate.handler_snd]
      obtain ⟨events, later⟩ := called row u script
      exact ⟨later.script script, past ++ events, life.trans later⟩
    have started : ({ s with cluster, lines, commands := s.commands ++ [command] } : Session).script = [] ∧
        ∃ events, Life s events { s with cluster, lines, commands := s.commands ++ [command] } :=
      ⟨script, [], opened⟩
    obtain ⟨-, events, life⟩ := (visitor _).visits_keeps handled rows started
    rw [run]
    dsimp only
    rw [visits]
    exact ⟨events, .aside life rfl rfl rfl⟩
  · obtain ⟨lines, run⟩ := run_of_idle (s := s) seeds issued
    rw [run]
    exact ⟨[], .aside .start rfl rfl rfl⟩

end Life

/-! ## The laws -/

/-- A gate that is not connected answers so to every request that passes its checks, and changes no
record. -/
theorem run_of_disconnected {s : Session} (script : s.script = []) {g : SeededGate}
    (disconnected : isConnected s g = false) {request : GateRequest Session} (passes : request.passes = true) :
    ((request.run (surroundings g.seeds) g.gate).run s).1 = some (request.failed Gate.notConnected) ∧
      ((request.run (surroundings g.seeds) g.gate).run s).2.cluster.nodes = s.cluster.nodes := by
  cases attached : g.gate.attached with
  | false =>
    have idle : ¬(g.gate.attached = true ∧ request.passes = true) := by
      rw [attached]
      exact fun issued => Bool.false_ne_true issued.1
    obtain ⟨lines, run⟩ := run_of_idle (s := s) g.seeds idle
    rw [run, GateRequest.unissued_of_passes passes]
    exact ⟨rfl, rfl⟩
  | true =>
    have closed : s.cluster.connected = false := by
      have unlinked : (g.gate.attached && s.cluster.connected) = false := disconnected
      rwa [attached, Bool.true_and] at unlinked
    rw [← GateRequest.isSome_command?] at passes
    obtain ⟨command, gives⟩ := Option.isSome_iff_exists.1 passes
    have refused := congrArg Prod.fst (Cluster.accept_of_closed closed command.policy)
    obtain ⟨lines, run⟩ := run_of_refused script g.seeds attached gives refused
    rw [run]
    exact ⟨rfl, (s.cluster.accept_keeps command.policy).1⟩

/-- The laws of the connection that the gates of a session share. -/
structure Lifecycle (s : Session) : Prop where
  /-- A gate that is not connected fails every request, and changes no record. -/
  unavailable : ∀ (g : SeededGate) (request : GateRequest Session), isConnected s g = false →
    request.passes = true →
      ((request.run (surroundings g.seeds) g.gate).run s).1 = some (request.failed Gate.notConnected) ∧
      (∀ r ∈ (request.failed Gate.notConnected).places, r.code = .serverNotAvailable) ∧
      ((request.run (surroundings g.seeds) g.gate).run s).2.cluster.nodes = s.cluster.nodes
  /-- A host is listed once; the gate is connected after that if it was, or if it lists a seed. -/
  addHost : ∀ (name : String) (host : Host) (g : SeededGate), s.gates.get? name = some g →
    ∃ told gate t, Session.addHost name host s = (some told, t) ∧
      t.gates.get? name = some ⟨g.seeds, gate⟩ ∧
      gate.hosts = (if host ∈ g.gate.hosts then g.gate.hosts else g.gate.hosts ++ [host]) ∧
      (told = true ↔ isConnected s g = true ∨ ∃ listed ∈ gate.hosts, listed ∈ g.seeds) ∧
      isConnected t ⟨g.seeds, gate⟩ = told
  /-- When a gate that held a client was closed, no gate is connected until a step succeeds. -/
  closed : ∀ (name : String) (g : SeededGate), s.gates.get? name = some g → g.gate.attached = true →
    ∀ events t, Life (closeGate name s).2 events t → (∀ e ∈ events, e.succeeded = false) →
      ∀ g', isConnected t g' = false
  /-- After a step that succeeds the gates that hold a client are connected, until one of them is closed. -/
  reopened : ∀ past e later t, Life s (past ++ e :: later) t → e.succeeded = true →
    (∀ e' ∈ later, e'.closes = false) → ∀ g, isConnected t g = g.gate.attached
  /-- A gate that was closed is not connected until a step of its own succeeds. -/
  shut : ∀ name, (s.gates.get? name).isSome = true → ∀ events t, Life (closeGate name s).2 events t →
    (∀ e ∈ events, e.succeeded = true → e.step.name ≠ name) →
      ∃ g, t.gates.get? name = some g ∧ isConnected t g = false
  /-- A step changes no gate but its own, and no record unless it is a data call. -/
  frame : ∀ step : GateStep, (step.isLink = true → (step.run s).2.cluster.nodes = s.cluster.nodes) ∧
    ∀ other, other ≠ step.name → (step.run s).2.gates.get? other = s.gates.get? other
  /-- A request, be it a scan, is no other life than that of its callback. -/
  requests : ∀ (seeds : List Host) (gate : Gate) (request : GateRequest Session),
    (∀ row u, u.script = [] → ∃ events, Life u events ((request.callback row).run u).2) →
      ∃ events, Life s events ((request.run (surroundings seeds) gate).run s).2

theorem isConnected_of_closed {s : Session} (closed : s.cluster.connected = false) (g : SeededGate) :
    isConnected s g = false := by
  have linked : isConnected s g = (g.gate.attached && s.cluster.connected) := rfl
  rw [linked, closed, Bool.and_false]

/-- What is closed keeps no client, and no connection if it had one. -/
theorem closeGate_left {s : Session} {name : String} {g : SeededGate} (found : s.gates.get? name = some g) :
    (closeGate name s).2.script = s.script ∧ (closeGate name s).2.Detached name ∧
      (g.gate.attached = true → (closeGate name s).2.cluster.connected = false) := by
  obtain ⟨lines, closed⟩ := closeGate_eq found
  rw [closed]
  refine ⟨rfl, ⟨⟨g.seeds, { g.gate with attached := false }⟩, ?_, rfl⟩, fun attached => ?_⟩
  · rw [OrderedMap.get?_insert, if_pos rfl]
  · rw [attached]
    rfl

/-- **The connection lives by its laws**, in every session without a script. -/
theorem lifecycle {s : Session} (script : s.script = []) : Lifecycle s where
  unavailable g request disconnected passes := by
    obtain ⟨answer, nodes⟩ := run_of_disconnected script disconnected passes
    exact ⟨answer, request.code_of_failed Gate.notConnected, nodes⟩
  addHost name host g found := by
    obtain ⟨told, lines, seeded, added⟩ := addHost_eq found host
    refine ⟨told, { g.gate.listing host with attached := told }, _, added, ?_, ?_, ?_, ?_⟩
    · rw [OrderedMap.get?_insert, if_pos rfl]
    · have hosts := g.gate.hosts_listing host
      simp only [List.contains_iff_mem] at hosts
      exact hosts
    · rw [seeded, Bool.or_eq_true, List.any_eq_true]
      simp only [List.contains_iff_mem]
    · cases told <;> rfl
  closed name g found attached events t life fails := by
    obtain ⟨kept, -, closed⟩ := closeGate_left found
    exact isConnected_of_closed (life.closed (kept.trans script) (closed attached) fails)
  reopened past e later t life succeeded unclosed g := by
    obtain ⟨before, after⟩ := life.split rfl
    have stepped := stepped_run (before.script script) e.step
    have again : e.after.script = [] ∧ e.after.cluster.connected = true := by
      rw [GateEvent.succeeded] at succeeded
      rw [GateEvent.after]
      generalize e.step.run e.before = x at stepped succeeded ⊢
      cases stepped with
      | reached kept connected => exact ⟨kept.script.trans (before.script script), connected⟩
      | idle | missed | closed => cases succeeded
    have linked : isConnected t g = (g.gate.attached && t.cluster.connected) := rfl
    rw [linked, after.connected again.1 again.2 unclosed, Bool.and_true]
  shut name some events t life unopened := by
    obtain ⟨held, found⟩ := Option.isSome_iff_exists.1 some
    obtain ⟨kept, detached, -⟩ := closeGate_left found
    obtain ⟨g, found, detached⟩ := life.detached (kept.trans script) detached unopened
    have linked : isConnected t g = (g.gate.attached && t.cluster.connected) := rfl
    exact ⟨g, found, by rw [linked, detached, Bool.false_and]⟩
  frame step := by
    have stepped := stepped_run script step
    refine ⟨fun link => ?_, fun other another => stepped.others another⟩
    generalize step.run s = x at stepped ⊢
    cases stepped with
    | idle kept | reached kept | missed kept | closed kept => exact kept.nodes link
  requests seeds gate request called := Life.request script seeds gate request called

/-- The host of a small cluster. -/
def home : Host := ⟨"h", 1⟩

/-- A session in which two gates hold a client. -/
def pair : Session where
  cluster := default
  clock := 0
  seeds := [home]
  gates := .ofList [("a", ⟨[home], ⟨[home], true⟩⟩), ("b", ⟨[home], ⟨[home], true⟩⟩)]

/-- Closing one gate disconnects the other, which is connected again by itself, and alone. -/
theorem lifecycle_of_pair :
    let b : SeededGate := ⟨[home], ⟨[home], true⟩⟩
    let closed := (closeGate "a" pair).2
    let e : GateEvent := ⟨closed, .addHost "b" home⟩
    isConnected pair b = true ∧ isConnected closed b = false ∧ e.succeeded = true ∧
      isConnected e.after b = true ∧ ∃ a, e.after.gates.get? "a" = some a ∧ isConnected e.after a = false := by
  intro b closed e
  have script : closed.script = [] := rfl
  have succeeded : e.succeeded = true := by decide
  have life : Life closed [e] e.after := .step .start (.addHost "b" home)
  have own : ∀ e' ∈ [e], e'.succeeded = true → e'.step.name ≠ "a" := by
    intro e' member _
    rw [List.mem_singleton.1 member]
    decide
  refine ⟨rfl, ?_, succeeded, ?_, ?_⟩
  · exact (lifecycle (s := pair) rfl).closed "a" b rfl rfl [] closed .start (List.forall_mem_nil _) b
  · exact (lifecycle script).reopened [] e [] e.after life succeeded (List.forall_mem_nil _) b
  · exact (lifecycle (s := pair) rfl).shut "a" rfl [e] e.after life own

end Session

end RecordGate
