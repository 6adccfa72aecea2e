import RecordGate.Proofs.Gate.Request
import RecordGate.Proofs.Session.Obeyed
import RecordGate.Session.Gates

/-!
# What a request does in a session

While no reply is scripted, a request leaves what its command leaves, and a trace in the log
(`run_of_attached`); without a command, or at a gate that holds no client, it leaves no more than the trace
(`run_of_idle`). A call answers and changes the cluster as its command does, and as nothing else of the
session decides: `Session.outcome` is a function of the cluster and of the time (`answers_run`), and tells
whether the command was given (`ran_run`).
-/

namespace RecordGate
set_option autoImplicit false

theorem GateScan.isScan_command (scan : GateScan) : scan.command.isScan = true := by
  obtain ⟨target, ns, setName, options⟩ := scan
  cases target <;> rfl

/-- No call scans. -/
theorem GateCall.isScan_of_command? {call : GateCall} {command : Command}
    (gives : call.command? = some command) : command.isScan = false := by
  have kind := kind_of_command? gives
  cases command with
  | scanAll _ _ _ | scanNode _ _ _ _ => cases call <;> cases kind
  | _ => rfl

namespace Session

/-- Only what stands beside the store differs. -/
structure Beside (s t : Session) : Prop where
  cluster : t.cluster = s.cluster
  clock : t.clock = s.clock
  gates : t.gates = s.gates
  script : t.script = s.script

theorem Beside.steady {s t : Session} (beside : Beside s t) : Steady s t where
  nodes := congrArg _ beside.cluster
  spared := beside.cluster ▸ .refl _
  clock := beside.clock
  gates := beside.gates
  script := beside.script

/-- While no reply is scripted, a command is kept and served. -/
theorem run_command {α : Type} (command : Command) (scripted : ScriptedReply → Program Session (Reply α))
    (serve : Program Session (Reply α)) {s : Session} (script : s.script = []) :
    (Session.command command scripted serve).run s =
      serve.run { s with commands := s.commands ++ [command] } := by
  obtain ⟨cluster, clock, seeds, gates, log, lines, commands, rows, _⟩ := s
  cases script
  rfl

/-- While no reply is scripted, the client of a gate keeps a command and gives it to the cluster. -/
theorem client_obey (handle : RowHandler Session) (command : Command) {s : Session}
    (script : s.script = []) :
    (client.obey handle command).run s =
      (direct.obey handle command).run { s with commands := s.commands ++ [command] } := by
  cases command <;>
    (rw [RecordClient.obey, RecordClient.obey, Program.run_map, Program.run_map]
     exact congrArg (Prod.map (Option.map _) id) (run_command _ _ _ script))

section Issue

variable {s : Session}

/-- Notes are lines of the log. -/
theorem lines_of_noted {seeds : List Host} {t : Session} (noted : (surroundings seeds).Noted s t) :
    ∃ lines, t = { s with lines } := by
  refine noted.keeps (fun s t => ∃ lines, t = { s with lines }) ?_ ?_ ?_
  · exact fun s => ⟨s.lines, rfl⟩
  · rintro s _ _ ⟨_, rfl⟩ ⟨lines, rfl⟩
    exact ⟨lines, rfl⟩
  · exact fun e s => ⟨_, rfl⟩

/-- While no reply is scripted, the command of a request is kept, and the cluster is given it. -/
theorem obey_of_issue (script : s.script = []) {seeds : List Host} {gate : Gate}
    {request : GateRequest Session} {x : Option CommandReply × Session}
    (issued : request.issue (surroundings seeds) gate s = some x) :
    ∃ command lines, gate.attached = true ∧ request.command? = some command ∧
      (direct.obey (Gate.handler request.callback) command).run
        { s with lines, commands := s.commands ++ [command] } = x := by
  rw [GateRequest.issue] at issued
  split at issued
  · next attached =>
    obtain ⟨command, gives, run⟩ := Option.map_eq_some_iff.1 issued
    have noted : (surroundings seeds).Noted s ((surroundings seeds).noted request.opening s) :=
      ⟨request.opening, rfl⟩
    obtain ⟨lines, noted⟩ := lines_of_noted noted
    rw [noted] at run
    have obeyed := client_obey (s := { s with lines }) (Gate.handler request.callback) command script
    exact ⟨command, lines, attached, gives, obeyed.symm.trans run⟩
  · cases issued

variable {gate : Gate} {request : GateRequest Session}

/-- A request for which a command is issued leaves what the command leaves, but for the log. -/
theorem run_of_attached (script : s.script = []) (seeds : List Host) (attached : gate.attached = true)
    {command : Command} (gives : request.command? = some command) :
    ∃ before after,
      let obeyed := (direct.obey (Gate.handler request.callback) command).run
        { s with lines := before, commands := s.commands ++ [command] }
      (request.run (surroundings seeds) gate).run s =
        (obeyed.1.map request.answer, { obeyed.2 with lines := after }) := by
  have conducted := GateRequest.conducted_run (surroundings seeds) gate request s
  generalize (request.run (surroundings seeds) gate).run s = ran at conducted ⊢
  have same {command' : Command} (gives' : request.command? = some command') : command' = command :=
    Option.some.inj (gives'.symm.trans gives)
  cases conducted with
  | unissued none noted =>
    rw [GateRequest.issue_of_attached attached gives] at none
    cases none
  | @crashed t issued =>
    obtain ⟨command', before, -, gives', run⟩ := obey_of_issue script issued
    obtain rfl := same gives'
    refine ⟨before, t.lines, ?_⟩
    dsimp only
    rw [run]
    rfl
  | replied issued noted =>
    obtain ⟨command', before, -, gives', run⟩ := obey_of_issue script issued
    obtain rfl := same gives'
    obtain ⟨after, rfl⟩ := lines_of_noted noted
    refine ⟨before, after, ?_⟩
    dsimp only
    rw [run]
    rfl

/-- A request for which no command is issued leaves a note at most. -/
theorem run_of_idle (seeds : List Host) (idle : ¬(gate.attached = true ∧ request.passes = true)) :
    ∃ lines, (request.run (surroundings seeds) gate).run s = (some request.unissued, { s with lines }) := by
  have none : request.issue (surroundings seeds) gate s = none := by
    rw [GateRequest.issue]
    split
    · next attached =>
      rw [← GateRequest.isSome_command?] at idle
      rw [Option.not_isSome_iff_eq_none.1 fun gives => idle ⟨attached, gives⟩]
      rfl
    · rfl
  have conducted := GateRequest.conducted_run (surroundings seeds) gate request s
  generalize (request.run (surroundings seeds) gate).run s = ran at conducted ⊢
  cases conducted with
  | unissued _ noted =>
    obtain ⟨lines, rfl⟩ := lines_of_noted noted
    exact ⟨lines, rfl⟩
  | crashed issued => cases none.symm.trans issued
  | replied issued noted => cases none.symm.trans issued

end Issue

/-! ## What a call comes to -/

/-- What a command comes to: its reply, unless it crashes for want of the time, and the cluster after it. -/
def served (s : Session) (command : Command) : Option CommandReply × Cluster :=
  if s.now?.isNone && (s.cluster.accept command.policy).1.toBool && s.cluster.asksTime command then
    (none, (s.cluster.accept command.policy).2)
  else (s.cluster.answer (s.now?.getD 0) command).map some id

theorem obey_eq_served (handle : RowHandler Session) {command : Command}
    (noScan : command.isScan = false) (s : Session) :
    (direct.obey handle command).run s =
      ((s.served command).1, { s with cluster := (s.served command).2 }) := by
  rw [run_obey handle noScan, served]
  split <;> rfl

/-- What a call of a gate comes to: its answer, unless it crashes, and the cluster after it. -/
def outcome (gate : Gate) (s : Session) (call : GateCall) : Option GateAnswer × Cluster :=
  match call.command? with
  | none => (some call.idle, s.cluster)
  | some command =>
    if gate.attached then (s.served command).map (Option.map call.answer) id
    else (some (call.failed Gate.notConnected), s.cluster)

/-- `t` is at the time of `s`, with its gates and its script, over the cluster `c`. -/
structure Over (s : Session) (c : Cluster) (t : Session) : Prop where
  cluster : t.cluster = c
  clock : t.clock = s.clock
  gates : t.gates = s.gates
  script : t.script = s.script

/-- A run of a call that answers, and leaves the cluster, as the call comes to. -/
structure Answers (gate : Gate) (s : Session) (call : GateCall) (x : Option GateAnswer × Session) :
    Prop where
  answer : x.1 = (outcome gate s call).1
  atop : Over s (outcome gate s call).2 x.2

section Answers

variable {gate : Gate} {s : Session} {call : GateCall} (seeds : List Host)

/-- A call for which no command is issued leaves the cluster alone. -/
theorem outcome_of_idle
    (idle : ¬(gate.attached = true ∧ (GateRequest.call call : GateRequest Session).passes = true)) :
    outcome gate s call = (some (GateRequest.call call : GateRequest Session).unissued, s.cluster) := by
  rw [← GateRequest.isSome_command?] at idle
  rw [outcome, GateRequest.unissued]
  cases gives : call.command? with
  | none => rfl
  | some command =>
    cases attached : gate.attached with
    | false => rfl
    | true =>
      have issued : (GateRequest.call call : GateRequest Session).command?.isSome = true :=
        congrArg Option.isSome gives
      exact (idle ⟨attached, issued⟩).elim

/-- **A call comes to its outcome.** -/
theorem answers_run (gate : Gate) (call : GateCall) (script : s.script = []) :
    Answers gate s call ((gate.run (surroundings seeds) call).run s) := by
  have made : (gate.run (surroundings seeds) call).run s =
      ((GateRequest.call call).run (surroundings seeds) gate).run s := rfl
  rw [made]
  by_cases issued : gate.attached = true ∧ (GateRequest.call call : GateRequest Session).passes = true
  · obtain ⟨attached, passes⟩ := issued
    rw [← GateRequest.isSome_command?] at passes
    obtain ⟨command, gives⟩ := Option.isSome_iff_exists.1 passes
    have same : outcome gate s call = (s.served command).map (Option.map call.answer) id := by
      rw [outcome, show call.command? = some command from gives]
      exact if_pos attached
    obtain ⟨before, after, run⟩ := run_of_attached script seeds attached gives
    dsimp only at run
    rw [obey_eq_served _ (GateCall.isScan_of_command? gives)] at run
    rw [run]
    exact ⟨by rw [same]; rfl, by rw [same]; exact ⟨rfl, rfl, rfl, rfl⟩⟩
  · have same := outcome_of_idle (s := s) issued
    obtain ⟨lines, run⟩ := run_of_idle (s := s) seeds issued
    rw [run]
    exact ⟨by rw [same], by rw [same]; exact ⟨rfl, rfl, rfl, rfl⟩⟩

end Answers

/-! ## While the clock tells the time -/

theorem served_of_told {s : Session} {now : UInt32} (told : s.now? = some now) (command : Command) :
    s.served command = (s.cluster.answer now command).map some id := by
  rw [served, told]
  rfl

/-- A call of an attached gate answers as the cluster does. -/
theorem run_of_told {s : Session} {now : UInt32} (told : s.now? = some now) (script : s.script = [])
    {gate : Gate} (attached : gate.attached = true) (seeds : List Host) {call : GateCall} {command : Command}
    (gives : call.command? = some command) :
    ∃ t, (gate.run (surroundings seeds) call).run s =
        (some (call.answer (s.cluster.answer now command).1), t) ∧
      Over s (s.cluster.answer now command).2 t := by
  have answers := answers_run seeds gate call script
  obtain ⟨answer, atop⟩ := answers
  rw [outcome, gives] at answer atop
  simp only [attached, if_true, served_of_told told] at answer atop
  exact ⟨_, Prod.ext answer rfl, atop⟩

/-! ## Whether the command was given -/

/-- What a call of a gate does. -/
inductive Ran (gate : Gate) (s : Session) (call : GateCall) : Option GateAnswer × Session → Prop
  /-- No command was given. -/
  | idle {answer : GateAnswer} {t : Session} (idle : call.command? = none ∨ gate.attached = false)
      (beside : Beside s t) (failed : answer.isOk = false) :
      Ran gate s call (some answer, t)
  | crashed {t : Session} (timeless : s.now? = none) (steady : Steady s t) :
      Ran gate s call (none, t)
  | replied {command : Command} {reply : CommandReply} {answer : GateAnswer} {t : Session}
      (gives : call.command? = some command) (attached : gate.attached = true)
      (answered : s.cluster.answer (s.now?.getD 0) command = (reply, t.cluster))
      (clock : t.clock = s.clock) (gates : t.gates = s.gates) (script : t.script = s.script)
      (result : ∀ written, reply = .written written →
        ∃ f : Record → CallResult, (∀ r, (f r).isOk = true) ∧ answer = .result (.ofReply f written)) :
      Ran gate s call (some answer, t)

section Ran

variable {gate : Gate} {s : Session} {call : GateCall}

theorem isOk_idle (call : GateCall) : call.idle.isOk = false := by
  rw [GateCall.idle]
  split <;> rfl

theorem isOk_failed (call : GateCall) : (call.failed Gate.notConnected).isOk = false := by
  rw [GateCall.failed]
  split <;> rfl

theorem isOk_ofRecord (r : Record) : (CallResult.ofRecord r).isOk = true := by
  rw [CallResult.ofRecord]
  split <;> rfl

/-- A refusal is no success. -/
theorem isOk_ofError (refusal : Refusal) : (CallResult.ofError refusal.toError).isOk = false := by
  cases refusal <;> rfl

/-- A write that succeeds makes a call that succeeds. -/
theorem isOk_ofWritten (call : GateCall) (r : Record) : (call.ofWritten r).isOk = true := by
  unfold GateCall.ofWritten
  split
  · rfl
  · split
    · rfl
    · exact isOk_ofRecord r
  · exact isOk_ofRecord r

theorem Over.steady {c : Cluster} {t : Session} (atop : Over s c t) (nodes : c.nodes = s.cluster.nodes)
    (spared : s.cluster.Spared c) : Steady s t where
  nodes := atop.cluster ▸ nodes
  spared := atop.cluster ▸ spared
  clock := atop.clock
  gates := atop.gates
  script := atop.script

theorem Over.beside {t : Session} (atop : Over s s.cluster t) : Beside s t :=
  ⟨atop.cluster, atop.clock, atop.gates, atop.script⟩

theorem Answers.ran {x : Option GateAnswer × Session} (answers : Answers gate s call x) :
    Ran gate s call x := by
  obtain ⟨answer?, t⟩ := x
  obtain ⟨answer, atop⟩ := answers
  rw [outcome] at answer atop
  cases gives : call.command? with
  | none =>
    rw [gives] at answer atop
    cases answer
    exact .idle (.inl gives) atop.beside (isOk_idle call)
  | some command =>
    rw [gives] at answer atop
    cases attached : gate.attached with
    | false =>
      simp only [attached, Bool.false_eq_true, if_false] at answer atop
      cases answer
      exact .idle (.inr attached) atop.beside (isOk_failed call)
    | true =>
      simp only [attached, if_true, served] at answer atop
      split at answer
      · next asked =>
        rw [if_pos asked] at atop
        simp only [Bool.and_eq_true, Option.isNone_iff_eq_none] at asked
        obtain ⟨nodes, spared⟩ := s.cluster.accept_keeps command.policy
        cases answer
        exact .crashed asked.1.1 (atop.steady nodes spared)
      · next told =>
        rw [if_neg told] at atop
        cases answer
        refine .replied gives attached (Prod.ext rfl atop.cluster.symm) atop.clock atop.gates atop.script ?_
        intro written same
        exact ⟨call.ofWritten, isOk_ofWritten call, congrArg call.answer same⟩

/-- A call that writes and fails changes no record. -/
theorem Ran.unchanged {x : Option GateAnswer × Session} (ran : Ran gate s call x)
    (writes : ∀ command, call.command? = some command → command.isWrite = true)
    (failed : x.1.any (·.isOk) = false) : x.2.cluster.nodes = s.cluster.nodes := by
  cases ran with
  | idle _ beside _ => rw [beside.cluster]
  | crashed _ steady => exact steady.nodes
  | @replied command reply answer t gives attached answered clock gates script result =>
    have effect := (s.cluster.answer_effect (s.now?.getD 0) command).1
    rw [answered] at effect
    generalize t.cluster = d at effect
    cases effect with
    | kept nodes idle => exact nodes
    | erased admits nodes => cases writes _ gives
    | wrote next admits writes written nodes =>
      obtain ⟨f, isOk, made⟩ := result _ rfl
      have ok : answer.isOk = true := made ▸ isOk _
      cases ok.symm.trans failed

/-- **A call does what its command does.** -/
theorem ran_run (seeds : List Host) (gate : Gate) (call : GateCall) (script : s.script = []) :
    Ran gate s call ((gate.run (surroundings seeds) call).run s) :=
  (answers_run seeds gate call script).ran

end Ran

end Session

end RecordGate
