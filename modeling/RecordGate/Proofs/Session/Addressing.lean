import RecordGate.Proofs.Gate.Addressing
import RecordGate.Proofs.Session.History
import RecordGate.Proofs.Session.ScanExactness

/-!
# Digests stand for keys

Two rows of calls start from one session, and the second has digests in place of some of the first's keys.
Every answer is the same, and the stores differ in nothing but set names (`digests_stand_for_keys`): a call
reads the code of a failure and not its text (`answer_unworded`), and the rest of what it does is what its
command does to a cluster without set names.
-/

namespace RecordGate
set_option autoImplicit false

/-! ## Calls in turn -/

/-- A call of the gate of a name, at a second. -/
structure Turn where
  seconds : Int
  gate : String
  call : GateCall

namespace Turn

def run (turn : Turn) (s : Session) : Option (Option GateAnswer) × Session :=
  (Session.call turn.gate turn.call).run { s with clock := turn.seconds }

/-- The answers to calls one after another. After a crash, of which there is no answer, the next is made. -/
def runAll : List Turn → Session → List (Option (Option GateAnswer)) × Session
  | [], s => ([], s)
  | turn :: rest, s => (runAll rest (turn.run s).2).map ((turn.run s).1 :: ·) id

/-- The gate and the second are the same, and digests may stand in for keys of the call. -/
structure Readdressed (turn turn' : Turn) : Prop where
  seconds : turn'.seconds = turn.seconds
  gate : turn'.gate = turn.gate
  call : turn.call.Readdressed turn'.call

end Turn

/-! ## Answers without wording -/

theorem CallResult.ofReply_unworded {α : Type} (f : α → CallResult) (reply : Reply α) :
    ofReply f (reply.mapError ClientError.unworded) = ofReply f reply := by
  cases reply <;> rfl

theorem Batch.settled_unworded {α : Type} (n : Nat) (value : α → CallResult) (reply : Reply (List α)) :
    settled n value (reply.mapError ClientError.unworded) = settled n value reply := by
  cases reply <;> rfl

theorem GateCall.answer_unworded (call : GateCall) (reply : CommandReply) :
    call.answer reply.unworded = call.answer reply := by
  cases reply with
  | record reply | flag reply | written reply | summary reply =>
    simp only [CommandReply.unworded, answer, CallResult.ofReply_unworded]
  | flags reply => simp only [CommandReply.unworded, answer, Batch.settled_unworded]
  | records reply =>
    rw [CommandReply.unworded, answer, answer, Batch.settled_unworded]
    cases reply with
    | error e => rfl
    | ok replies =>
      simp only [Batch.settled, Except.map, List.length_map, List.map_map, Function.comp_def,
        CallResult.ofReply_unworded]

namespace Session

/-! ## One call -/

/-- Sessions without scripts at one time and with the same gates, over stores that differ in set names
alone. -/
structure Namesakes (s t : Session) : Prop where
  cluster : t.cluster.setless = s.cluster.setless
  clock : t.clock = s.clock
  gates : t.gates = s.gates
  script : s.script = [] ∧ t.script = []

/-- A command that differs in set names is served the same, but for set names and wording. -/
theorem served_setless (s : Session) (command : Command) :
    ({ s with cluster := s.cluster.setless }.served command.setless).map
        (Option.map CommandReply.unworded) id =
      (s.served command).map (Option.map CommandReply.unworded) Cluster.setless := by
  have told : ({ s with cluster := s.cluster.setless } : Session).now? = s.now? := rfl
  rw [served, served, told]
  dsimp only
  rw [Command.policy_setless, Cluster.accept_setless, Cluster.asksTime_setless, Prod.map_fst, id_eq]
  split
  · rfl
  · obtain ⟨reply, cluster⟩ := s.cluster.answer_setless (s.now?.getD 0) command
    exact Prod.ext (congrArg some reply) cluster

section Namesakes

variable {s t : Session} (namesakes : Namesakes s t)
include namesakes

theorem Namesakes.served {command command' : Command} (same : command'.setless = command.setless) :
    (t.served command').map (Option.map CommandReply.unworded) Cluster.setless =
      (s.served command).map (Option.map CommandReply.unworded) Cluster.setless := by
  have bare : ({ t with cluster := t.cluster.setless } : Session).served command'.setless =
      ({ s with cluster := s.cluster.setless } : Session).served command.setless := by
    have told : ({ t with cluster := s.cluster.setless } : Session).now? =
        ({ s with cluster := s.cluster.setless } : Session).now? := congrArg timeOf? namesakes.clock
    rw [namesakes.cluster, same, Session.served, Session.served, told]
  rw [← served_setless, ← served_setless, bare]

/-- Calls alike come to the same answer. -/
theorem Namesakes.outcome {call call' : GateCall} (alike : call.Alike call') (gate : Gate) :
    (outcome gate t call').map id Cluster.setless = (outcome gate s call).map id Cluster.setless := by
  have gives := alike.command
  rw [Session.outcome, Session.outcome]
  cases here : call.command? with
  | none =>
    rw [here] at gives
    rw [Option.map_eq_none_iff.1 gives]
    exact Prod.ext (congrArg some alike.idle) namesakes.cluster
  | some command =>
    rw [here] at gives
    obtain ⟨command', there, same⟩ := Option.map_eq_some_iff.1 gives
    rw [there]
    dsimp only
    cases gate.attached with
    | false => exact Prod.ext (congrArg some (alike.failed _)) namesakes.cluster
    | true =>
      -- The replies agree without their wording only, which is all of them that a call reads.
      have reads (call : GateCall) : call.answer = call.answer ∘ CommandReply.unworded := by
        funext reply
        exact (call.answer_unworded reply).symm
      have same_answer : call'.answer = call.answer := funext alike.answer
      have served := congrArg (Prod.map (Option.map call.answer) id) (namesakes.served same)
      rw [Prod.map_map, Prod.map_map, Option.map_comp_map, ← reads, Function.id_comp] at served
      rw [if_pos rfl, if_pos rfl, same_answer, Prod.map_map, Prod.map_map]
      exact served

/-- Calls alike of a gate are answered the same and leave namesakes. -/
theorem Namesakes.call {call call' : GateCall} (alike : call.Alike call') (name : String) :
    ((Session.call name call').run t).1 = ((Session.call name call).run s).1 ∧
      Namesakes ((Session.call name call).run s).2 ((Session.call name call').run t).2 := by
  rw [run_call, run_call, namesakes.gates]
  cases s.gates.get? name with
  | none => exact ⟨rfl, namesakes⟩
  | some g =>
    dsimp only
    rw [Program.run_map, Program.run_map]
    obtain ⟨answer, atop⟩ := answers_run g.seeds g.gate call namesakes.script.1
    obtain ⟨answer', atop'⟩ := answers_run g.seeds g.gate call' namesakes.script.2
    obtain ⟨answered, left⟩ := Prod.mk.inj (namesakes.outcome alike g.gate)
    refine ⟨congrArg (Option.map some) ?_, ?_, ?_, ?_, ?_, ?_⟩
    · rw [answer, answer']
      exact answered
    · rw [atop.cluster, atop'.cluster]
      exact left
    · rw [atop.clock, atop'.clock, namesakes.clock]
    · rw [atop.gates, atop'.gates, namesakes.gates]
    · exact atop.script.trans namesakes.script.1
    · exact atop'.script.trans namesakes.script.2

end Namesakes

theorem run_of_readdressed {s t : Session} (namesakes : Namesakes s t) {turn turn' : Turn}
    (readdressed : turn.Readdressed turn') :
    (turn'.run t).1 = (turn.run s).1 ∧ Namesakes (turn.run s).2 (turn'.run t).2 := by
  have timed : Namesakes { s with clock := turn.seconds } { t with clock := turn.seconds } :=
    ⟨namesakes.cluster, rfl, namesakes.gates, namesakes.script⟩
  rw [Turn.run, Turn.run, readdressed.seconds, readdressed.gate]
  exact timed.call (GateCall.alike_of_readdressed readdressed.call) turn.gate

theorem runAll_of_readdressed {s t : Session} (namesakes : Namesakes s t) {turns turns' : List Turn}
    (readdressed : List.Forall₂ Turn.Readdressed turns turns') :
    (Turn.runAll turns' t).1 = (Turn.runAll turns s).1 ∧
      Namesakes (Turn.runAll turns s).2 (Turn.runAll turns' t).2 := by
  -- The induction is on the calls in pairs: each pair hands namesakes on to the next.
  induction readdressed generalizing s t with
  | nil => exact ⟨rfl, namesakes⟩
  | cons first _ ih =>
    obtain ⟨answer, after⟩ := run_of_readdressed namesakes first
    obtain ⟨answers, last⟩ := ih after
    exact ⟨congrArg₂ List.cons answer answers, last⟩

/-! ## Scans of every set -/

theorem Namesakes.scanOutcome {s t : Session} (namesakes : Namesakes s t) (gate : Gate) {command : Command}
    (everySet : command.everySet = true) :
    (scanOutcome gate t command).map id (List.map ScanRow.setless) =
      (scanOutcome gate s command).map id (List.map ScanRow.setless) := by
  have told : t.now? = s.now? := congrArg timeOf? namesakes.clock
  rw [Session.scanOutcome, Session.scanOutcome, told]
  cases gate.attached with
  | false => rfl
  | true =>
    have here := s.cluster.attempted_setless s.now? everySet
    have there := t.cluster.attempted_setless s.now? everySet
    rw [namesakes.cluster, here] at there
    have ended := congrArg Prod.fst there
    rw [Prod.map_fst, Prod.map_fst] at ended
    let read (ended : Except ScanStop ScanSummary) : Option CallResult :=
      (ScanStop.reply? ended).map (.ofReply .ofSummary)
    exact (congrArg (Prod.map read id) ended).symm

theorem everySet_command (target : ScanTarget) (ns : String) (options : Option ScanOptions) :
    (GateScan.command ⟨target, ns, "", options⟩).everySet = true := by
  cases target <;> rfl

/-- Scans of every set hand out the same rows, but for set names. -/
theorem Namesakes.observeScan {s t : Session} (namesakes : Namesakes s t) (seeds : List Host) (gate : Gate)
    {callback : ScanRow → Program Session Unit} (bystander : (Gate.handler callback).Bystander)
    (target : ScanTarget) (ns : String) (options : Option ScanOptions) :
    (observeScan seeds gate ⟨target, ns, "", options⟩ callback t).map id (Multiset.map ScanRow.setless) =
      (observeScan seeds gate ⟨target, ns, "", options⟩ callback s).map id (Multiset.map ScanRow.setless) := by
  have outcome := namesakes.scanOutcome gate (everySet_command target ns options)
  rw [observeScan_eq_outcome namesakes.script.1 seeds gate bystander,
    observeScan_eq_outcome namesakes.script.2 seeds gate bystander]
  exact congrArg (Prod.map id Multiset.ofList) outcome

/-- **Digests stand for keys.** With digests in place of some of the keys all calls answer the same and leave
the same records, but for set names; a scan of every set then delivers the same, too. -/
theorem digests_stand_for_keys {s : Session} (script : s.script = []) {turns turns' : List Turn}
    (readdressed : List.Forall₂ Turn.Readdressed turns turns') :
    (Turn.runAll turns' s).1 = (Turn.runAll turns s).1 ∧
      (∀ place id, ((Turn.runAll turns' s).2.cluster.storedAt place id).map StoredRecord.setless =
        ((Turn.runAll turns s).2.cluster.storedAt place id).map StoredRecord.setless) ∧
      ∀ (seconds : Int) (seeds : List Host) (gate : Gate) (target : ScanTarget) (ns : String)
        (options : Option ScanOptions) (callback : ScanRow → Program Session Unit),
        (Gate.handler callback).Bystander →
        let seen turns := observeScan seeds gate ⟨target, ns, "", options⟩ callback
          { (Turn.runAll turns s).2 with clock := seconds }
        (seen turns').1 = (seen turns).1 ∧
          (seen turns').2.map ScanRow.setless = (seen turns).2.map ScanRow.setless := by
  obtain ⟨answers, namesakes⟩ := runAll_of_readdressed ⟨rfl, rfl, rfl, script, script⟩ readdressed
  refine ⟨answers, ?_, ?_⟩
  · intro place id
    rw [← Cluster.storedAt_setless, ← Cluster.storedAt_setless, namesakes.cluster]
  · intro seconds seeds gate target ns options callback bystander
    have later : Namesakes { (Turn.runAll turns s).2 with clock := seconds }
        { (Turn.runAll turns' s).2 with clock := seconds } :=
      ⟨namesakes.cluster, rfl, namesakes.gates, namesakes.script⟩
    exact Prod.mk.inj (later.observeScan seeds gate bystander target ns options)

/-- A session with a gate and an empty store. -/
def doorway : Session :=
  { opened 2 100 10 with gates := (∅ : OrderedMap _ _).insert "main" ⟨[], { hosts := [], attached := true }⟩ }

/-- A record is written under the first key, and then all three keys are read in a batch. -/
def errand (first second third : Key) : List Turn :=
  [⟨10, "main", .write .set first [⟨"n", .int 1⟩] none none⟩,
    ⟨12, "main", .batchGetKeys [first, second, third] none none⟩]

/-- Written by its digest a record has another set name, and nothing else about it is told apart. -/
theorem digests_stand_for_keys_of_errand :
    let key := smallKey 0
    let keyed := Turn.runAll (errand key key key) doorway
    let digested := Turn.runAll (errand key.setless key key.setless) doorway
    let seen (s : Session) := observeScan [] { hosts := [], attached := true } ⟨.cluster, "test", "", none⟩
      (fun _ => return ()) { s with clock := 20 }
    (keyed.2.cluster.find? key.id).map (·.setName) = some "s" ∧
      (digested.2.cluster.find? key.id).map (·.setName) = some "" ∧
      digested.1 = keyed.1 ∧
      (digested.2.cluster.storedAt 0 key.id).map StoredRecord.setless =
        (keyed.2.cluster.storedAt 0 key.id).map StoredRecord.setless ∧
      (seen keyed.2).2.card = 1 ∧
      (seen digested.2).2.map ScanRow.setless = (seen keyed.2).2.map ScanRow.setless := by
  intro key keyed digested seen
  have single (bins : List Bin) : (GateCall.write .set key bins none none).Readdressed
      (.write .set key.setless bins none none) :=
    @GateCall.Readdressed.keys _ [key.setless] (fun _ => nofun) (.cons .digest .nil)
  have batch : (GateCall.batchGetKeys [key, key, key] none none).Readdressed
      (.batchGetKeys [key.setless, key, key.setless] none none) :=
    .keys (fun _ => nofun) (.cons .digest (.cons .kept (.cons .digest .nil)))
  have readdressed : List.Forall₂ Turn.Readdressed (errand key key key)
      (errand key.setless key key.setless) :=
    .cons ⟨rfl, rfl, single _⟩ (.cons ⟨rfl, rfl, batch⟩ .nil)
  have bystander : (Gate.handler fun _ => (return () : Program Session Unit)).Bystander :=
    ⟨fun _ _ => rfl, fun _ _ => rfl, fun _ _ => rfl, fun _ _ => rfl⟩
  have script : doorway.script = [] := rfl
  obtain ⟨answers, stored, scans⟩ := digests_stand_for_keys script readdressed
  obtain ⟨-, rows⟩ := scans 20 [] { hosts := [], attached := true } .cluster "test" none _ bystander
  exact ⟨by decide +kernel, by decide +kernel, answers, stored 0 key.id, by decide +kernel, rows⟩

end Session

end RecordGate
