import RecordGate.Gate.Scan
import RecordGate.Proofs.Gate.Answer
import RecordGate.Proofs.Program

/-!
# Requests to a gate

A request is a call, or a scan with its callback. Whatever the client, a gate issues at most one command
for it, and answers as the request reads the reply; the rest of what it does is notes in the log
(`GateRequest.conducted_run`).
-/

namespace RecordGate
set_option autoImplicit false

/-! ## Notes -/

namespace Surroundings

variable {σ : Type} (env : Surroundings σ)

/-- The state after events were noted, in this order. -/
def noted (events : List LogEvent) (s : σ) : σ := events.foldl (fun s e => (env.note e s).2) s

/-- Between the states there are only notes. -/
def Noted (s t : σ) : Prop := ∃ events, t = env.noted events s

variable {env} {s t u : σ}

theorem Noted.refl (s : σ) : env.Noted s s := ⟨[], rfl⟩

theorem Noted.note (e : LogEvent) (s : σ) : env.Noted s (env.note e s).2 := ⟨[e], rfl⟩

theorem Noted.trans (first : env.Noted s t) (second : env.Noted t u) : env.Noted s u := by
  obtain ⟨past, rfl⟩ := first
  obtain ⟨later, rfl⟩ := second
  exact ⟨past ++ later, (List.foldl_append ..).symm⟩

/-- What notes do not change is the same between them. -/
theorem Noted.keeps (kept : σ → σ → Prop) (refl : ∀ s, kept s s)
    (trans : ∀ {s t u}, kept s t → kept t u → kept s u) (note : ∀ e s, kept s (env.note e s).2)
    (noted : env.Noted s t) : kept s t := by
  obtain ⟨events, rfl⟩ := noted
  induction events generalizing s with
  | nil => exact refl s
  | cons e rest ih => exact trans (note e s) ih

theorem noted_settle {α : Type} (f : α → CallResult) (reply : Reply α) (s : σ) :
    env.Noted s (Gate.settle env f reply s).2 := by
  cases reply with
  | error e => exact .note (.callFailed e) s
  | ok a => exact .refl s

theorem noted_settleScan (reply : Reply ScanSummary) (s : σ) :
    env.Noted s (Gate.settleScan env reply s).2 := by
  cases reply with
  | error e => exact .note (.callFailed e) s
  | ok summary => exact .note (.scanComplete summary) s

section Results

variable {α : Type} {each : α → StateM σ CallResult}

theorem noted_mapM (noted : ∀ a s, env.Noted s (each a s).2) (as : List α) (s : σ) :
    env.Noted s (as.mapM each s).2 := by
  induction as generalizing s with
  | nil => exact .refl s
  | cons a rest ih =>
    rw [List.mapM_cons]
    exact (noted a s).trans (ih (each a s).2)

theorem noted_results (noted : ∀ a s, env.Noted s (each a s).2) (n : Nat) (reply : Reply (List α)) (s : σ) :
    env.Noted s (Batch.results env n each reply s).2 := by
  have replicate (e : ClientError) : env.Noted s (Batch.replicate env e n s).2 :=
    (Noted.note (.batchFailed e n) s).trans (.note (.callFailed e) _)
  cases reply with
  | error e => exact replicate e
  | ok answers =>
    rw [Batch.results]
    split
    · exact noted_mapM noted answers s
    · exact replicate _

end Results

end Surroundings

/-! ## What is made of a reply -/

section Settle

variable {σ α : Type} (env : Surroundings σ)

theorem Gate.settle_fst (f : α → CallResult) (reply : Reply α) (s : σ) :
    (Gate.settle env f reply s).1 = .ofReply f reply := by
  cases reply <;> rfl

theorem Gate.settleScan_fst (reply : Reply ScanSummary) (s : σ) :
    (Gate.settleScan env reply s).1 = .ofReply .ofSummary reply := by
  cases reply <;> rfl

/-- The results of an answer whose entries are read by `value`. -/
theorem Batch.results_fst {each : α → StateM σ CallResult} {value : α → CallResult}
    (reads : ∀ a s, (each a s).1 = value a) (n : Nat) (reply : Reply (List α)) (s : σ) :
    (Batch.results env n each reply s).1 = Batch.settled n value reply := by
  have mapped (answers : List α) (s : σ) : (answers.mapM each s).1 = answers.map value := by
    induction answers generalizing s with
    | nil => rfl
    | cons a rest ih =>
      rw [List.mapM_cons, List.map_cons, ← reads a s, ← ih (each a s).2]
      rfl
  cases reply with
  | error e => rfl
  | ok answers =>
    rw [Batch.results, Batch.settled]
    split
    · exact mapped answers s
    · rfl

end Settle

/-! ## Requests -/

/-- A handler leaves what the callback leaves. -/
theorem Gate.handler_snd {σ : Type} (callback : ScanRow → Program σ Unit) (row : ScanRow) (s : σ) :
    ((Gate.handler callback row).run s).2 = ((callback row).run s).2 := by
  rw [Gate.handler, Program.run_bind]
  rcases (callback row).run s with ⟨_ | _, _⟩ <;> rfl

/-- The command of a scan through a gate. -/
def GateScan.command (scan : GateScan) : Command :=
  match scan.target with
  | .cluster => .scanAll (.ofOptions scan.options) scan.ns scan.setName
  | .node name => .scanNode (.ofOptions scan.options) name scan.ns scan.setName
  | .allNodes =>
    .scanAll { ScanPolicy.ofOptions scan.options with concurrent := true } scan.ns scan.setName

/-- The event that a call leaves in the log before its command. -/
def GateCall.opening (call : GateCall) : List LogEvent :=
  match call with
  | write _ key bins _ _ => [.writing key (bins.length + 1)]
  | addAndGet key _ _ _ => [.adding key]
  | delete key _ _ => [.deleting key]
  | getBin key _ _ | getBins key _ _ | getAll key _ => [.reading key]
  | getWithTouch key _ _ _ => [.touching key]
  | contains _ _ => []
  | operate key reads writes _ _ => [.operating key reads.length writes.length]
  | batchContains _ _ _ _ | batchContainsDigests _ _ _ | batchContainsKeys _ _ => [.batchChecking call.width]
  | batchGet _ _ _ _ _ | batchGetAll _ _ _ _ | batchGetDigests _ _ _ _ | batchGetKeys _ _ _ =>
    [.batchReading call.width]

/-- A call of a gate, or a scan with its callback. -/
inductive GateRequest (σ : Type) where
  | call (call : GateCall)
  | scan (scan : GateScan) (callback : ScanRow → Program σ Unit)

namespace GateRequest

variable {σ : Type}

/-- Make a request. -/
def run (env : Surroundings σ) (gate : Gate) : GateRequest σ → Program σ GateAnswer
  | call c => gate.run env c
  | scan s callback => .result <$> gate.runScan env s callback

/-- The command that a request gives. -/
def command? : GateRequest σ → Option Command
  | call c => c.command?
  | scan s _ => some s.command

/-- Whether a gate finds nothing wrong with what a request is given: there are bins to write, and there are
keys. -/
def passes : GateRequest σ → Bool
  | call (.write _ _ bins _ _) | call (.addAndGet _ bins _ _) => !bins.isEmpty
  | call c =>
    match c.batch? with
    | some (.ok keys) => !keys.isEmpty
    | some (.error _) => false
    | none => true
  | scan _ _ => true

/-- What rows are handed to. A call has no rows. -/
def callback : GateRequest σ → ScanRow → Program σ Unit
  | call _ => fun _ => return ()
  | scan _ callback => callback

/-- The events that a request leaves in the log before its command. -/
def opening : GateRequest σ → List LogEvent
  | call c => c.opening
  | scan _ _ => []

/-- What a request makes of the reply to its command. The reply to a scan is a summary. -/
def answer : GateRequest σ → CommandReply → GateAnswer
  | call c => c.answer
  | scan _ _ => fun
    | .summary reply => .result (.ofReply .ofSummary reply)
    | _ => .result (.ofCode .clientError)

/-- The kind of the reply that a request reads. -/
def kind : GateRequest σ → ReplyKind
  | call c => c.kind
  | scan _ _ => .summary

/-- The answer to a failure of the command. -/
def failed (e : ClientError) : GateRequest σ → GateAnswer
  | call c => c.failed e
  | scan _ _ => .result (.ofError e)

/-- The answer to a request for which no command is issued: it gives none, or the gate has no client. -/
def unissued : GateRequest σ → GateAnswer
  | call c => if c.command?.isSome then c.failed Gate.notConnected else c.idle
  | scan _ _ => .result (.ofError Gate.notConnected)

/-- What the client does with the command of a request: its reply, unless it crashes, and the state after
that. -/
def issue (env : Surroundings σ) (gate : Gate) (s : σ) (request : GateRequest σ) :
    Option (Option CommandReply × σ) :=
  if gate.attached then
    request.command?.map fun command =>
      (env.client.obey (Gate.handler request.callback) command).run (env.noted request.opening s)
  else none

theorem isSome_command? (request : GateRequest σ) : request.command?.isSome = request.passes := by
  have batch (build : List Key → Command) (keys : Except GateError (List Key)) :
      (GateCall.batchCommand? build keys).isSome =
        match some keys with
        | some (.ok keys) => !keys.isEmpty
        | some (.error _) => false
        | none => true := by
    rcases keys with e | _ | ⟨key, rest⟩ <;> rfl
  cases request with
  | scan s callback => rfl
  | call c =>
    cases c with
    | write kind key bins tx options => cases bins <;> rfl
    | addAndGet key bins tx options => cases bins <;> rfl
    | delete _ _ _ | getBin _ _ _ | getBins _ _ _ | getAll _ _ | getWithTouch _ _ _ _ | contains _ _
    | operate _ _ _ _ _ => rfl
    | batchContains _ _ _ _ | batchGet _ _ _ _ _ | batchGetAll _ _ _ _ | batchContainsDigests _ _ _
    | batchGetDigests _ _ _ _ => exact batch _ _
    | batchContainsKeys keys tx => exact batch (.batchContains (.ofOptions tx)) (.ok keys)
    | batchGetKeys keys names tx => exact batch (.batchGet (.ofOptions tx) · (.ofNames names)) (.ok keys)

/-- A command that fails is answered by its failure. -/
theorem answer_failed {request : GateRequest σ} {command : Command}
    (gives : request.command? = some command) (e : ClientError) :
    request.answer (request.kind.failed e) = request.failed e := by
  cases request with
  | call c => exact GateCall.answer_failed gives e
  | scan _ _ => rfl

theorem code_of_failed (request : GateRequest σ) (e : ClientError) :
    ∀ r ∈ (request.failed e).places, r.code = .ofCode e.code := by
  cases request with
  | call c => exact c.code_of_failed e
  | scan _ _ => exact List.forall_mem_singleton.2 rfl

/-- A gate without a client answers as one whose client is not connected. -/
theorem unissued_of_passes {request : GateRequest σ} (passes : request.passes = true) :
    request.unissued = request.failed Gate.notConnected := by
  cases request with
  | call c =>
    rw [← isSome_command?, command?] at passes
    rw [unissued, if_pos passes, failed]
  | scan _ _ => rfl

theorem kind_of_command? {request : GateRequest σ} {command : Command}
    (gives : request.command? = some command) : command.kind = request.kind := by
  cases request with
  | call c => exact GateCall.kind_of_command? gives
  | scan scan callback =>
    obtain ⟨target, ns, setName, options⟩ := scan
    cases gives
    cases target <;> rfl

/-- A request reads the reply to its command. -/
theorem kind_of_issue {env : Surroundings σ} {gate : Gate} {request : GateRequest σ} {s t : σ}
    {reply : CommandReply} (issued : request.issue env gate s = some (some reply, t)) :
    reply.kind = request.kind := by
  rw [issue] at issued
  split at issued
  · obtain ⟨command, gives, obeyed⟩ := Option.map_eq_some_iff.1 issued
    exact (RecordClient.kind_of_obey obeyed).trans (kind_of_command? gives)
  · cases issued

/-- A run of a request to a gate. -/
inductive Conducted (env : Surroundings σ) (gate : Gate) (request : GateRequest σ) (s : σ) :
    Option GateAnswer × σ → Prop
  | unissued {t : σ} (none : request.issue env gate s = none) (noted : env.Noted s t) :
      Conducted env gate request s (some request.unissued, t)
  | crashed {t : σ} (issued : request.issue env gate s = some (none, t)) :
      Conducted env gate request s (none, t)
  | replied {reply : CommandReply} {t u : σ} (issued : request.issue env gate s = some (some reply, t))
      (noted : env.Noted t u) : Conducted env gate request s (some (request.answer reply), u)

section Conducted

variable {env : Surroundings σ} {gate : Gate} {request : GateRequest σ} {s : σ}

theorem issue_of_detached (detached : gate.attached = false) (request : GateRequest σ) :
    request.issue env gate s = none := by
  simp only [issue, detached, Bool.false_eq_true, if_false]

theorem issue_of_attached (attached : gate.attached = true) {command : Command}
    (gives : request.command? = some command) (s : σ) :
    request.issue env gate s = some ((env.client.obey (Gate.handler request.callback) command).run
      (env.noted request.opening s)) := by
  rw [issue, if_pos attached, gives, Option.map_some]

/-- A command that the client of an attached gate is given, with what the gate does after it. -/
theorem conducted_attached {α β : Type} (attached : gate.attached = true) (request : GateRequest σ)
    {command : Command} (gives : request.command? = some command) {given : Program σ (Reply α)}
    {kind : Reply α → CommandReply}
    (obeys : env.client.obey (Gate.handler request.callback) command = kind <$> given)
    {settle : Reply α → StateM σ β} {value : Reply α → β} {f : β → GateAnswer}
    (settles : ∀ reply t, (settle reply t).1 = value reply)
    (noted : ∀ reply t, env.Noted t (settle reply t).2)
    (reads : ∀ reply, request.answer (kind reply) = f (value reply)) :
    Conducted env gate request s
      ((f <$> (do settle (← given) : Program σ β)).run (env.noted request.opening s)) := by
  have issued : request.issue env gate s = _ := issue_of_attached attached gives s
  rw [obeys, Program.run_map] at issued
  rw [Program.run_map, Program.run_bind]
  generalize given.run (env.noted request.opening s) = ran at issued ⊢
  obtain ⟨_ | reply, t⟩ := ran
  · exact .crashed issued
  · have replied := Conducted.replied issued (noted reply t)
    rw [reads, ← settles reply t] at replied
    exact replied

/-- A scan. -/
theorem conducted_scan {scan : GateScan} {callback : ScanRow → Program σ Unit}
    {given : RecordClient σ → Program σ (Reply ScanSummary)}
    (obeys : env.client.obey (Gate.handler callback) scan.command = .summary <$> given env.client) :
    Conducted env gate (.scan scan callback) s ((.result <$> gate.scanWith env given).run s) := by
  rw [Gate.scanWith]
  cases attached : gate.attached with
  | false =>
    exact .unissued (issue_of_detached attached _) (.note (.callFailed Gate.notConnected) s)
  | true =>
    rw [if_pos rfl]
    exact conducted_attached attached (.scan scan callback) rfl obeys (Gate.settleScan_fst env)
      Surroundings.noted_settleScan fun _ => rfl

section Call

variable {call : GateCall}

theorem conducted_idle (idle : call.command? = none) {answer : GateAnswer} (same : call.idle = answer) {t : σ}
    (noted : env.Noted s t) : Conducted env gate (.call call) s (some answer, t) := by
  have none : (GateRequest.call call).issue env gate s = none := by
    rw [issue, command?, idle, Option.map_none, ite_self]
  have idles : (GateRequest.call call : GateRequest σ).unissued = answer := by
    rw [unissued, idle, ← same]
    rfl
  exact idles ▸ .unissued none noted

theorem conducted_detached (detached : gate.attached = false) {command : Command}
    (gives : call.command? = some command) {answer : GateAnswer}
    (same : call.failed Gate.notConnected = answer) {t : σ} (noted : env.Noted s t) :
    Conducted env gate (.call call) s (some answer, t) := by
  have fails : (GateRequest.call call : GateRequest σ).unissued = answer := by
    rw [unissued, gives, ← same]
    rfl
  exact fails ▸ .unissued (issue_of_detached detached _) noted

/-- A call for one record. -/
theorem conducted_call {α : Type} {command : Command} (gives : call.command? = some command)
    {f : α → CallResult} {given : RecordClient σ → Program σ (Reply α)} {kind : Reply α → CommandReply}
    (obeys : env.client.obey (Gate.handler fun _ => return ()) command = kind <$> given env.client)
    (g : CallResult → CallResult)
    (reads : ∀ reply, call.answer (kind reply) = .result (g (.ofReply f reply)))
    (failed : call.failed Gate.notConnected = .result (g (.ofError Gate.notConnected))) :
    Conducted env gate (.call call) s
      (((fun r => .result (g r)) <$> gate.call env f given).run (env.noted call.opening s)) := by
  rw [Gate.call]
  cases attached : gate.attached with
  | false =>
    have opened : env.Noted s (env.noted call.opening s) := ⟨_, rfl⟩
    rw [if_neg Bool.false_ne_true, Program.run_map, Program.run_lift, Gate.settle_fst]
    exact conducted_detached attached gives failed
      (opened.trans (Surroundings.noted_settle f (.error Gate.notConnected) _))
  | true =>
    rw [if_pos rfl]
    exact conducted_attached attached (.call call) gives obeys (Gate.settle_fst env f)
      (Surroundings.noted_settle f) reads

/-- What is noted first is the opening of a call. -/
theorem conducted_noted {e : LogEvent} (opens : call.opening = [e]) {program : Program σ CallResult}
    {f : CallResult → GateAnswer}
    (conducted : Conducted env gate (.call call) s ((f <$> program).run (env.noted call.opening s))) :
    Conducted env gate (.call call) s ((f <$> (do
      env.note e
      program : Program σ CallResult)).run s) := by
  rw [opens] at conducted
  exact conducted

/-- A call for many records. -/
theorem conducted_batch {α : Type} {keys : List Key} (asked : call.batch? = some (.ok keys))
    {build : List Key → Command} (gives : call.command? = GateCall.batchCommand? build (.ok keys))
    {e : LogEvent} (opens : call.opening = [e]) {each : α → StateM σ CallResult} {value : α → CallResult}
    (values : ∀ a t, (each a t).1 = value a) (noted : ∀ a t, env.Noted t (each a t).2)
    {given : Program σ (Reply (List α))} {kind : Reply (List α) → CommandReply}
    (obeys : env.client.obey (Gate.handler fun _ => return ()) (build keys) = kind <$> given)
    (reads : ∀ reply, call.answer (kind reply) = .results (Batch.settled keys.length value reply)) :
    Conducted env gate (.call call) s ((.results <$> gate.batch env keys (do
      if keys.isEmpty then return []
      env.note e
      Batch.results env keys.length each (← given))).run s) := by
  have failed : call.failed Gate.notConnected =
      .results (List.replicate keys.length (.ofError Gate.notConnected)) := by
    rw [GateCall.failed, asked]
  have idle : call.idle = .results [] := by rw [GateCall.idle, asked]
  have refused : env.Noted s (env.note (.callFailed Gate.notConnected) s).2 := .note _ s
  rw [Gate.batch]
  rw [GateCall.batchCommand?] at gives
  by_cases empty : keys.isEmpty = true
  · rw [if_pos empty] at gives
    rw [List.isEmpty_iff.1 empty]
    cases gate.attached with
    | false => exact conducted_idle gives idle refused
    | true => exact conducted_idle gives idle (.refl s)
  · rw [if_neg empty] at gives
    cases attached : gate.attached with
    | false => exact conducted_detached attached gives failed refused
    | true =>
      rw [if_pos rfl, if_neg empty]
      have opened : env.noted (GateRequest.call call : GateRequest σ).opening s = (env.note e s).2 :=
        congrArg (env.noted · s) opens
      have issued := conducted_attached (s := s) attached (.call call) gives obeys
        (Batch.results_fst env values keys.length) (Surroundings.noted_results noted keys.length) reads
      rw [opened] at issued
      exact issued

theorem conducted_contains {policy : Policy} {keys : List Key} (asked : call.batch? = some (.ok keys))
    (gives : call.command? = GateCall.batchCommand? (.batchContains policy) (.ok keys))
    (opens : call.opening = [.batchChecking call.width]) :
    Conducted env gate (.call call) s ((.results <$> gate.batch env keys
      (Batch.contains env policy keys)).run s) := by
  rw [GateCall.width_of_batch? asked] at opens
  have reads (reply : Reply (List Bool)) :
      call.answer (.flags reply) = .results (Batch.settled keys.length .ofPresence reply) := by
    rw [GateCall.answer, GateCall.width_of_batch? asked]
  have values (found : Bool) (t : σ) :
      ((return CallResult.ofPresence found : StateM σ CallResult) t).1 = .ofPresence found := rfl
  exact conducted_batch asked gives opens values (fun _ => .refl) rfl reads

theorem conducted_gets {policy : Policy} {keys : List Key} {selection : BinSelection}
    (asked : call.batch? = some (.ok keys))
    (gives : call.command? = GateCall.batchCommand? (.batchGet policy · selection) (.ok keys))
    (opens : call.opening = [.batchReading call.width]) :
    Conducted env gate (.call call) s ((.results <$> gate.batch env keys
      (Batch.get env policy keys selection)).run s) := by
  rw [GateCall.width_of_batch? asked] at opens
  have reads (reply : Reply (List (Reply (Option Record)))) :
      call.answer (.records reply) =
        .results (Batch.settled keys.length (.ofReply .ofFoundRecord) reply) := by
    rw [GateCall.answer, GateCall.width_of_batch? asked]
  exact conducted_batch asked gives opens (Gate.settle_fst env CallResult.ofFoundRecord)
    (Surroundings.noted_settle CallResult.ofFoundRecord) rfl reads

/-- A batch on keys that may have been rejected. -/
theorem conducted_onKeys {keys : Except GateError (List Key)} {build : List Key → Command}
    {run : List Key → Program σ (List CallResult)} (asked : call.batch? = some keys)
    (gives : call.command? = GateCall.batchCommand? build keys)
    (conducted : ∀ keys, call.batch? = some (.ok keys) →
      call.command? = GateCall.batchCommand? build (.ok keys) →
      Conducted env gate (.call call) s ((.results <$> run keys).run s)) :
    Conducted env gate (.call call) s ((.ofBatch <$> Gate.onKeys keys run).run s) := by
  cases keys with
  | error e =>
    have idle : call.idle = .rejected e := by rw [GateCall.idle, asked]
    exact conducted_idle gives idle (.refl s)
  | ok keys =>
    have conducted := conducted keys asked gives
    rw [Program.run_map] at conducted
    rw [Gate.onKeys, Program.run_map, Program.run_map]
    cases found : ((run keys).run s).1 <;> rw [found] at conducted <;> exact conducted

/-- Bins are written, unless there are none. -/
theorem conducted_writes {bins : List Bin} {program : Program σ CallResult} {command : Command}
    (gives : call.command? = if bins.isEmpty then none else some command)
    (idle : call.idle = .result (.ofCode .parameterError))
    (conducted : call.command? = some command →
      Conducted env gate (.call call) s ((GateAnswer.result <$> program).run s)) :
    Conducted env gate (.call call) s ((GateAnswer.result <$> (do
      if bins.isEmpty then return .ofCode .parameterError
      program : Program σ CallResult)).run s) := by
  by_cases empty : bins.isEmpty = true
  · rw [if_pos empty] at gives
    rw [if_pos empty]
    exact conducted_idle gives idle (.refl s)
  · rw [if_neg empty] at gives
    rw [if_neg empty]
    exact conducted gives

end Call

/-- **One command, and an answer read off its reply.** -/
theorem conducted_run (env : Surroundings σ) (gate : Gate) (request : GateRequest σ) (s : σ) :
    Conducted env gate request s ((request.run env gate).run s) := by
  cases request with
  | scan scan callback =>
    obtain ⟨target, ns, setName, options⟩ := scan
    rw [run, Gate.runScan]
    cases target with
    | cluster =>
      rw [Gate.scan]
      exact conducted_scan rfl
    | node name =>
      unfold Gate.scanNode
      exact conducted_scan rfl
    | allNodes =>
      rw [Gate.scanAllNodes]
      exact conducted_scan rfl
  | call call =>
    cases call with
    | write kind key bins tx options =>
      refine conducted_writes rfl rfl fun gives => conducted_noted ?_
        (conducted_call gives rfl id (fun _ => rfl) rfl)
      rw [GateCall.opening, List.length_append, List.length_map]
      rfl
    | addAndGet key bins tx options =>
      exact conducted_writes rfl rfl fun gives =>
        conducted_noted rfl (conducted_call gives rfl id (fun _ => rfl) rfl)
    | delete key tx options => exact conducted_noted rfl (conducted_call rfl rfl id (fun _ => rfl) rfl)
    | getBin key name tx =>
      rw [run, Gate.run, Gate.getBin, Program.run_map_bind]
      exact conducted_noted rfl (conducted_call rfl rfl (·.withSingle name) (fun _ => rfl) rfl)
    | getBins key names tx => exact conducted_noted rfl (conducted_call rfl rfl id (fun _ => rfl) rfl)
    | getAll key tx => exact conducted_noted rfl (conducted_call rfl rfl id (fun _ => rfl) rfl)
    | getWithTouch key names tx options =>
      exact conducted_noted rfl (conducted_call rfl rfl id (fun _ => rfl) rfl)
    | contains key tx => exact conducted_call rfl rfl id (fun _ => rfl) rfl
    | operate key reads writes tx options =>
      exact conducted_noted rfl (conducted_call rfl rfl id (fun _ => rfl) rfl)
    | batchContains ns setName keys tx =>
      exact conducted_onKeys rfl rfl fun keys asked gives => conducted_contains asked gives rfl
    | batchGet ns setName keys names tx =>
      exact conducted_onKeys rfl rfl fun keys asked gives => conducted_gets asked gives rfl
    | batchGetAll ns setName keys tx =>
      exact conducted_onKeys rfl rfl fun keys asked gives => conducted_gets asked gives rfl
    | batchContainsDigests ns digests tx =>
      exact conducted_onKeys rfl rfl fun keys asked gives => conducted_contains asked gives rfl
    | batchGetDigests ns digests names tx =>
      exact conducted_onKeys rfl rfl fun keys asked gives => conducted_gets asked gives rfl
    | batchContainsKeys keys tx => exact conducted_contains rfl rfl rfl
    | batchGetKeys keys names tx => exact conducted_gets rfl rfl rfl

end Conducted

end GateRequest

end RecordGate
