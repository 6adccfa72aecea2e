import RecordGate.Proofs.Session.Existence
import RecordGate.Proofs.Session.Touch
import RecordGate.Proofs.Store.Damage
import RecordGate.Value.Equality

/-!
# A damaged record is unreadable

No program that makes requests of gates, and does not write a damaged record, can tell what bins the record has;
and the record stays damaged (`Abstains.respects`). Whoever reads it is answered with a client error. A write of
the record mends it, whatever it writes: even one that leaves the bins as they are, and so shows them again
(`damage_hides_bins`).
-/

namespace RecordGate
set_option autoImplicit false

namespace Session

/-- Sessions at one time without scripts, over clusters that differ behind the veil of a damaged record. The
same rows have been kept in both. -/
structure Veiled (id : RecordId) (r r' : StoredRecord) (s t : Session) : Prop where
  clusters : s.cluster.Veiled id r r' t.cluster
  clock : t.clock = s.clock
  rows : t.rows = s.rows
  script : s.script = [] ∧ t.script = []

variable {id : RecordId} {r r' : StoredRecord}

/-! ## Commands -/

section Commands

variable {s t : Session} (veiled : Veiled id r r' s t)
include veiled

theorem Veiled.now? : t.now? = s.now? := congrArg timeOf? veiled.clock

theorem Veiled.over {c d : Cluster} (clusters : c.Veiled id r r' d) :
    Veiled id r r' { s with cluster := c } { t with cluster := d } :=
  ⟨clusters, veiled.clock, veiled.rows, veiled.script⟩

theorem Veiled.noted (e e' : LogEvent) : Veiled id r r' (note e s).2 (note e' t).2 :=
  ⟨veiled.clusters, veiled.clock, veiled.rows, veiled.script⟩

theorem Veiled.served {command : Command} (unwritten : command.writes id = false) :
    Tied (Cluster.Veiled id r r') (s.served command) (t.served command) := by
  have accepted := (Cluster.Veiled.likeness 0 id r r').accept veiled.clusters command.policy
  rw [Session.served, Session.served, veiled.now?, accepted.answer, veiled.clusters.asksTime]
  split
  · exact ⟨rfl, accepted.states⟩
  · exact (veiled.clusters.answer (s.now?.getD 0) unwritten).map some

theorem Veiled.acceptScan {policy : ScanPolicy} {scan : StateM Session (Except ScanStop ScanSummary)}
    (scans : ∀ ⦃s t⦄, Veiled id r r' s t → Tied (Veiled id r r') (scan s) (scan t)) :
    Tied (Veiled id r r') (acceptScan policy scan s) (acceptScan policy scan t) := by
  have accepted := (Cluster.Veiled.likeness 0 id r r').accept veiled.clusters (.scan policy)
  obtain ⟨reply, c, d, here, there, clusters⟩ := accepted.split
  cases reply with
  | error e =>
    rw [acceptScan_of_error here, acceptScan_of_error there]
    exact ⟨rfl, veiled.over clusters⟩
  | ok _ =>
    rw [acceptScan_of_ok here, acceptScan_of_ok there]
    exact scans (veiled.over clusters)

end Commands

theorem visitor_respects {R : Session → Session → Prop} {handle : RowHandler Session}
    (respects : ∀ row, Program.Respects R (handle row)) : (visitor handle).Respects R := by
  intro row s t related
  obtain ⟨reply, s', t', here, there, states⟩ := (respects row related).split
  rw [visitor, visitor, here, there]
  cases reply with
  | none => exact ⟨rfl, states⟩
  | some reply => exact ⟨rfl, states⟩

theorem settled_respects {R : Session → Session → Prop}
    {scan : StateM Session (Except ScanStop ScanSummary)}
    (scans : ∀ ⦃s t⦄, R s t → Tied R (scan s) (scan t)) : Program.Respects R (settled scan) := by
  intro s t related
  obtain ⟨ended, s', t', here, there, states⟩ := (scans related).split
  rw [run_settled, run_settled, here, there]
  rcases ended with (e | _) | summary
  · exact ⟨rfl, states⟩
  · exact ⟨rfl, states⟩
  · exact ⟨rfl, states⟩

/-- **No command that does not write a damaged record shows what is behind its veil**, if what it hands rows
to cannot tell that either. -/
theorem obey_respects {handle : RowHandler Session}
    (handles : ∀ row, Program.Respects (Veiled id r r') (handle row)) {command : Command}
    (unwritten : command.writes id = false) :
    Program.Respects (Veiled id r r') (direct.obey handle command) := by
  have visits := visitor_respects handles
  have shows (scope : ScanScope) (place : Nat) : scope.DeliversAlike (visitor handle) (Veiled id r r')
      fun t => t.cluster.nodes.getD place default :=
    Cluster.Veiled.deliversAlike cluster (fun _ _ veiled => veiled.clusters) scope (visitor handle) place
  cases scan : command.isScan with
  | false =>
    intro s t veiled
    have tied := veiled.served unwritten
    rw [obey_eq_served handle scan, obey_eq_served handle scan]
    exact ⟨tied.answer, veiled.over tied.states⟩
  | true =>
    cases command with
    | scanAll policy ns setName =>
      refine Program.Respects.map _ (settled_respects fun _ _ veiled =>
        veiled.acceptScan fun s t veiled => ?_)
      rw [Program.step_get, Program.step_get, Program.step_bind, Program.step_bind,
        veiled.clusters.nodesIn cluster rfl rfl, veiled.now?]
      refine ScanScope.overNodes_tied visits ?_ policy.concurrent (veiled.noted _ _)
      intro node member
      obtain ⟨place, -, rfl⟩ := List.mem_map.1 member
      exact shows _ place
    | scanNode policy node ns setName =>
      refine Program.Respects.map _ (settled_respects fun _ _ veiled =>
        veiled.acceptScan fun s t veiled => ?_)
      rw [Program.step_get, Program.step_get, veiled.clusters.nodeNamed? cluster rfl rfl, veiled.now?]
      cases named : Cluster.nodeNamed? cluster s node with
      | none => exact ⟨rfl, veiled⟩
      | some found =>
        obtain ⟨place, -, rfl⟩ := Option.map_eq_some_iff.1 named
        dsimp only
        rw [Program.step_bind, Program.step_bind]
        exact ScanScope.overNode_tied visits (shows _ place) (veiled.noted _ _)
    | _ => cases scan

/-- A request to a gate is blind to what it does not write. -/
theorem request_respects (seeds : List Host) (gate : Gate) {request : GateRequest Session}
    (unwritten : request.command?.any (·.writes id) = false)
    (called : ∀ row, Program.Respects (Veiled id r r') (request.callback row)) :
    Program.Respects (Veiled id r r') (request.run (surroundings seeds) gate) := by
  intro s t veiled
  by_cases issued : gate.attached = true ∧ request.passes = true
  · obtain ⟨attached, passes⟩ := issued
    rw [← GateRequest.isSome_command?] at passes
    obtain ⟨command, gives⟩ := Option.isSome_iff_exists.1 passes
    rw [gives] at unwritten
    have handles row : Program.Respects (Veiled id r r') (Gate.handler request.callback row) :=
      (called row).bind fun _ => .pure _
    obtain ⟨before, after, run⟩ := run_of_attached veiled.script.1 seeds attached gives
    obtain ⟨before', after', run'⟩ := run_of_attached veiled.script.2 seeds attached gives
    have noted : Veiled id r r' { s with lines := before, commands := s.commands ++ [command] }
        { t with lines := before', commands := t.commands ++ [command] } :=
      ⟨veiled.clusters, veiled.clock, veiled.rows, veiled.script⟩
    obtain ⟨answer, left⟩ := obey_respects handles unwritten noted
    dsimp only at run run'
    rw [run, run']
    exact ⟨congrArg (Option.map request.answer) answer, left.clusters, left.clock, left.rows, left.script⟩
  · obtain ⟨lines, run⟩ := run_of_idle (s := s) seeds issued
    obtain ⟨lines', run'⟩ := run_of_idle (s := t) seeds issued
    rw [run, run']
    exact ⟨rfl, veiled.clusters, veiled.clock, veiled.rows, veiled.script⟩

/-! ## Programs of requests -/

/-- Wait until a second. -/
def waitUntil (seconds : Int) : Program Session Unit := (modify fun s => { s with clock := seconds } :
  StateM Session Unit)

/-- A program of a client that makes requests of gates, none of which writes the record of an identity. It
keeps rows of scans, and goes on after crashes; and so do its callbacks. -/
inductive Abstains (id : RecordId) : ∀ {α : Type}, Program Session α → Prop
  | pure {α : Type} (a : α) : Abstains id (Pure.pure a : Program Session α)
  | bind {α β : Type} {p : Program Session α} {f : α → Program Session β} (first : Abstains id p)
      (rest : ∀ a, Abstains id (f a)) : Abstains id (p >>= f)
  | crash {α : Type} : Abstains id (failure : Program Session α)
  | orElse {α : Type} {p q : Program Session α} (first : Abstains id p) (second : Abstains id q) :
      Abstains id (p <|> q)
  | keep (row : ScanRow) : Abstains id (keepRow row : Program Session Unit)
  | wait (seconds : Int) : Abstains id (waitUntil seconds)
  | request (seeds : List Host) (gate : Gate) {request : GateRequest Session}
      (unwritten : request.command?.any (·.writes id) = false)
      (called : ∀ row, Abstains id (request.callback row)) :
      Abstains id (request.run (surroundings seeds) gate)

/-- **A program that does not write a damaged record cannot tell what is behind its veil.** -/
theorem Abstains.respects {α : Type} {p : Program Session α} (abstains : Abstains id p) :
    Program.Respects (Veiled id r r') p := by
  induction abstains with
  | pure a => exact .pure a
  | bind _ _ first rest => exact first.bind rest
  | crash => exact .failure
  | orElse _ _ first second => exact first.orElse second
  | keep row =>
    intro s t veiled
    exact ⟨rfl, veiled.clusters, veiled.clock, congrArg (· ++ [row]) veiled.rows, veiled.script⟩
  | wait seconds =>
    intro s t veiled
    exact ⟨rfl, veiled.clusters, rfl, veiled.rows, veiled.script⟩
  | request seeds gate unwritten _ called => exact request_respects seeds gate unwritten called

/-! ## Readers of a damaged record -/

end Session

/-- Whether a command asks for bins and writes none. -/
def Command.asksBins : Command → Bool
  | .get .. | .batchGet .. => true
  | .operate _ _ ops => !ops.any Operation.isWrite
  | _ => false

/-- A call that reads many records has a place for each. -/
theorem GateCall.width_of_batchGet {call : GateCall} {policy : Policy} {keys : List Key}
    {selection : BinSelection} (gives : call.command? = some (.batchGet policy keys selection)) :
    call.width = keys.length := by
  have kind := kind_of_command? gives
  cases call with
  | batchGet _ _ _ _ _ | batchGetAll _ _ _ _ | batchGetDigests _ _ _ _ | batchGetKeys _ _ _ =>
    rw [command?] at gives
    obtain ⟨given, asked, -, same⟩ := eq_of_batchCommand? gives
    cases same
    exact width_of_batch? (congrArg some asked)
  | _ => cases kind

namespace Session

section Readers

variable {s : Session} {now : UInt32} (told : s.now? = some now) (script : s.script = [])
  (admits : s.cluster.Admits) {gate : Gate} (attached : gate.attached = true) (seeds : List Host) {key : Key}
  {r : StoredRecord} (live : s.cluster.live? now key.id = some r) (damaged : r.corrupted = true)
include told script admits attached live damaged

/-- **Who reads a damaged record is answered with a client error**, alone or in its place of a batch. -/
theorem codeAt_of_damaged {call : GateCall} {command : Command} (gives : call.command? = some command)
    (asks : command.asksBins = true) {place : Nat} (there : command.keys[place]? = some key) :
    codeAt gate seeds s call place = some .clientError := by
  rw [codeAt_eq told script attached seeds gives]
  cases command with
  | get policy key' selection =>
    obtain ⟨first, same⟩ := List.getElem?_eq_some_iff.1 there
    obtain rfl : place = 0 := Nat.lt_one_iff.1 first
    obtain rfl : key' = key := same
    have reply : (s.cluster.answer now (.get policy key' selection)).1 =
        .record (.error (Refusal.corrupted key').toError) := by
      have got : (s.cluster.get now policy key' selection).1 = _ :=
        Cluster.get_of_admits admits policy selection
      rw [Cluster.readLive_of_damaged live damaged] at got
      exact congrArg CommandReply.record got
    have failed : call.answer (.record (.error (Refusal.corrupted key').toError)) =
        .result (call.named (.ofError (Refusal.corrupted key').toError)) := rfl
    rw [reply, failed, call.named_ofError]
    rfl
  | operate policy key' ops =>
    obtain ⟨first, same⟩ := List.getElem?_eq_some_iff.1 there
    obtain rfl : place = 0 := Nat.lt_one_iff.1 first
    obtain rfl : key' = key := same
    have reads : ops.any Operation.isWrite = false := Bool.not_eq_eq_eq_not.1 asks
    have refused := Cluster.operate_of_damaged live damaged admits reads policy
    rw [Cluster.answer, refused]
    rfl
  | batchGet policy keys selection =>
    have there : keys[place]? = some key := there
    have got : (s.cluster.batchGet now policy keys selection).1 = _ :=
      Cluster.batchGet_of_admits admits policy keys selection
    have reply : (s.cluster.answer now (.batchGet policy keys selection)).1 = .records (.ok _) :=
      congrArg CommandReply.records got
    rw [reply, GateCall.answer, GateAnswer.places, GateCall.width_of_batchGet gives, Batch.settled,
      if_pos (List.length_map _), List.getElem?_map, List.getElem?_map, there]
    simp only [Option.map_some, Cluster.readLive_of_damaged live damaged]
    rfl
  | _ => cases asks

end Readers

end Session

/-! ## Writers of a damaged record -/

def GateCall.isTouch : GateCall → Bool
  | getWithTouch .. => true
  | _ => false

/-- Whether a call that writes a record of a generation leaves its bins as they are: it is a touch, or what it
makes is kept beside them. -/
def GateCall.keepsBins (stored : UInt32) (call : GateCall) : Bool :=
  call.isTouch || call.options?.any (·.conflicts stored)

/-- A write that leaves the bins leaves them. -/
theorem Written.bins_of_keepsBins {r next : StoredRecord} {setName : String} {policy : WritePolicy}
    {ops : List Operation} {limit : Nat} {now : UInt32} {call : GateCall} {key : Key}
    (written : Written (some r) setName policy ops limit now next)
    (gives : call.command? = some (.operate policy key ops)) (writes : ops.any Operation.isWrite = true)
    (keeps : call.keepsBins r.generation = true) : next.bins = r.bins := by
  rw [GateCall.keepsBins, Bool.or_eq_true] at keeps
  rcases keeps with touches | conflicts
  · cases call with
    | getWithTouch key' names tx options =>
      obtain ⟨reads, gives', still⟩ := GateCall.command?_getWithTouch key' names tx options
      cases gives.symm.trans gives'
      rw [written.touched still (replaces_ofOptions tx options)]
      rfl
    | _ => cases touches
  · obtain ⟨tx, _, _, same⟩ := GateCall.command?_of_isWrite gives writes
    cases same
    rw [← conflicts_ofOptions tx] at conflicts
    cases written.revised with
    | conflict _ bins => exact bins
    | plain agrees => cases agrees.symm.trans conflicts

namespace Session

/-- What a call does that writes the record of an identity. -/
inductive WriteRun (id : RecordId) (s : Session) (call : GateCall) : Option GateAnswer × Session → Prop
  /-- It fails and changes no record; after a crash there is not even an answer. -/
  | failed {answer : Option GateAnswer} {t : Session} (nodes : t.cluster.nodes = s.cluster.nodes)
      (failure : ∀ a, answer = some a → ∃ e, a = .result (.ofError e)) : WriteRun id s call (answer, t)
  | wrote {answer : Option GateAnswer} {t : Session} (next : StoredRecord)
      (found : t.cluster.find? id = some next) (sound : next.corrupted = false)
      (kept : ∀ r, s.live? id = some r → call.keepsBins r.generation = true → next.bins = r.bins) :
      WriteRun id s call (answer, t)

section WriteRun

variable {s : Session} {call : GateCall} {policy : WritePolicy} {key : Key} {ops : List Operation}
  (gives : call.command? = some (.operate policy key ops)) (writes : ops.any Operation.isWrite = true)
include gives

theorem failed_of_operate (e : ClientError) : call.failed e = .result (.ofError e) := by
  rw [← GateCall.answer_failed gives, ← GateCall.kind_of_command? gives]
  rfl

include writes

/-- A write that the cluster answers. -/
theorem writeRun_of_operate {t : Session}
    (cluster : t.cluster = (s.cluster.operate (s.now?.getD 0) policy key ops).2) :
    WriteRun key.id s call (some (.result (.ofReply call.ofWritten
      (s.cluster.operate (s.now?.getD 0) policy key ops).1)), t) := by
  have effect := (s.cluster.operate_effect (s.now?.getD 0) policy key ops).1
  rw [← cluster] at effect
  cases effect with
  | kept nodes idle =>
    refine .failed nodes ?_
    rintro a ⟨⟩
    cases replied : (s.cluster.operate (s.now?.getD 0) policy key ops).1 with
    | ok record =>
      rw [replied] at idle
      cases (idle rfl).symm.trans writes
    | error e => exact ⟨e, rfl⟩
  | wrote next admits _ written nodes reply =>
    refine .wrote next ?_ written.sound fun r live keeps => ?_
    · rw [Cluster.find?_congr nodes, Cluster.find?_put, if_pos rfl]
    · obtain ⟨now, told, live⟩ := Option.bind_eq_some_iff.1 live
      rw [told, Option.getD_some, live] at written
      exact written.bins_of_keepsBins gives writes keeps

end WriteRun

/-- **A write of a record fails, or leaves it sound**, whatever bins it makes. -/
theorem writeRun_run {s : Session} (script : s.script = []) (seeds : List Host) (gate : Gate) {id : RecordId}
    {call : GateCall} (writes : call.writes id = true) :
    WriteRun id s call ((gate.run (surroundings seeds) call).run s) := by
  obtain ⟨command, gives, target⟩ := (Option.any_eq_true ..).1 writes
  cases command with
  | operate policy key ops =>
    obtain ⟨isWrite, here⟩ := Bool.and_eq_true_iff.1 target
    obtain rfl : key.id = id := beq_iff_eq.1 here
    have answers := answers_run seeds gate call script
    generalize (gate.run (surroundings seeds) call).run s = ran at answers ⊢
    obtain ⟨answer?, t⟩ := ran
    obtain ⟨answer, atop⟩ := answers
    rw [outcome, gives] at answer atop
    cases attached : gate.attached with
    | false =>
      simp only [attached, Bool.false_eq_true, if_false] at answer atop
      subst answer
      refine .failed (congrArg Cluster.nodes atop.cluster) ?_
      rintro a ⟨⟩
      exact ⟨_, failed_of_operate gives Gate.notConnected⟩
    | true =>
      simp only [attached, if_true, served] at answer atop
      split at answer
      · next asked =>
        rw [if_pos asked] at atop
        subst answer
        refine .failed ((congrArg Cluster.nodes atop.cluster).trans (s.cluster.accept_keeps _).1) ?_
        rintro a ⟨⟩
      · next told =>
        rw [if_neg told] at atop
        subst answer
        exact writeRun_of_operate gives isWrite atop.cluster
  | _ => cases target

/-! ## Any calls -/

/-- **A damaged record is unreadable until it is written.** A program that does not write it is answered, and
is handed rows, as if the record had any other bins, and leaves it as it is or deletes it. Before and after,
whoever asks for its bins is answered with a client error. A call that writes it fails and changes nothing, or
mends it: even one that leaves the bins as they are. -/
theorem damage_hides_bins {s : Session} (script : s.script = []) {id : RecordId} {r : StoredRecord}
    (found : s.cluster.find? id = some r) (damaged : r.corrupted = true) :
    (∀ {α : Type} {p : Program Session α}, Abstains id p →
      let after := (p.run s).2
      (∀ bins duplicates,
        let t := { s with cluster := s.cluster.put id { r with bins, duplicates } }
        (p.run t).1 = (p.run s).1 ∧ (p.run t).2.rows = after.rows) ∧
      (after.cluster.find? id = some r ∨ after.cluster.find? id = none) ∧
      ∀ u, u = s ∨ u = after → u.cluster.Admits → u.live? id = some r →
        ∀ (seeds : List Host) (gate : Gate), gate.attached = true →
          ∀ (call : GateCall) (command : Command), call.command? = some command → command.asksBins = true →
            ∀ place key, command.keys[place]? = some key → key.id = id →
              codeAt gate seeds u call place = some .clientError) ∧
    ∀ (seeds : List Host) (gate : Gate) (call : GateCall), call.writes id = true →
      let ran := (gate.run (surroundings seeds) call).run s
      ran.2.cluster.nodes = s.cluster.nodes ∧ (∀ a, ran.1 = some a → ∃ e, a = .result (.ofError e)) ∨
      ∃ next, ran.2.cluster.find? id = some next ∧ next.corrupted = false ∧
        (s.live? id = some r → call.keepsBins r.generation = true → next.bins = r.bins) := by
  refine ⟨fun {α} {p} abstains => ?_, fun seeds gate call writes => ?_⟩
  · -- The record is compared with itself to see what becomes of it.
    have same : r.Veiled r := ⟨damaged, damaged, rfl, rfl, rfl⟩
    have alone : Veiled id r r s s :=
      ⟨⟨same, rfl, .inl ⟨found, found⟩, fun _ _ _ => rfl, rfl, rfl, rfl⟩, rfl, rfl, script, script⟩
    obtain ⟨-, left⟩ := abstains.respects alone
    refine ⟨fun bins duplicates => ?_, ?_, ?_⟩
    · have records : r.Veiled { r with bins, duplicates } := ⟨damaged, damaged, rfl, rfl, rfl⟩
      have changed : Veiled id r _ s { s with cluster := s.cluster.put id { r with bins, duplicates } } :=
        ⟨Cluster.veiled_put found records, rfl, rfl, script, script⟩
      obtain ⟨answer, ended⟩ := abstains.respects changed
      exact ⟨answer, ended.rows⟩
    · exact left.clusters.here.imp And.left And.left
    · intro u either admits live seeds gate attached call command gives asks place key there here
      have unscripted : u.script = [] := by
        rcases either with rfl | rfl
        · exact script
        · exact left.script.1
      subst here
      obtain ⟨now, told, live⟩ := Option.bind_eq_some_iff.1 live
      exact codeAt_of_damaged told unscripted admits attached seeds live damaged gives asks there
  · intro ran
    have run : WriteRun id s call ran := writeRun_run script seeds gate writes
    clear_value ran
    cases run with
    | failed nodes failure => exact .inl ⟨nodes, failure⟩
    | wrote next found sound kept => exact .inr ⟨next, found, sound, kept r⟩

/-- A damaged record shows in no scan, whatever its bins, and a touch mends it with the bins that it had. -/
theorem damage_hides_bins_of_damaged :
    let gate : Gate := { hosts := [], attached := true }
    let scan : GateRequest Session := .scan ⟨.cluster, "test", "s", none⟩ fun row => keepRow row
    let look := scan.run (surroundings []) gate
    let touched := (gate.run (surroundings []) (.getWithTouch (smallKey 1) none none none)).run damaged
    ∃ r, damaged.cluster.find? (smallKey 1).id = some r ∧ r.corrupted = true ∧
      (∀ bins,
        let changed := damaged.cluster.put (smallKey 1).id { r with bins }
        (look.run { damaged with cluster := changed }).2.rows = (look.run damaged).2.rows) ∧
      codeAt gate [] (look.run damaged).2 (.getAll (smallKey 1) none) 0 = some .clientError ∧
      ∃ next, touched.2.cluster.find? (smallKey 1).id = some next ∧ next.corrupted = false ∧
        next.bins = r.bins := by
  intro gate scan look touched
  have spoilt : (damaged.live? (smallKey 1).id).any (·.corrupted) = true := by decide +kernel
  obtain ⟨r, live, corrupted⟩ := (Option.any_eq_true ..).1 spoilt
  have found : damaged.cluster.find? (smallKey 1).id = some r := found_of_live live
  obtain ⟨blind, written⟩ := damage_hides_bins (s := damaged) rfl found corrupted
  have abstains : Abstains (smallKey 1).id look := .request [] gate rfl fun row => .keep row
  obtain ⟨hidden, -, reads⟩ := blind abstains
  have later : (look.run damaged).2.live? (smallKey 1).id = some r := by
    rw [← live]
    rfl
  refine ⟨r, found, corrupted, fun bins => (hidden bins r.duplicates).2, ?_, ?_⟩
  · have admits : (look.run damaged).2.cluster.Admits := ⟨by decide +kernel, by decide +kernel⟩
    exact reads _ (.inr rfl) admits later [] gate rfl _ _ rfl rfl 0 (smallKey 1) rfl rfl
  · have mended : (touched.2.cluster.find? (smallKey 1).id).any (!·.corrupted) = true := by decide +kernel
    obtain ⟨nodes, -⟩ | ⟨next, there, sound, kept⟩ :=
      written [] gate (.getWithTouch (smallKey 1) none none none) rfl
    · rw [Cluster.find?_congr nodes, found, Option.any_some, corrupted] at mended
      cases mended
    · exact ⟨next, there, sound, kept live rfl⟩

/-- A touch returns the bins that are hidden, and so does every read after it. -/
theorem touch_uncovers_bins :
    let gate : Gate := { hosts := [], attached := true }
    let read := GateCall.getAll (smallKey 1) none
    let touched := (gate.run (surroundings []) (.getWithTouch (smallKey 1) none none none)).run damaged
    let shows (answer : Option GateAnswer) := answer.any fun a =>
      a.places.any fun r => (r.value? "n").any (·.equals (.int 1))
    codeAt gate [] damaged read 0 = some .clientError ∧ shows touched.1 = true ∧
      shows ((gate.run (surroundings []) read).run touched.2).1 = true := by
  decide +kernel

end Session

end RecordGate
