import Mathlib.Data.Multiset.Basic
import RecordGate.Proofs.Session.StoreCall
import RecordGate.Proofs.Store.Delivery

/-!
# Calls as they are observed

What is observed of a call of the store is its answer and, of a scan, the rows that it delivered in any
order. A scan whose handler looks on delivers what the cluster says it does, and changes nothing but the
count of commands (`run_scan`). What two sessions in step answer to each call, they answer to any number of
calls in a row (`observeAll_of_step`).
-/

namespace RecordGate
set_option autoImplicit false

/-- A handler that looks on: every row is welcome, and neither the cluster, the clock nor the rows kept so
far are its business. -/
structure RowHandler.Bystander (handle : RowHandler Session) : Prop where
  welcomes : ∀ row s, ((handle row).run s).1 = some (.ok ())
  cluster : ∀ row s, ((handle row).run s).2.cluster = s.cluster
  clock : ∀ row s, ((handle row).run s).2.clock = s.clock
  rows : ∀ row s, ((handle row).run s).2.rows = s.rows

/-- A handler that answers every row by a verdict, and leaves the cluster and the rows kept so far alone. -/
structure RowHandler.Judges (handle : RowHandler Session) (verdict : Verdict) : Prop where
  judges : ∀ row s, ((handle row).run s).1 = some (verdict row)
  cluster : ∀ row s, ((handle row).run s).2.cluster = s.cluster
  rows : ∀ row s, ((handle row).run s).2.rows = s.rows

theorem RowHandler.Bystander.judges {handle : RowHandler Session} (bystander : handle.Bystander) :
    handle.Judges .welcome where
  judges := bystander.welcomes
  cluster := bystander.cluster
  rows := bystander.rows

/-- The rows kept so far are not the handler's business. -/
def RowHandler.Discreet (handle : RowHandler Session) : Prop :=
  ∀ row s, ((handle row).run s).2.rows = s.rows

/-- The handler that keeps a row before it handles it. -/
def RowHandler.recorded (handle : RowHandler Session) : RowHandler Session := fun row => do
  Session.keepRow row
  handle row

theorem RowHandler.run_recorded (handle : RowHandler Session) (row : ScanRow) (s : Session) :
    (handle.recorded row).run s = (handle row).run (Session.keepRow row s).2 := by
  rw [recorded, Program.run_bind, Program.run_lift]

namespace StoreCall

/-- The call, with the rows that it delivers kept. -/
def recorded : StoreCall → StoreCall
  | command c handle => command c handle.recorded
  | call => call

end StoreCall

namespace Cluster

/-- The nodes of a scan, seen in a state with the same cluster. -/
theorem nodesIn_map {σ : Type} (cluster : σ → Cluster) {s t : σ} (same : cluster t = cluster s) :
    (nodesIn cluster s).map (· t) = (cluster s).nodes := by
  apply List.ext_getElem
  · simp only [nodesIn, List.length_map, List.length_range]
  · intro i h h'
    simp [nodesIn, same, List.getElem?_eq_getElem h']

end Cluster

namespace Session

theorem rows_visits {handle : RowHandler Session} (discreet : handle.Discreet) (rows : List ScanRow)
    (s : Session) : ((visitor handle.recorded).visits rows s).rows = s.rows ++ rows := by
  induction rows generalizing s with
  | nil => exact (List.append_nil _).symm
  | cons row rest ih =>
    have kept : (visitor handle.recorded row s).2.rows = s.rows ++ [row] := by
      rw [visitor_snd, RowHandler.run_recorded]
      exact discreet row _
    rw [Visitor.visits, List.foldl_cons, ← Visitor.visits, ih, kept, List.append_assoc,
      List.singleton_append]

/-! ## A scan under a verdict -/

section Judged

variable {handle : RowHandler Session} {verdict : Verdict} (judges : handle.Judges verdict)
include judges

theorem visit_judges (row : ScanRow) (s : Session) :
    (visitor handle.recorded row s).1 = (verdict row).mapError .failed := by
  have judged : ((handle.recorded row).run s).1 = some (verdict row) := by
    rw [RowHandler.run_recorded]
    exact judges.judges row _
  rw [visitor]
  generalize (handle.recorded row).run s = ran at judged ⊢
  obtain ⟨reply, t⟩ := ran
  cases judged
  rfl

theorem cluster_visit (row : ScanRow) (s : Session) :
    (visitor handle.recorded row s).2.cluster = s.cluster := by
  rw [visitor_snd, RowHandler.run_recorded]
  exact judges.cluster row _

/-- A scan under a verdict comes to the same end in both modes, and keeps the rows that it hands over. -/
theorem overNodes_of_judges {scope : ScanScope} {now : UInt32} (timely : scope.now? = some now)
    (concurrent : Bool) (s : Session) :
    let rows := s.cluster.nodes.map fun n => scope.rows (n.snapshot scope.ns scope.setName now)
    ∃ t, scope.overNodes concurrent (visitor handle.recorded) (Cluster.nodesIn cluster s) s =
        ((ScanSummary.ofRecords (s.cluster.snapshot scope.ns scope.setName now)).barring
          (verdict.first? rows.flatten), t) ∧
      t.rows = s.rows ++ if concurrent then rows.flatMap verdict.handed else verdict.handed rows.flatten := by
  have keeps : ∀ row t, t.cluster = s.cluster → (visitor handle.recorded row t).2.cluster = s.cluster := by
    intro row t same
    exact (cluster_visit judges row t).trans same
  have steady : ∀ t, t.cluster = s.cluster →
      (Cluster.nodesIn cluster s).map (· t) = s.cluster.nodes := by
    intro t same
    exact Cluster.nodesIn_map cluster same
  have swept := ScanScope.overNodes_of_judging (visit_judges judges) timely keeps concurrent steady rfl
  have all : (s.cluster.nodes.map fun n => scope.rows (n.snapshot scope.ns scope.setName now)).flatten =
      scope.rows (s.cluster.nodes.flatMap (·.snapshot scope.ns scope.setName now)) := by
    rw [scope.rows_flatMap]
    rfl
  dsimp only at swept ⊢
  rw [all, List.flatMap_map]
  exact ⟨_, swept, rows_visits judges.rows _ s⟩

end Judged

/-! ## A scan that is looked on -/

section Scan

variable {handle : RowHandler Session} (bystander : handle.Bystander)
include bystander

theorem visit_welcomes (row : ScanRow) (s : Session) : (visitor handle.recorded row s).1 = .ok () :=
  visit_judges bystander.judges row s

theorem visits_of_bystander (rows : List ScanRow) (s : Session) :
    ((visitor handle.recorded).visits rows s).cluster = s.cluster ∧
      ((visitor handle.recorded).visits rows s).clock = s.clock ∧
      ((visitor handle.recorded).visits rows s).rows = s.rows ++ rows := by
  have keeps : ∀ row t, t.cluster = s.cluster ∧ t.clock = s.clock →
      (visitor handle.recorded row t).2.cluster = s.cluster ∧
        (visitor handle.recorded row t).2.clock = s.clock := by
    rintro row t ⟨cluster, clock⟩
    rw [visitor_snd, RowHandler.run_recorded]
    exact ⟨(bystander.cluster row _).trans cluster, (bystander.clock row _).trans clock⟩
  obtain ⟨cluster, clock⟩ := (visitor handle.recorded).visits_keeps keeps rows ⟨rfl, rfl⟩
  exact ⟨cluster, clock, rows_visits bystander.rows rows s⟩

/-- A scan that is looked on sweeps all nodes, and keeps the rows. -/
theorem overNodes_of_bystander (scope : ScanScope) (concurrent : Bool) (s : Session) :
    ∃ t, scope.overNodes concurrent (visitor handle.recorded) (Cluster.nodesIn cluster s) s =
        ((s.cluster.sweep scope concurrent).1, t) ∧
      t.cluster = s.cluster ∧ t.clock = s.clock ∧
      t.rows = s.rows ++ (s.cluster.sweep scope concurrent).2 := by
  unfold Cluster.sweep
  cases time : scope.now? with
  | none =>
    have nodes : Cluster.nodesIn cluster s ≠ [] := by
      intro none
      have seen := congrArg (List.map (· s)) none
      rw [Cluster.nodesIn_map cluster rfl] at seen
      exact s.cluster.nodes_ne_nil seen
    have crash := ScanScope.overNodes_of_timeless time (visitor handle.recorded) concurrent nodes s
    exact ⟨s, crash, rfl, rfl, (List.append_nil _).symm⟩
  | some now =>
    have keeps : ∀ row t, t.cluster = s.cluster →
        (visitor handle.recorded row t).2.cluster = s.cluster := by
      intro row t same
      exact (cluster_visit bystander.judges row t).trans same
    have steady : ∀ t, t.cluster = s.cluster →
        (Cluster.nodesIn cluster s).map (· t) = s.cluster.nodes := by
      intro t same
      exact Cluster.nodesIn_map cluster same
    have swept := ScanScope.overNodes_of_welcoming (visit_welcomes bystander) time keeps concurrent steady rfl
    exact ⟨_, swept, visits_of_bystander bystander _ s⟩

theorem overNode_of_bystander (scope : ScanScope) (node : Session → Node) (s : Session) :
    ∃ t, scope.overNode (visitor handle.recorded) node s = ((scope.glance (node s)).1, t) ∧
      t.cluster = s.cluster ∧ t.clock = s.clock ∧ t.rows = s.rows ++ (scope.glance (node s)).2 := by
  unfold ScanScope.glance
  cases time : scope.now? with
  | none =>
    rw [ScanScope.overNode, time]
    exact ⟨s, rfl, rfl, rfl, (List.append_nil _).symm⟩
  | some now =>
    have swept := ScanScope.overNode_of_welcoming (visit_welcomes bystander) time node s
    exact ⟨_, swept, visits_of_bystander bystander _ s⟩

omit bystander in
/-- A scan that does as the cluster says once it is let in, replies as the cluster says. -/
theorem run_acceptScan {policy : ScanPolicy} {scan : StateM Session (Except ScanStop ScanSummary)}
    {s : Session} {command : Command} (same : command.policy = .scan policy)
    (scans : ∀ u, u.clock = s.clock → ∃ t,
      scan u = ((u.cluster.attempt s.now? command).1, t) ∧ t.cluster = u.cluster ∧
        t.clock = u.clock ∧ t.rows = u.rows ++ (u.cluster.attempt s.now? command).2) :
    ∃ t, (CommandReply.summary <$> settled (acceptScan policy scan)).run s =
        ((ScanStop.reply? (s.cluster.attempted s.now? command).1.1).map .summary, t) ∧
      t.cluster = (s.cluster.attempted s.now? command).2 ∧ t.clock = s.clock ∧
      t.rows = s.rows ++ (s.cluster.attempted s.now? command).1.2 := by
  rw [Program.run_map, run_settled, Cluster.attempted, same]
  rcases accepted : s.cluster.accept (.scan policy) with ⟨e | _, c⟩
  · rw [acceptScan_of_error accepted]
    exact ⟨_, rfl, rfl, rfl, (List.append_nil _).symm⟩
  · rw [acceptScan_of_ok accepted]
    obtain ⟨t, run, cluster, clock, rows⟩ := scans { s with cluster := c } rfl
    rw [run]
    refine ⟨t, ?_, cluster, clock, rows⟩
    dsimp only
    rcases (c.attempt s.now? command).1 with (e | _) | summary <;> rfl

/-- **A scan that is looked on does what the cluster says**, whatever time the clock tells. -/
theorem run_attempt {command : Command} (scan : command.isScan = true) (s : Session) :
    ∃ t, (direct.obey handle.recorded command).run s =
        ((ScanStop.reply? (s.cluster.attempted s.now? command).1.1).map .summary, t) ∧
      t.cluster = (s.cluster.attempted s.now? command).2 ∧ t.clock = s.clock ∧
      t.rows = s.rows ++ (s.cluster.attempted s.now? command).1.2 := by
  have timely {u : Session} (clock : u.clock = s.clock) : u.now? = s.now? := by rw [now?, clock, now?]
  cases command with
  | scanAll policy ns setName =>
    refine run_acceptScan rfl fun u clock => ?_
    rw [← timely clock]
    exact overNodes_of_bystander bystander
      { ns, setName, includeBins := policy.includeBins, now? := u.now? } policy.concurrent
      (note (.scanStarted ns setName (Cluster.nodesIn cluster u).length policy.concurrent) u).2
  | scanNode policy node ns setName =>
    refine run_acceptScan rfl fun u clock => ?_
    have opened : (note (.nodeScanStarted node ns setName) u).2.cluster = u.cluster := rfl
    have named := Cluster.nodeNamed?_map cluster opened node
    rw [← timely clock, Program.step_get, Cluster.attempt, ← named]
    cases Cluster.nodeNamed? cluster u node with
    | none => exact ⟨u, rfl, rfl, rfl, (List.append_nil _).symm⟩
    | some seen =>
      exact overNode_of_bystander bystander ⟨ns, setName, policy.includeBins, u.now?⟩ seen
        (note (.nodeScanStarted node ns setName) u).2
  | _ => cases scan

/-- A scan that is looked on, at a time, delivers what the cluster says. -/
theorem run_scan {command : Command} (scan : command.isScan = true) {s : Session} {now : UInt32}
    (told : s.now? = some now) :
    ∃ t, (direct.obey handle.recorded command).run s =
        (some (.summary (s.cluster.scanned now command).1.1), t) ∧
      t.cluster = (s.cluster.scanned now command).2 ∧ t.clock = s.clock ∧
      t.rows = s.rows ++ (s.cluster.scanned now command).1.2 := by
  have run := run_attempt bystander scan s
  rw [told, Cluster.attempted_of_told] at run
  simp only [Prod.map_fst, Prod.map_snd, id_eq, ScanStop.reply?_failed] at run
  exact run

end Scan

/-! ## Observations -/

/-- Make a call, and tell its answer and the rows that it delivered, in any order. -/
def observe (call : StoreCall) (s : Session) : (StoreAnswer × Multiset ScanRow) × Session :=
  let (answer, t) := call.recorded.run { s with rows := [] }
  ((answer, t.rows), t)

/-- What is observed of a command. -/
theorem observe_command (handle : RowHandler Session) (command : Command) (s : Session) :
    (observe (.command command handle) s).1 =
      (StoreAnswer.reply ((direct.obey handle.recorded command).run { s with rows := [] }).1,
        (((direct.obey handle.recorded command).run { s with rows := [] }).2.rows : Multiset ScanRow)) := rfl

/-- What is observed of calls in a row. -/
def observeAll : List StoreCall → Session → List (StoreAnswer × Multiset ScanRow) × Session
  | [], s => ([], s)
  | call :: rest, s =>
    let (seen, t) := observe call s
    (observeAll rest t).map (seen :: ·) id

/-- A relation of sessions before the calls to come, under which a call is observed the same and which it
hands on, makes all the calls be observed the same. -/
theorem observeAll_of_step {R : List StoreCall → Session → Session → Prop}
    (step : ∀ {call rest s t}, R (call :: rest) s t →
      (observe call t).1 = (observe call s).1 ∧ R rest (observe call s).2 (observe call t).2)
    {calls : List StoreCall} {s t : Session} (related : R calls s t) :
    (observeAll calls t).1 = (observeAll calls s).1 ∧
      R [] (observeAll calls s).2 (observeAll calls t).2 := by
  induction calls generalizing s t with
  | nil => exact ⟨rfl, related⟩
  | cons call rest ih =>
    obtain ⟨seen, after⟩ := step related
    obtain ⟨others, last⟩ := ih after
    exact ⟨congrArg₂ List.cons seen others, last⟩

end Session

end RecordGate
