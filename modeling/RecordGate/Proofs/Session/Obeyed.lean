import RecordGate.Proofs.Program
import RecordGate.Proofs.Store.Delivery
import RecordGate.Proofs.Store.Effect
import RecordGate.Session

/-!
# What an obeyed command changes in a session

A command that is no scan changes the cluster of a session and nothing else, as the cluster answers it
(`run_obey`). A scan is counted, which changes no record, and the rest of what it does is visits
(`obey_visits`): what its handler keeps, it keeps (`scan_keeps`).
-/

namespace RecordGate
set_option autoImplicit false

namespace Session

/-- `t` holds the records of `s`, and is at the same time with the same gates. -/
structure Steady (s t : Session) : Prop where
  nodes : t.cluster.nodes = s.cluster.nodes
  spared : s.cluster.Spared t.cluster
  clock : t.clock = s.clock
  gates : t.gates = s.gates
  script : t.script = s.script

theorem Steady.refl (s : Session) : Steady s s := ⟨rfl, .refl _, rfl, rfl, rfl⟩

/-! ## Commands that are no scans -/

theorem run_timed {α : Type} (policy : CommandPolicy) (asks : Cluster → Bool)
    (f : Cluster → UInt32 → Reply α × Cluster) (s : Session) :
    (timed policy asks f).run s =
      if s.now?.isNone && (s.cluster.accept policy).1.toBool && asks s.cluster then
        (none, { s with cluster := (s.cluster.accept policy).2 })
      else
        (some (f s.cluster (s.now?.getD 0)).1,
          { s with cluster := (f s.cluster (s.now?.getD 0)).2 }) := by
  have got : (get : Program Session Session).run s = (some s, s) := rfl
  rw [timed, Program.run_bind, got]
  dsimp only
  split <;> rfl

theorem run_map_timed {α : Type} (kind : Reply α → CommandReply) (policy : CommandPolicy)
    (asks : Cluster → Bool) (f : Cluster → UInt32 → Reply α × Cluster) (s : Session) :
    (kind <$> timed policy asks f).run s =
      if s.now?.isNone && (s.cluster.accept policy).1.toBool && asks s.cluster then
        (none, { s with cluster := (s.cluster.accept policy).2 })
      else
        (some (kind (f s.cluster (s.now?.getD 0)).1),
          { s with cluster := (f s.cluster (s.now?.getD 0)).2 }) := by
  rw [Program.run_map, run_timed]
  split <;> rfl

/-- A command that is no scan is answered by the cluster, unless it asks for a time that there is not. -/
theorem run_obey (handle : RowHandler Session) {command : Command} (noScan : command.isScan = false)
    (s : Session) :
    (direct.obey handle command).run s =
      if s.now?.isNone && (s.cluster.accept command.policy).1.toBool && s.cluster.asksTime command then
        (none, { s with cluster := (s.cluster.accept command.policy).2 })
      else
        (some (s.cluster.answer (s.now?.getD 0) command).1,
          { s with cluster := (s.cluster.answer (s.now?.getD 0) command).2 }) := by
  cases command with
  | get policy key selection =>
    exact run_map_timed .record (.read policy) (·.holds key) (fun c now => c.get now policy key selection) s
  | contains policy key =>
    exact run_map_timed .flag (.read policy) (·.holds key) (fun c now => c.contains now policy key) s
  | delete policy key =>
    exact run_map_timed .flag (.write policy) (·.holds key) (fun c now => c.delete now policy key) s
  | operate policy key ops =>
    exact run_map_timed .written (.write policy) (·.operateAsksTime policy key ops)
      (fun c now => c.operate now policy key ops) s
  | batchGet policy keys selection =>
    exact run_map_timed .records (.read policy) (keys.any ·.holds)
      (fun c now => c.batchGet now policy keys selection) s
  | batchContains policy keys =>
    exact run_map_timed .flags (.read policy) (keys.any ·.holds)
      (fun c now => c.batchContains now policy keys) s
  | scanAll policy ns setName => cases noScan
  | scanNode policy node ns setName => cases noScan

/-- The run of a command that is no scan. -/
inductive Obeyed (s : Session) (command : Command) : Option CommandReply × Session → Prop
  /-- The clock told no time. -/
  | crashed {d : Cluster} (nodes : d.nodes = s.cluster.nodes) (timeless : s.now? = none) :
      Obeyed s command (none, { s with cluster := d })
  | replied {d : Cluster} {reply : CommandReply}
      (effect : s.cluster.Effect (s.now?.getD 0) command reply d) :
      Obeyed s command (some reply, { s with cluster := d })

theorem obey_effect (handle : RowHandler Session) {command : Command}
    (noScan : command.isScan = false) (s : Session) :
    Obeyed s command ((direct.obey handle command).run s) ∧
      s.cluster.Spared ((direct.obey handle command).run s).2.cluster := by
  rw [run_obey handle noScan]
  split
  · next asked =>
    simp only [Bool.and_eq_true, Option.isNone_iff_eq_none] at asked
    obtain ⟨nodes, spared⟩ := s.cluster.accept_keeps command.policy
    exact ⟨.crashed nodes asked.1.1, spared⟩
  · obtain ⟨effect, spared⟩ := s.cluster.answer_effect (s.now?.getD 0) command
    exact ⟨.replied effect, spared⟩

/-! ## Scans -/

theorem run_settled (scan : StateM Session (Except ScanStop ScanSummary)) (s : Session) :
    (settled scan).run s =
      match scan s with
      | (.ok summary, t) => (some (.ok summary), t)
      | (.error (.failed e), t) => (some (.error e), t)
      | (.error .crashed, t) => (none, t) := by
  rw [settled, Program.run_bind, Program.run_lift]
  rcases scan s with ⟨(_ | _) | _, _⟩ <;> rfl

theorem settled_visits {scan : StateM Session (Except ScanStop ScanSummary)} {s t : Session}
    (after : (scan s).2 = t) : ((settled scan).run s).2 = t := by
  rw [run_settled, ← after]
  rcases scan s with ⟨(_ | _) | _, _⟩ <;> rfl

section AcceptScan

variable {policy : ScanPolicy} {scan : StateM Session (Except ScanStop ScanSummary)} {s : Session}
  {c : Cluster}

/-- A scan that is opened. -/
theorem acceptScan_of_ok (accepted : s.cluster.accept (.scan policy) = (.ok (), c)) :
    acceptScan policy scan s = scan { s with cluster := c } := by
  rw [acceptScan, Program.step_bind, onCluster, accepted]

/-- A scan that is turned away. -/
theorem acceptScan_of_error {e : ClientError}
    (refused : s.cluster.accept (.scan policy) = (.error e, c)) :
    acceptScan policy scan s = (.error (.failed e), { s with cluster := c }) := by
  rw [acceptScan, Program.step_bind, onCluster, refused]
  rfl

end AcceptScan

theorem acceptScan_visits {policy : ScanPolicy} {scan : StateM Session (Except ScanStop ScanSummary)}
    {visit : Visitor Session} (s : Session)
    (scans : ∀ t : Session, ∃ lines rows, (scan t).2 = visit.visits rows { t with lines } ∧
      visit.Shown (·.cluster.Shows ·) rows { t with lines }) :
    ∃ lines rows, ((settled (acceptScan policy scan)).run s).2 =
        visit.visits rows { s with cluster := (s.cluster.accept (.scan policy)).2, lines } ∧
      visit.Shown (·.cluster.Shows ·) rows
        { s with cluster := (s.cluster.accept (.scan policy)).2, lines } := by
  rw [settled_visits rfl]
  rcases accepted : s.cluster.accept (.scan policy) with ⟨_ | _, c⟩
  · rw [acceptScan_of_error accepted]
    exact ⟨s.lines, [], rfl, .nil⟩
  · rw [acceptScan_of_ok accepted]
    exact scans { s with cluster := c }

/-- A visit leaves the state that the handler leaves. -/
theorem visitor_snd (handle : RowHandler Session) (row : ScanRow) (s : Session) :
    (visitor handle row s).2 = ((handle row).run s).2 := by
  rw [visitor]
  rcases (handle row).run s with ⟨_ | _, _⟩ <;> rfl

/-- **A scan is visits**, after it was counted, of rows that show what is stored meanwhile. -/
theorem obey_visits (handle : RowHandler Session) {command : Command}
    (scan : command.isScan = true) (s : Session) :
    ∃ lines rows, ((direct.obey handle command).run s).2 = (visitor handle).visits rows
        { s with cluster := (s.cluster.accept command.policy).2, lines } ∧
      (visitor handle).Shown (·.cluster.Shows ·) rows
        { s with cluster := (s.cluster.accept command.policy).2, lines } := by
  cases command with
  | scanAll policy ns setName =>
    rw [RecordClient.obey, Program.run_map]
    refine acceptScan_visits s fun t => ?_
    obtain ⟨rows, visits, shown⟩ := ScanScope.overNodes_visits
      { ns, setName, includeBins := policy.includeBins, now? := t.now? } (visitor handle)
      policy.concurrent (Cluster.nodesIn cluster t)
      (note (.scanStarted ns setName (Cluster.nodesIn cluster t).length policy.concurrent) t).2
    refine ⟨_, rows, visits, shown.mono ?_⟩
    rintro v row ⟨node, member, seen⟩
    exact Cluster.shows_of_nodesIn member seen
  | scanNode policy node ns setName =>
    rw [RecordClient.obey, Program.run_map]
    refine acceptScan_visits s fun t => ?_
    rw [Program.step_get]
    cases named : Cluster.nodeNamed? cluster t node with
    | none => exact ⟨t.lines, [], rfl, .nil⟩
    | some seen =>
      obtain ⟨rows, visits, shown⟩ := ScanScope.overNode_visits
        { ns, setName, includeBins := policy.includeBins, now? := t.now? } (visitor handle) seen
        (note (.nodeScanStarted node ns setName) t).2
      exact ⟨_, rows, visits, shown.mono fun v row => Cluster.shows_of_nodeNamed? named⟩
  | _ => cases scan

/-- A scan is visits, after it was opened, of rows that show what is stored meanwhile. -/
theorem obey_shown (handle : RowHandler Session) {command : Command}
    (scan : command.isScan = true) (s : Session) :
    ∃ u rows, Steady s u ∧ u.rows = s.rows ∧
      ((direct.obey handle command).run s).2 = (visitor handle).visits rows u ∧
        (visitor handle).Shown (·.cluster.Shows ·) rows u := by
  obtain ⟨lines, rows, after, shown⟩ := obey_visits handle scan s
  obtain ⟨nodes, spared⟩ := s.cluster.accept_keeps command.policy
  have counted : Steady s { s with cluster := (s.cluster.accept command.policy).2, lines } :=
    ⟨nodes, spared, rfl, rfl, rfl⟩
  exact ⟨_, rows, counted, rfl, after, shown⟩

/-- What holds when a scan is opened, and what its handler keeps, holds when it has ended. -/
theorem scan_keeps {kept : Session → Prop} {handle : RowHandler Session}
    (keeps : ∀ row t, kept t → kept ((handle row).run t).2) {command : Command}
    (scan : command.isScan = true) {s : Session} (start : ∀ t, Steady s t → kept t) :
    kept ((direct.obey handle command).run s).2 := by
  obtain ⟨u, rows, steady, -, after, -⟩ := obey_shown handle scan s
  have visits : ∀ row t, kept t → kept (visitor handle row t).2 := by
    intro row t before
    rw [visitor_snd]
    exact keeps row t before
  rw [after]
  exact (visitor handle).visits_keeps visits rows (start u steady)

end Session

end RecordGate
