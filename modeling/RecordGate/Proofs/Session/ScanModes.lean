import RecordGate.Proofs.Session.Observation
import RecordGate.Proofs.Session.ScanExactness

/-!
# Scans in turn and at once

A scan of all nodes answers alike whether the nodes are scanned in turn or at once, when its handler answers
each row by a verdict: the summary of all records where no row fails, and else the failure of the first row that
fails, of the first node that has one. At once it may hand over more rows, for then a node is scanned to its own
end whatever the others come to.
-/

namespace RecordGate
set_option autoImplicit false

namespace Session

section Judged

variable {handle : RowHandler Session} {verdict : Verdict} (judges : handle.Judges verdict)
  {s : Session} {now : UInt32} (told : s.now? = some now) (policy : ScanPolicy) (ns setName : String)
include judges told

/-- A scan of all nodes that is let in, under a verdict. -/
theorem scanAll_of_judges {c : Cluster} (accepted : s.cluster.accept (.scan policy) = (.ok (), c)) :
    let scope : ScanScope := ⟨ns, setName, policy.includeBins, some now⟩
    let rows := s.cluster.nodes.map fun n => scope.rows (n.snapshot ns setName now)
    ∃ t, scanAll policy ns setName (visitor handle.recorded) s =
        ((ScanSummary.ofRecords (s.cluster.snapshot ns setName now)).barring
          (rows.findSome? verdict.first?), t) ∧
      t.rows = s.rows ++
        if policy.concurrent then rows.flatMap verdict.handed else verdict.handed rows.flatten := by
  intro scope rows
  have kept := (s.cluster.accept_keeps (.scan policy)).1
  rw [accepted] at kept
  let u : Session := { s with cluster := c }
  let v : Session := (note (.scanStarted ns setName (Cluster.nodesIn cluster u).length policy.concurrent) u).2
  have timely : scope.now? = some now := rfl
  obtain ⟨t, swept, handed⟩ := overNodes_of_judges judges timely policy.concurrent v
  have nodes : v.cluster.nodes = s.cluster.nodes := kept
  rw [Cluster.snapshot, nodes, Verdict.first?_flatten] at swept
  rw [nodes] at handed
  refine ⟨t, ?_, handed⟩
  rw [scanAll, acceptScan_of_ok accepted, Cluster.snapshot, ← swept]
  have same : scope = ⟨ns, setName, policy.includeBins, u.now?⟩ := by
    rw [show u.now? = some now from told]
  rw [same]
  rfl

/-- What is observed of a scan of all nodes under a verdict. -/
theorem observe_scanAll :
    let scope : ScanScope := ⟨ns, setName, policy.includeBins, some now⟩
    let rows := s.cluster.nodes.map fun n => scope.rows (n.snapshot ns setName now)
    (observe (.command (.scanAll policy ns setName) handle) s).1 =
      match (s.cluster.accept (.scan policy)).1 with
      | .error e => (.reply (some (.summary (.error e))), 0)
      | .ok () =>
        (.reply (some (.summary (match rows.findSome? verdict.first? with
          | some e => .error e
          | none => .ok (.ofRecords (s.cluster.snapshot ns setName now))))),
          (if policy.concurrent then rows.flatMap verdict.handed else verdict.handed rows.flatten :
            List ScanRow)) := by
  intro scope rows
  have scans : direct.obey handle.recorded (.scanAll policy ns setName) =
      CommandReply.summary <$> settled (scanAll policy ns setName (visitor handle.recorded)) := rfl
  rw [observe_command, scans, Program.run_map, run_settled]
  rcases accepted : s.cluster.accept (.scan policy) with ⟨e | _, c⟩
  · have refused : ({ s with rows := [] } : Session).cluster.accept (.scan policy) = (.error e, c) := accepted
    rw [scanAll, acceptScan_of_error refused]
    rfl
  · obtain ⟨t, scanned, handed⟩ :=
      scanAll_of_judges (s := { s with rows := [] }) judges told policy ns setName accepted
    change _ = ((ScanSummary.ofRecords _).barring (rows.findSome? verdict.first?), t) at scanned
    rw [scanned]
    cases rows.findSome? verdict.first? <;> exact Prod.ext rfl (congrArg Multiset.ofList handed)

end Judged

/-- **Scanning in turn and at once answer alike**, under any verdict on the rows, and in turn no more rows are
handed over than at once. -/
theorem scan_modes_agree {handle : RowHandler Session} {verdict : Verdict} (judges : handle.Judges verdict)
    {s : Session} {now : UInt32} (told : s.now? = some now) (policy : ScanPolicy) (ns setName : String) :
    let scan concurrent := (observe (.command (.scanAll { policy with concurrent } ns setName) handle) s).1
    let scope : ScanScope := ⟨ns, setName, policy.includeBins, some now⟩
    let rows (n : Node) := scope.rows (n.snapshot ns setName now)
    let failing := s.cluster.nodes.findSome? fun n => verdict.first? (rows n)
    (scan true).1 = (scan false).1 ∧ (scan false).2 ≤ (scan true).2 ∧
      (scan false).1 = .reply (some (.summary do
        (s.cluster.accept (.scan policy)).1
        match failing with
        | some e => .error e
        | none => .ok (.ofRecords (s.cluster.snapshot ns setName now)))) := by
  intro scan scope rows failing
  have observed concurrent := observe_scanAll judges told { policy with concurrent } ns setName
  have accept concurrent := s.cluster.accept_fst (.scan { policy with concurrent }) (.scan policy)
  simp only [accept, List.findSome?_map, Function.comp_def] at observed
  -- Both modes are turned away alike; once let in, they differ in the rows alone.
  generalize (s.cluster.accept (.scan policy)).1 = accepted at observed ⊢
  cases accepted with
  | error e =>
    have refused concurrent : scan concurrent = (.reply (some (.summary (.error e))), 0) := observed concurrent
    rw [refused, refused]
    exact ⟨rfl, le_refl _, rfl⟩
  | ok _ =>
    have answer concurrent : (scan concurrent).1 = .reply (some (.summary (match failing with
        | some e => .error e
        | none => .ok (.ofRecords (s.cluster.snapshot ns setName now))))) :=
      congrArg Prod.fst (observed concurrent)
    have inTurn : (scan false).2 = verdict.handed (s.cluster.nodes.map rows).flatten :=
      congrArg Prod.snd (observed false)
    have atOnce : (scan true).2 = (s.cluster.nodes.map rows).flatMap verdict.handed :=
      congrArg Prod.snd (observed true)
    refine ⟨(answer true).trans (answer false).symm, ?_, answer false⟩
    rw [inTurn, atOnce, Multiset.coe_le]
    exact (verdict.handed_flatten_sublist _).subperm

/-- A store with a record at each of two nodes. -/
def spread : Session :=
  let write (octet : UInt8) : StoreCall :=
    .command (.operate {} (smallKey octet) [.write ⟨"n", .int 1⟩]) fun _ => return .ok ()
  [write 0, write 1].foldl (fun s call => (call.run s).2) (opened 2 100 10)

/-- The verdict that fails on every row, with the octet in which small keys differ. -/
def unwelcome (row : ScanRow) : Reply Unit := .error ⟨row.digest.first.toUInt32.toInt32, "unwelcome"⟩

/-- Where both nodes fail, the failure of the first node is the answer, and a scan in turn never gets to the
second. -/
theorem scan_modes_agree_of_spread :
    let scan concurrent :=
      (observe (.command (.scanAll { concurrent } "test" "s") fun row => return unwelcome row) spread).1
    (scan true).1 = .reply (some (.summary (.error ⟨0, "unwelcome"⟩))) ∧ (scan false).1 = (scan true).1 ∧
      (scan false).2 ≤ (scan true).2 ∧ (scan false).2.card = 1 ∧ (scan true).2.card = 2 := by
  have judges : RowHandler.Judges (fun row => return unwelcome row) unwelcome :=
    ⟨fun _ _ => rfl, fun _ _ => rfl, fun _ _ => rfl⟩
  have told : spread.now? = some 10 := rfl
  obtain ⟨same, fewer, answer⟩ := scan_modes_agree judges told {} "test" "s"
  have failing : (spread.cluster.nodes.findSome? fun n =>
      Verdict.first? unwelcome (ScanScope.rows ⟨"test", "s", true, some 10⟩ (n.snapshot "test" "s" 10))) =
        some ⟨0, "unwelcome"⟩ := by decide +kernel
  have accepted : (spread.cluster.accept (.scan {})).1 = .ok () := rfl
  rw [failing, accepted] at answer
  exact ⟨same.trans answer, same.symm, fewer, by decide +kernel, by decide +kernel⟩

end Session

end RecordGate
