import Mathlib.Data.Multiset.Bind
import Mathlib.Data.Multiset.UnionInter
import RecordGate.Proofs.Session.GateRun
import RecordGate.Proofs.Session.Observation
import RecordGate.Proofs.Session.Soundness

/-!
# Scans through a gate are exact

A scan of all nodes through a gate hands its callback every live record of the namespace and set that is
sound, as it is stored, and each of them once, whatever calls led to the store. Scans of the nodes one by
one hand out the same rows, each at one node.
-/

namespace RecordGate
set_option autoImplicit false

/-! ## The names of nodes -/

namespace Cluster

theorem invariant_nodeNames (names : List String) : Invariant fun c => c.nodeNames = names where
  congr same nodes _ := (congrArg (List.map Node.name) nodes).trans same
  effect effect _ same := effect.names.trans same
  corrupt {c} key same := by
    rw [corrupt]
    cases c.find? key.id with
    | none => exact same
    | some r => exact (c.nodeNames_put key.id _).trans same

end Cluster

theorem Session.Reaches.nodup_nodeNames {n limit : Nat} {seconds : Int} {s : Session}
    (reaches : Reaches (opened n limit seconds) s) : s.cluster.nodeNames.Nodup := by
  have names := reaches.keeps (Cluster.invariant_nodeNames _) rfl
  rw [names]
  exact Cluster.nodup_nodeNames_ofSize n limit

/-! ## A scan through a gate -/

namespace Session

/-- A callback that keeps each row before it sees it, as a client calls it. -/
theorem handler_recorded (callback : ScanRow → Program Session Unit) :
    Gate.handler (fun row => (do keepRow row; callback row : Program Session Unit)) =
      (Gate.handler callback).recorded := by
  funext row
  exact bind_assoc (m := Program Session) _ _ _

/-- Make a scan through a gate, and tell its result and the rows that the callback was handed, in any
order. -/
def observeScan (seeds : List Host) (gate : Gate) (scan : GateScan)
    (callback : ScanRow → Program Session Unit) (s : Session) : Option CallResult × Multiset ScanRow :=
  let (result, t) := (gate.runScan (surroundings seeds) scan fun row => do
    keepRow row
    callback row).run { s with rows := [] }
  (result, t.rows)

/-- What a scan command of a gate comes to: its result, unless it crashes, and the rows that it delivers
when no row stops it. -/
def scanOutcome (gate : Gate) (s : Session) (command : Command) : Option CallResult × List ScanRow :=
  if gate.attached then
    (s.cluster.attempted s.now? command).1.map
      (fun ended => (ScanStop.reply? ended).map (.ofReply .ofSummary)) id
  else (some (.ofError Gate.notConnected), [])

section GateScan

variable {s : Session} (script : s.script = []) (seeds : List Host) (gate : Gate)
  {callback : ScanRow → Program Session Unit} (bystander : (Gate.handler callback).Bystander)
include script bystander

/-- A scan through a gate, when the callback looks on. -/
theorem run_gateScan (scan : GateScan) :
    ∃ t, (gate.runScan (surroundings seeds) scan fun row => do keepRow row; callback row).run s =
        ((scanOutcome gate s scan.command).1, t) ∧
      t.rows = s.rows ++ (scanOutcome gate s scan.command).2 := by
  let request : GateRequest Session := .scan scan fun row => do keepRow row; callback row
  -- A request reports a scan's result as its answer, which loses nothing.
  suffices asked : ∃ t, (request.run (surroundings seeds) gate).run s =
      ((scanOutcome gate s scan.command).1.map .result, t) ∧
        t.rows = s.rows ++ (scanOutcome gate s scan.command).2 by
    obtain ⟨t, run, rows⟩ := asked
    rw [GateRequest.run, Program.run_map] at run
    obtain ⟨result, left⟩ := Prod.mk.inj run
    exact ⟨t, Prod.ext (Option.map_injective (fun _ _ => GateAnswer.result.inj) result) left, rows⟩
  rw [scanOutcome]
  cases attached : gate.attached with
  | false =>
    have idle : ¬(gate.attached = true ∧ request.passes = true) := by
      rw [attached]
      exact fun issued => Bool.false_ne_true issued.1
    obtain ⟨lines, run⟩ := run_of_idle (s := s) seeds idle
    exact ⟨_, run, (List.append_nil _).symm⟩
  | true =>
    have gives : request.command? = some scan.command := rfl
    obtain ⟨before, after, run⟩ := run_of_attached script seeds attached gives
    obtain ⟨t, obeyed, -, -, rows⟩ := run_attempt bystander scan.isScan_command
      { s with lines := before, commands := s.commands ++ [scan.command] }
    have handler : Gate.handler request.callback = (Gate.handler callback).recorded :=
      handler_recorded callback
    have reads : request.answer ∘ CommandReply.summary = .result ∘ .ofReply .ofSummary := rfl
    dsimp only at run
    rw [handler, obeyed, Option.map_map, reads, ← Option.map_map] at run
    exact ⟨_, run, rows⟩

theorem observeScan_eq_outcome (scan : GateScan) :
    observeScan seeds gate scan callback s = (scanOutcome gate s scan.command).map id Multiset.ofList := by
  obtain ⟨t, run, rows⟩ := run_gateScan (s := { s with rows := [] }) script seeds gate bystander scan
  rw [observeScan, run]
  exact Prod.ext rfl (congrArg Multiset.ofList rows)

end GateScan

theorem scanOutcome_of_admits {s : Session} {now : UInt32} (admits : s.cluster.Admits)
    (told : s.now? = some now) {gate : Gate} (attached : gate.attached = true) (command : Command) :
    scanOutcome gate s command =
      (some (.ofReply .ofSummary (s.cluster.delivery now command).1), (s.cluster.delivery now command).2) := by
  rw [scanOutcome, if_pos attached, told, Cluster.attempted_of_told, Cluster.scanned_of_admits admits]
  simp only [Prod.map_apply', ScanStop.reply?_failed, Option.map_some, id_eq]

theorem observeScan_eq {s : Session} {now : UInt32} (admits : s.cluster.Admits) (told : s.now? = some now)
    (script : s.script = []) {gate : Gate} (attached : gate.attached = true) (seeds : List Host)
    {callback : ScanRow → Program Session Unit} (bystander : (Gate.handler callback).Bystander)
    (scan : GateScan) :
    observeScan seeds gate scan callback s =
      (some (.ofReply .ofSummary (s.cluster.delivery now scan.command).1),
        ((s.cluster.delivery now scan.command).2 : Multiset ScanRow)) := by
  rw [observeScan_eq_outcome script seeds gate bystander, scanOutcome_of_admits admits told attached]
  rfl

/-- **A scan of all nodes hands out every sound record that is live and of its set, and each once**; so do
the scans of the nodes, between them. -/
theorem observeScan_exact {n limit : Nat} {seconds : Int} {s : Session}
    (reaches : Reaches (opened n limit seconds) s) {now : UInt32} (told : s.now? = some now)
    (faults : s.cluster.faults = []) (script : s.script = []) {seeds : List Host} {gate : Gate}
    (connected : gate.isConnected (surroundings seeds) s = true)
    {callback : ScanRow → Program Session Unit} (bystander : (Gate.handler callback).Bystander)
    (ns setName : String) (options : Option ScanOptions) {target : ScanTarget}
    (whole : target = .cluster ∨ target = .allNodes) :
    ∃ corrupted rows,
      observeScan seeds gate ⟨target, ns, setName, options⟩ callback s =
        (some { CallResult.ok with corrupted }, rows) ∧
      (corrupted = true ↔
        ∃ digest r, s.cluster.Matches now ns setName digest r ∧ r.corrupted = true) ∧
      (∀ row, row ∈ rows ↔ ∃ r, s.cluster.Matches now ns setName row.digest r ∧ r.corrupted = false ∧
        row = ⟨ns, r.setName, row.digest, if options.all (·.includeBins) then r.bins else ∅,
          r.generation, r.expiration⟩) ∧
      (rows.map (·.digest)).Nodup ∧
      let nodeScan name := observeScan seeds gate ⟨.node name, ns, setName, options⟩ callback s
      let names := gate.nodeNames (surroundings seeds) s
      (∀ name ∈ names, ∃ damage, (nodeScan name).1 = some { CallResult.ok with corrupted := damage }) ∧
      rows = (names : Multiset String).bind (fun name => (nodeScan name).2) ∧
      names.Pairwise fun a b => Disjoint (nodeScan a).2 (nodeScan b).2 := by
  have attached : gate.attached = true := (Bool.and_eq_true_iff.1 connected).1
  have admits : s.cluster.Admits := ⟨(Bool.and_eq_true_iff.1 connected).2, faults⟩
  have names : gate.nodeNames (surroundings seeds) s = s.cluster.nodeNames := if_pos attached
  have placed := (reaches.sound (Cluster.sound_ofSize n limit)).placed
  have observed := observeScan_eq admits told script attached seeds bystander
  have bins : (ScanPolicy.ofOptions options).includeBins = options.all (·.includeBins) := by
    cases options <;> rfl
  have same : s.cluster.delivery now (GateScan.command ⟨target, ns, setName, options⟩) =
      s.cluster.delivery now (.scanAll (.ofOptions options) ns setName) := by
    rcases whole with rfl | rfl <;> rfl
  have parts :=
    Cluster.delivery_scanAll_eq_flatMap reaches.nodup_nodeNames now (.ofOptions options) ns setName
  have unique : ((s.cluster.delivery now (.scanAll (.ofOptions options) ns setName)).2.map
      (·.digest)).Nodup := Cluster.nodup_rows_snapshot placed _
  refine ⟨_, ((s.cluster.delivery now (.scanAll (.ofOptions options) ns setName)).2 :
    Multiset ScanRow), ?_, Cluster.corrupted_snapshot_iff placed, ?_, Multiset.coe_nodup.2 unique, ?_⟩
  · rw [observed, same]
    rfl
  · intro row
    rw [← bins]
    exact Cluster.mem_rows_snapshot_iff placed
  · simp only [observed, names]
    refine ⟨?_, ?_, ?_⟩
    · intro name member
      obtain ⟨node, here, rfl⟩ := List.mem_map.1 member
      refine ⟨(ScanSummary.ofRecords (node.snapshot ns setName now)).corrupted, ?_⟩
      rw [GateScan.command, Cluster.delivery, Cluster.node?_of_mem reaches.nodup_nodeNames here]
      rfl
    · rw [Multiset.coe_bind, parts]
      rfl
    · rw [parts] at unique
      have disjoint := (List.nodup_flatMap.1 unique.of_map).2
      exact disjoint.imp fun apart => (Multiset.coe_disjoint _ _).2 apart

/-- The key of a record in a small store. -/
def smallKey (octet : UInt8) : Key := ⟨"test", some "s", ⟨octet :: List.replicate 19 0, rfl⟩⟩

/-- The calls that write two records and damage the second. -/
def damage : List StoreCall :=
  let write (octet : UInt8) : StoreCall :=
    .command (.operate {} (smallKey octet) [.write ⟨"n", .int 1⟩]) fun _ => return .ok ()
  [write 0, write 1, .corrupt (smallKey 1)]

def damaged : Session := damage.foldl (fun s call => (call.run s).2) (opened 2 100 10)

theorem reaches_damaged : Reaches (opened 2 100 10) damaged :=
  (((Reaches.refl _).call (.command _ fun _ => return .ok ()) fun _ => .refl).call
    (.command _ fun _ => return .ok ()) fun _ => .refl).call (.corrupt _) fun _ => .refl

/-- A scan leaves the damaged record out and says so. -/
theorem observeScan_exact_of_damaged :
    let seen := observeScan [] { hosts := [], attached := true } ⟨.cluster, "test", "s", none⟩
      (fun _ => return ()) damaged
    seen.1 = some { CallResult.ok with corrupted := true } ∧
      (∃ row ∈ seen.2, row.digest = (smallKey 0).digest) ∧
      ∀ row ∈ seen.2, row.digest ≠ (smallKey 1).digest := by
  have told : damaged.now? = some 10 := rfl
  have connected : Gate.isConnected (surroundings []) { hosts := [], attached := true } damaged = true := rfl
  have bystander : (Gate.handler fun _ => (return () : Program Session Unit)).Bystander :=
    ⟨fun _ _ => rfl, fun _ _ => rfl, fun _ _ => rfl, fun _ _ => rfl⟩
  have placed := (reaches_damaged.sound (Cluster.sound_ofSize 2 100)).placed
  obtain ⟨corrupted, rows, observed, noted, handed, -⟩ :=
    observeScan_exact reaches_damaged told rfl rfl connected bystander "test" "s" none (.inl rfl)
  have sound : (damaged.cluster.storedAt 0 (smallKey 0).id).any
      (fun r => !r.expiredAt 10 && r.setName == "s" && !r.corrupted) = true := by decide +kernel
  have spoilt : (damaged.cluster.storedAt 1 (smallKey 1).id).any
      (fun r => !r.expiredAt 10 && r.setName == "s" && r.corrupted) = true := by decide +kernel
  simp only [Option.any_eq_true, Bool.and_eq_true, Bool.not_eq_true', beq_iff_eq] at sound spoilt
  obtain ⟨r, stored, ⟨live, set⟩, whole⟩ := sound
  obtain ⟨bad, storedBad, ⟨liveBad, setBad⟩, broken⟩ := spoilt
  rw [observed]
  refine ⟨?_, ?_, ?_⟩
  · rw [noted.2 ⟨_, bad, ⟨⟨1, storedBad⟩, liveBad, .inr setBad⟩, broken⟩]
  · exact ⟨_, (handed ⟨_, _, (smallKey 0).digest, _, _, _⟩).2
      ⟨r, ⟨⟨0, stored⟩, live, .inr set⟩, whole, rfl⟩, rfl⟩
  · intro row member same
    obtain ⟨found, sees, unspoilt, -⟩ := (handed row).1 member
    have here := sees.stored
    rw [same, Cluster.storedAt_iff_find? placed] at here
    have there := (Cluster.storedAt_iff_find? placed).1 ⟨1, storedBad⟩
    cases here.symm.trans there
    rw [unspoilt] at broken
    cases broken

end Session

end RecordGate
