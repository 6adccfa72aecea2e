import RecordGate.Proofs.Store.Contents

/-!
# What a scan comes to

`attempt` says what a scan command comes to and which rows it delivers when no row stops it, and `delivery`
what it replies and delivers at a time. Where every record lies at its home, a scan of all nodes has one row
for each sound record that is live and in its scope (`mem_rows_snapshot_iff`, `nodup_rows_snapshot`). Where
no two nodes share a name, its rows are those of the nodes one by one (`delivery_scanAll_eq_flatMap`).
-/

namespace RecordGate
set_option autoImplicit false

namespace ScanScope

variable {scope : ScanScope} {records : List (Digest × StoredRecord)}

theorem mem_rows_iff {row : ScanRow} :
    row ∈ scope.rows records ↔
      ∃ r, (row.digest, r) ∈ records ∧ r.corrupted = false ∧ row = scope.row row.digest r := by
  simp only [rows, List.mem_map, List.mem_filter, Bool.not_eq_true']
  constructor
  · rintro ⟨⟨digest, r⟩, ⟨member, sound⟩, rfl⟩
    exact ⟨r, member, sound, rfl⟩
  · rintro ⟨r, member, sound, same⟩
    exact ⟨(row.digest, r), ⟨member, sound⟩, same.symm⟩

theorem nodup_rows (nodup : (records.map (·.1)).Nodup) : ((scope.rows records).map (·.digest)).Nodup := by
  have digests : (scope.rows records).map (·.digest) =
      (records.filter fun e => !e.2.corrupted).map (·.1) := by
    rw [rows, List.map_map]
    rfl
  rw [digests]
  exact nodup.sublist (List.filter_sublist.map _)

/-- What a scan of these records comes to, and its rows. -/
def ended (scope : ScanScope) (records : List (Digest × StoredRecord)) :
    Reply ScanSummary × List ScanRow :=
  (.ok (.ofRecords records), scope.rows records)

/-- What a scan of one node comes to, and its rows, when no row stops it. -/
def glance (scope : ScanScope) (n : Node) : Except ScanStop ScanSummary × List ScanRow :=
  match scope.now? with
  | some now => (scope.ended (n.snapshot scope.ns scope.setName now)).map (Except.mapError .failed) id
  | none => (.error .crashed, [])

end ScanScope

/-- The reply to a scan, unless it crashes. -/
def ScanStop.reply? : Except ScanStop ScanSummary → Option (Reply ScanSummary)
  | .ok summary => some (.ok summary)
  | .error (.failed e) => some (.error e)
  | .error .crashed => none

theorem ScanStop.reply?_failed (reply : Reply ScanSummary) :
    reply? (reply.mapError .failed) = some reply := by
  cases reply <;> rfl

namespace Cluster

/-- What a scan of all nodes comes to, and the rows that it delivers, when no row stops it. -/
def sweep (c : Cluster) (scope : ScanScope) (concurrent : Bool) :
    Except ScanStop ScanSummary × List ScanRow :=
  match scope.now? with
  | some now =>
    (.ok (.ofRecords (c.snapshot scope.ns scope.setName now)),
      scope.rows (c.snapshot scope.ns scope.setName now))
  | none => (.error (if concurrent then .failed ScanStop.crashed.toError else .crashed), [])

/-- The node of a name. -/
def node? (c : Cluster) (name : String) : Option Node := c.nodes.find? (·.name == name)

/-- The node that a scan finds by its name, seen in a state with the same cluster. -/
theorem nodeNamed?_map {σ : Type} (cluster : σ → Cluster) {s t : σ} (same : cluster t = cluster s)
    (name : String) : (nodeNamed? cluster s name).map (· t) = (cluster s).node? name := by
  rw [nodeNamed?, node?, List.find?_eq_bind_findIdx?_getElem?, Option.map_map]
  cases found : (cluster s).nodes.findIdx? (·.name == name) with
  | none => rfl
  | some i =>
    obtain ⟨h, -⟩ := List.findIdx?_eq_some_iff_getElem.1 found
    simp [same, List.getElem?_eq_getElem h]

/-- What a scan command comes to, and the rows that it delivers, when no row stops it. Without the time it
delivers nothing. -/
def attempt (c : Cluster) (now? : Option UInt32) : Command → Except ScanStop ScanSummary × List ScanRow
  | .scanAll policy ns setName => c.sweep ⟨ns, setName, policy.includeBins, now?⟩ policy.concurrent
  | .scanNode policy node ns setName =>
    match c.node? node with
    | some n => ScanScope.glance ⟨ns, setName, policy.includeBins, now?⟩ n
    | none => (.error (.failed (Refusal.unknownNode node).toError), [])
  | _ => (.ok {}, [])

/-- What a scan command that may be turned away comes to. -/
def attempted (c : Cluster) (now? : Option UInt32) (command : Command) :
    (Except ScanStop ScanSummary × List ScanRow) × Cluster :=
  match c.accept command.policy with
  | (.ok (), d) => (d.attempt now? command, d)
  | (.error e, d) => ((.error (.failed e), []), d)

/-- What a scan command replies, and the rows that it delivers, when no row stops it. Other commands
deliver nothing. -/
def delivery (c : Cluster) (now : UInt32) : Command → Reply ScanSummary × List ScanRow
  | .scanAll policy ns setName =>
    ScanScope.ended ⟨ns, setName, policy.includeBins, some now⟩ (c.snapshot ns setName now)
  | .scanNode policy node ns setName =>
    match c.node? node with
    | some n => ScanScope.ended ⟨ns, setName, policy.includeBins, some now⟩ (n.snapshot ns setName now)
    | none => (.error (Refusal.unknownNode node).toError, [])
  | _ => (.ok {}, [])

/-- The delivery of a scan command that may be turned away. -/
def scanned (c : Cluster) (now : UInt32) (command : Command) :
    (Reply ScanSummary × List ScanRow) × Cluster :=
  match c.accept command.policy with
  | (.ok (), d) => (d.delivery now command, d)
  | (.error e, d) => ((.error e, []), d)

/-- At a time an attempt comes to a reply. -/
theorem attempt_of_told (c : Cluster) (now : UInt32) (command : Command) :
    c.attempt (some now) command = (c.delivery now command).map (Except.mapError .failed) id := by
  cases command with
  | scanNode policy node ns setName =>
    rw [attempt, delivery]
    cases c.node? node <;> rfl
  | _ => rfl

theorem attempted_of_told (c : Cluster) (now : UInt32) (command : Command) :
    c.attempted (some now) command =
      (c.scanned now command).map (Prod.map (Except.mapError .failed) id) id := by
  rw [attempted, scanned]
  rcases c.accept command.policy with ⟨e | _, d⟩
  · rfl
  · exact congrArg (·, d) (d.attempt_of_told now command)

theorem scanned_of_admits {c : Cluster} (admits : c.Admits) (now : UInt32) (command : Command) :
    c.scanned now command = (c.delivery now command, c.counted command.policy) := by
  rw [scanned, accept_of_admits admits]
  cases command <;> rfl

/-! ## One row for each record -/

/-- A scan of a namespace and set looks at a record: it is stored under the namespace, at any place, is
live, and is of the set. Without a set name it is of any set. -/
structure Matches (c : Cluster) (now : UInt32) (ns setName : String) (digest : Digest)
    (r : StoredRecord) : Prop where
  stored : ∃ place, c.storedAt place ⟨ns, digest⟩ = some r
  live : r.expiredAt now = false
  set : setName = "" ∨ r.setName = setName

section Placed

variable {c : Cluster} (placed : c.Placed) {ns setName : String} {now : UInt32}
include placed

theorem storedAt_iff_find? {id : RecordId} {r : StoredRecord} :
    (∃ place, c.storedAt place id = some r) ↔ c.find? id = some r := by
  rw [find?_eq_storedAt]
  constructor
  · rintro ⟨place, stored⟩
    rw [← placed place id r stored, stored]
  · exact fun stored => ⟨_, stored⟩

theorem matches_iff {digest : Digest} {r : StoredRecord} :
    c.Matches now ns setName digest r ↔
      c.find? ⟨ns, digest⟩ = some r ∧ Node.scanned ns setName now ⟨ns, digest⟩ r = true := by
  simp only [Node.scanned, beq_self_eq_true, Bool.true_and, Bool.and_eq_true, Bool.or_eq_true,
    String.isEmpty_iff, beq_iff_eq, Bool.not_eq_true', ← storedAt_iff_find? placed]
  constructor
  · rintro ⟨stored, live, set⟩
    exact ⟨stored, set, live⟩
  · rintro ⟨stored, set, live⟩
    exact ⟨stored, live, set⟩

theorem mem_snapshot_iff {digest : Digest} {r : StoredRecord} :
    (digest, r) ∈ c.snapshot ns setName now ↔ c.Matches now ns setName digest r := by
  rw [snapshot_eq, matches_iff placed]
  simp only [List.mem_map, List.mem_filter, Prod.mk.injEq]
  constructor
  · rintro ⟨⟨⟨ns', digest'⟩, r'⟩, ⟨member, scanned⟩, rfl, rfl⟩
    have here : ns' = ns := by
      simp only [Node.scanned, Bool.and_eq_true, beq_iff_eq] at scanned
      exact scanned.1.1
    subst here
    exact ⟨(mem_entries_iff placed).1 member, scanned⟩
  · rintro ⟨found, scanned⟩
    exact ⟨(⟨ns, digest⟩, r), ⟨(mem_entries_iff placed).2 found, scanned⟩, rfl, rfl⟩

theorem nodup_snapshot : ((c.snapshot ns setName now).map (·.1)).Nodup := by
  rw [snapshot_eq, List.map_map]
  apply List.Nodup.map_on ?_ ((nodup_entries placed).filter _)
  rintro ⟨⟨m, digest⟩, r⟩ here ⟨⟨m', digest'⟩, r'⟩ there same
  obtain ⟨member, scanned⟩ := List.mem_filter.1 here
  obtain ⟨member', scanned'⟩ := List.mem_filter.1 there
  simp only [Node.scanned, Bool.and_eq_true, beq_iff_eq] at scanned scanned'
  obtain rfl : m = m' := scanned.1.1.trans scanned'.1.1.symm
  obtain rfl : digest = digest' := same
  have found := (mem_entries_iff placed).1 member
  rw [(mem_entries_iff placed).1 member'] at found
  rw [Option.some.inj found]

/-- A scan has a row for each record that it looks at and that passes its integrity check. -/
theorem mem_rows_snapshot_iff {scope : ScanScope} {row : ScanRow} :
    row ∈ scope.rows (c.snapshot ns setName now) ↔
      ∃ r, c.Matches now ns setName row.digest r ∧ r.corrupted = false ∧
        row = scope.row row.digest r := by
  simp only [ScanScope.mem_rows_iff, mem_snapshot_iff placed]

theorem nodup_rows_snapshot (scope : ScanScope) :
    ((scope.rows (c.snapshot ns setName now)).map (·.digest)).Nodup :=
  ScanScope.nodup_rows (nodup_snapshot placed)

/-- A scan notes damage if a record that it looks at is damaged. -/
theorem corrupted_snapshot_iff :
    (ScanSummary.ofRecords (c.snapshot ns setName now)).corrupted = true ↔
      ∃ digest r, c.Matches now ns setName digest r ∧ r.corrupted = true := by
  simp only [ScanSummary.ofRecords, List.any_eq_true, Prod.exists, mem_snapshot_iff placed]

end Placed

/-! ## Node by node -/

theorem node?_of_mem {c : Cluster} (names : c.nodeNames.Nodup) {n : Node} (member : n ∈ c.nodes) :
    c.node? n.name = some n := by
  obtain ⟨place, h, rfl⟩ := List.getElem_of_mem member
  rw [node?, List.find?_eq_some_iff_getElem]
  refine ⟨beq_self_eq_true _, place, h, rfl, ?_⟩
  intro earlier less
  have distinct := List.pairwise_iff_getElem.1 (List.pairwise_map.1 names) earlier place
    (Nat.lt_trans less h) h less
  rw [Bool.not_eq_true', beq_eq_false_iff_ne]
  exact distinct

/-- The rows of all nodes are those of the nodes one by one. -/
theorem delivery_scanAll_eq_flatMap {c : Cluster} (names : c.nodeNames.Nodup) (now : UInt32)
    (policy : ScanPolicy) (ns setName : String) :
    (c.delivery now (.scanAll policy ns setName)).2 =
      c.nodeNames.flatMap fun name => (c.delivery now (.scanNode policy name ns setName)).2 := by
  have each : ∀ n ∈ c.nodes, (c.delivery now (.scanNode policy n.name ns setName)).2 =
      ScanScope.rows ⟨ns, setName, policy.includeBins, some now⟩ (n.snapshot ns setName now) := by
    intro n member
    rw [delivery, node?_of_mem names member]
    rfl
  rw [nodeNames, List.flatMap_map, delivery, ScanScope.ended, snapshot, ScanScope.rows_flatMap]
  exact List.flatMap_congr fun n member => (each n member).symm

/-! ## Rows show what is stored -/

/-- A row shows a record that is stored. -/
def Shows (c : Cluster) (row : ScanRow) : Prop :=
  ∃ place r, ∃ scope : ScanScope,
    c.storedAt place ⟨row.ns, row.digest⟩ = some r ∧ row = scope.row row.digest r

section Sees

variable {σ : Type} {cluster : σ → Cluster} {s t : σ} {scope : ScanScope} {node : σ → Node} {row : ScanRow}

theorem shows_of_sees {place : Nat}
    (seen : scope.Sees (fun t => (cluster t).nodes.getD place default) t row) : (cluster t).Shows row := by
  obtain ⟨now, member⟩ := seen
  obtain ⟨r, copied, -, same⟩ := ScanScope.mem_rows_iff.1 member
  have found : ((cluster t).nodes.getD place default).find? ⟨scope.ns, row.digest⟩ = some r :=
    (Node.mem_snapshot_iff.1 copied).1
  refine ⟨place, r, scope, ?_, same⟩
  rw [List.getD_eq_getElem?_getD] at found
  rw [same, storedAt]
  cases there : (cluster t).nodes[place]? with
  | none =>
    rw [there] at found
    cases found
  | some n =>
    rw [there] at found
    exact found

theorem shows_of_nodesIn (member : node ∈ nodesIn cluster s) (seen : scope.Sees node t row) :
    (cluster t).Shows row := by
  obtain ⟨place, -, rfl⟩ := List.mem_map.1 member
  exact shows_of_sees seen

theorem shows_of_nodeNamed? {name : String} (found : nodeNamed? cluster s name = some node)
    (seen : scope.Sees node t row) : (cluster t).Shows row := by
  obtain ⟨place, -, rfl⟩ := Option.map_eq_some_iff.1 found
  exact shows_of_sees seen

end Sees

end Cluster

end RecordGate
