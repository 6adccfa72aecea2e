import RecordGate.Proofs.Session.Observation
import RecordGate.Proofs.Store.Alike

/-!
# Sharding is invisible

Stores of different sizes that start out empty answer the same calls the same, for as long as no call
names a node. The answer to a scan includes the rows that it delivered, in any order: a scan visits the
nodes one by one, and so the order of its rows does tell where they lie. One size is a single node, which
is a flat map of identities to records; every cluster is observed to be that map.
-/

namespace RecordGate
set_option autoImplicit false

namespace StoreCall

/-- No node is named, and the handler of a scan looks on. -/
def Placeless : StoreCall → Prop
  | command (.scanAll ..) handle => handle.Bystander
  | command (.scanNode ..) _ => False
  | _ => True

end StoreCall

namespace Cluster

theorem Alike.sweep {c d : Cluster} (alike : Alike c d) (scope : ScanScope) (concurrent : Bool) :
    (d.sweep scope concurrent).1 = (c.sweep scope concurrent).1 ∧
      (c.sweep scope concurrent).2.Perm (d.sweep scope concurrent).2 := by
  unfold Cluster.sweep
  cases scope.now? with
  | none => exact ⟨rfl, .refl _⟩
  | some now =>
    have perm := alike.snapshot scope.ns scope.setName now
    dsimp only
    rw [ScanSummary.ofRecords_perm perm]
    exact ⟨rfl, scope.rows_perm perm⟩

/-- Scans that come to the same, with the same rows in some order, and leave clusters alike. -/
structure AlikeScans (x y : (Except ScanStop ScanSummary × List ScanRow) × Cluster) : Prop where
  ended : y.1.1 = x.1.1
  rows : x.1.2.Perm y.1.2
  clusters : Alike x.2 y.2

theorem Alike.attempted {c d : Cluster} (alike : Alike c d) (now? : Option UInt32)
    (policy : ScanPolicy) (ns setName : String) :
    AlikeScans (c.attempted now? (.scanAll policy ns setName))
      (d.attempted now? (.scanAll policy ns setName)) := by
  have accepted := alike.accept (.scan policy)
  rw [Cluster.attempted, Cluster.attempted, Command.policy]
  rcases here : c.accept (.scan policy) with ⟨reply, c'⟩
  rcases there : d.accept (.scan policy) with ⟨reply', d'⟩
  rw [here, there] at accepted
  obtain ⟨rfl, clusters⟩ := accepted
  cases reply' with
  | error e => exact ⟨rfl, .refl _, clusters⟩
  | ok _ =>
    obtain ⟨ended, rows⟩ := clusters.sweep ⟨ns, setName, policy.includeBins, now?⟩ policy.concurrent
    exact ⟨ended, rows, clusters⟩

end Cluster

namespace Session

/-! ## Sessions alike -/

/-- Sessions at the same time over clusters alike, with the same rows in some order. -/
structure Alike (s t : Session) : Prop where
  clusters : s.cluster.Alike t.cluster
  clock : t.clock = s.clock
  rows : s.rows.Perm t.rows

/-- Runs that answer the same and leave sessions alike. -/
structure AlikeRuns {α : Type} (x y : α × Session) : Prop where
  answer : y.1 = x.1
  sessions : Alike x.2 y.2

theorem AlikeRuns.map {α β : Type} {x y : α × Session} (runs : AlikeRuns x y) (f : α → β) :
    AlikeRuns (x.map f id) (y.map f id) :=
  ⟨congrArg f runs.answer, runs.sessions⟩

namespace Alike

variable {s t : Session} (alike : Alike s t)
include alike

theorem now? : t.now? = s.now? := by
  rw [Session.now?, Session.now?, alike.clock]

theorem onCluster {α : Type} (f : Cluster → α × Cluster)
    (runs : Cluster.AlikeRuns (f s.cluster) (f t.cluster)) :
    AlikeRuns (onCluster f s) (onCluster f t) :=
  ⟨runs.answer, runs.clusters, alike.clock, alike.rows⟩

theorem obey (handle : RowHandler Session) {command : Command} (noScan : command.isScan = false) :
    AlikeRuns ((direct.obey handle command).run s) ((direct.obey handle command).run t) := by
  have accepted := alike.clusters.accept command.policy
  have answered := alike.clusters.answer (s.now?.getD 0) command
  rw [run_obey handle noScan, run_obey handle noScan, alike.now?, accepted.answer,
    alike.clusters.asksTime]
  split
  · exact ⟨rfl, accepted.clusters, alike.clock, alike.rows⟩
  · exact ⟨congrArg some answered.answer, answered.clusters, alike.clock, alike.rows⟩

theorem reach (seeds hosts : List Host) :
    AlikeRuns (reach seeds hosts s) (reach seeds hosts t) := by
  have runs := alike.clusters.connect seeds hosts
  obtain ⟨lines, reached⟩ := reach_eq seeds hosts s
  obtain ⟨lines', reached'⟩ := reach_eq seeds hosts t
  rw [reached, reached', runs.answer]
  exact ⟨rfl, runs.clusters, alike.clock, alike.rows⟩

/-- Scans of all nodes deliver the same rows, each scan in the order of its own nodes. -/
theorem scanAll {handle : RowHandler Session} (bystander : handle.Bystander) (policy : ScanPolicy)
    (ns setName : String) :
    AlikeRuns ((direct.obey handle.recorded (.scanAll policy ns setName)).run s)
      ((direct.obey handle.recorded (.scanAll policy ns setName)).run t) := by
  have scan : (Command.scanAll policy ns setName).isScan = true := rfl
  obtain ⟨u, run, cluster, clock, rows⟩ := run_attempt bystander scan s
  obtain ⟨v, run', cluster', clock', rows'⟩ := run_attempt bystander scan t
  have attempted := alike.clusters.attempted s.now? policy ns setName
  rw [alike.now?] at run' cluster' rows'
  rw [run, run', attempted.ended]
  refine ⟨rfl, ?_, ?_, ?_⟩
  · rw [cluster, cluster']
    exact attempted.clusters
  · rw [clock, clock', alike.clock]
  · rw [rows, rows']
    exact alike.rows.append attempted.rows

theorem run {call : StoreCall} (placeless : call.Placeless) :
    AlikeRuns (call.recorded.run s) (call.recorded.run t) := by
  cases call with
  | command command handle =>
    cases scan : command.isScan with
    | false => exact (alike.obey handle.recorded scan).map _
    | true =>
      cases command with
      | scanAll policy ns setName => exact (alike.scanAll placeless policy ns setName).map _
      | scanNode policy node ns setName => exact placeless.elim
      | _ => cases scan
  | corrupt key => exact (alike.onCluster (·.corrupt key) (alike.clusters.corrupt key)).map _
  | failNext e => exact ⟨rfl, alike.clusters.failNext e, alike.clock, alike.rows⟩
  | close => exact ⟨rfl, alike.clusters.setConnected false, alike.clock, alike.rows⟩
  | connect seeds hosts => exact (alike.reach seeds hosts).map _
  | clock seconds => exact ⟨rfl, alike.clusters, rfl, alike.rows⟩
  | recordCount => exact ⟨congrArg StoreAnswer.count alike.clusters.recordCount, alike⟩

end Alike

theorem Alike.observe {s t : Session} (alike : Alike s t) {call : StoreCall}
    (placeless : call.Placeless) : AlikeRuns (observe call s) (observe call t) := by
  have fresh : Alike { s with rows := [] } { t with rows := [] } :=
    ⟨alike.clusters, alike.clock, .refl _⟩
  obtain ⟨answer, sessions⟩ := fresh.run placeless
  exact ⟨Prod.ext answer (Multiset.coe_eq_coe.2 sessions.rows.symm), sessions⟩

theorem Alike.observeAll {calls : List StoreCall} (placeless : ∀ call ∈ calls, call.Placeless)
    {s t : Session} (alike : Alike s t) : AlikeRuns (observeAll calls s) (observeAll calls t) := by
  have step {call : StoreCall} {rest : List StoreCall} {s t : Session}
      (before : (∀ c ∈ call :: rest, c.Placeless) ∧ Alike s t) :
      (Session.observe call t).1 = (Session.observe call s).1 ∧
        (∀ c ∈ rest, c.Placeless) ∧ Alike (Session.observe call s).2 (Session.observe call t).2 := by
    obtain ⟨first, others⟩ := List.forall_mem_cons.1 before.1
    obtain ⟨answer, sessions⟩ := before.2.observe first
    exact ⟨answer, others, sessions⟩
  obtain ⟨answers, -, after⟩ := observeAll_of_step
    (R := fun calls s t => (∀ call ∈ calls, call.Placeless) ∧ Alike s t) step ⟨placeless, alike⟩
  exact ⟨answers, after⟩

/-- **Sharding is invisible.** -/
theorem observeAll_ofSize (n m limit : Nat) (s : Session) {calls : List StoreCall}
    (placeless : ∀ call ∈ calls, call.Placeless) :
    let (seen, t) := observeAll calls { s with cluster := .ofSize n limit }
    let (seen', t') := observeAll calls { s with cluster := .ofSize m limit }
    seen' = seen ∧ ∀ id, t'.cluster.find? id = t.cluster.find? id := by
  have start : Alike { s with cluster := .ofSize n limit } { s with cluster := .ofSize m limit } :=
    ⟨Cluster.alike_ofSize n m limit, rfl, .refl _⟩
  have runs := start.observeAll placeless
  exact ⟨runs.answer, runs.sessions.clusters.find⟩

/-- The record of the digest that repeats an octet. -/
def octetKey (octet : UInt8) : Key := .ofDigest "test" ⟨List.replicate 20 octet, rfl⟩

/-- A handler that does nothing. -/
def idly : RowHandler Session := fun _ => return .ok ()

/-- Two writes to different nodes, if there are several, and a scan. -/
def tour : List StoreCall :=
  [.command (.operate {} (octetKey 0) [.write ⟨"n", .int 1⟩]) idly,
    .command (.operate {} (octetKey 1) [.write ⟨"n", .int 2⟩]) idly,
    .command (.scanAll {} "test" "") idly]

theorem observeAll_ofSize_of_tour :
    (observeAll tour (opened 3 100 10)).2.cluster.recordCount = 2 ∧
      (observeAll tour (opened 3 100 10)).1 = (observeAll tour (opened 1 100 10)).1 := by
  have bystander : idly.Bystander := ⟨fun _ _ => rfl, fun _ _ => rfl, fun _ _ => rfl, fun _ _ => rfl⟩
  have placeless : ∀ call ∈ tour, call.Placeless :=
    List.forall_mem_cons.2 ⟨trivial, List.forall_mem_cons.2 ⟨trivial,
      List.forall_mem_cons.2 ⟨bystander, List.forall_mem_nil _⟩⟩⟩
  exact ⟨by decide +kernel, (observeAll_ofSize 1 3 100 (opened 3 100 10) placeless).1⟩

end Session

end RecordGate
