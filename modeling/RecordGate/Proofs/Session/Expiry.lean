import RecordGate.Proofs.Session.Observation
import RecordGate.Proofs.Store.Expiry

/-!
# An expired record is no record

Two stores that differ only in records that have expired answer the same calls the same, for as long as the
clock does not go back and no call asks what is stored regardless of time. They keep differing only in
records that have expired by then: nothing of an expired record shows in a record that is written later
under its key.
-/

namespace RecordGate
set_option autoImplicit false

/-- The call does not ask what is stored regardless of time, and the handler of a scan looks on. -/
def StoreCall.Timely : StoreCall → Prop
  | command c handle => c.isScan = true → handle.Bystander
  | corrupt _ | recordCount => False
  | failNext _ | close | connect .. | clock _ => True

/-- The clock does not go back from a second on, and tells the time. -/
def Onward : Int → List StoreCall → Prop
  | _, [] => True
  | second, .clock next :: rest => second ≤ next ∧ (timeOf? next).isSome = true ∧ Onward next rest
  | second, _ :: rest => Onward second rest

namespace Session

/-- Sessions at the same second, which is a time, over stores with the same live records. -/
structure LiveAlike (second : Int) (s t : Session) : Prop where
  left : s.clock = second
  right : t.clock = second
  clusters : ∃ now, timeOf? second = some now ∧ s.cluster.LiveAlike now t.cluster
  rows : t.rows = s.rows

/-- Runs that answer the same and leave sessions with the same live records. -/
structure LiveAlikeRuns {α : Type} (second : Int) (x y : α × Session) : Prop where
  answer : y.1 = x.1
  sessions : LiveAlike second x.2 y.2

theorem LiveAlikeRuns.map {α β : Type} {second : Int} {x y : α × Session}
    (runs : LiveAlikeRuns second x y) (f : α → β) : LiveAlikeRuns second (x.map f id) (y.map f id) :=
  ⟨congrArg f runs.answer, runs.sessions⟩

namespace LiveAlike

variable {second : Int} {s t : Session} (alike : LiveAlike second s t)
include alike

/-- A command that is no scan. -/
theorem obey (handle : RowHandler Session) {command : Command} (noScan : command.isScan = false) :
    LiveAlikeRuns second ((direct.obey handle command).run s) ((direct.obey handle command).run t) := by
  obtain ⟨now, told, clusters⟩ := alike.clusters
  have here : s.now? = some now := by rw [now?, alike.left, told]
  have there : t.now? = some now := by rw [now?, alike.right, told]
  have tied := (Cluster.LiveAlike.likeness now).answer clusters command fun _ _ => trivial
  rw [run_obey handle noScan, run_obey handle noScan, here, there]
  exact ⟨congrArg some tied.answer, alike.left, alike.right, ⟨now, told, tied.states⟩, alike.rows⟩

theorem scan {handle : RowHandler Session} (bystander : handle.Bystander) {command : Command}
    (scan : command.isScan = true) :
    LiveAlikeRuns second ((direct.obey handle.recorded command).run s)
      ((direct.obey handle.recorded command).run t) := by
  obtain ⟨now, told, clusters⟩ := alike.clusters
  have here : s.now? = some now := by rw [now?, alike.left, told]
  have there : t.now? = some now := by rw [now?, alike.right, told]
  have tied := clusters.scanned command
  obtain ⟨u, run, cluster, clock, rows⟩ := run_scan bystander scan here
  obtain ⟨v, run', cluster', clock', rows'⟩ := run_scan bystander scan there
  rw [run, run', tied.answer]
  refine ⟨rfl, clock.trans alike.left, clock'.trans alike.right, ⟨now, told, ?_⟩, ?_⟩
  · rw [cluster, cluster']
    exact tied.states
  · rw [rows, rows', tied.answer, alike.rows]

theorem reach (seeds hosts : List Host) :
    LiveAlikeRuns second (reach seeds hosts s) (reach seeds hosts t) := by
  obtain ⟨now, told, clusters⟩ := alike.clusters
  have tied := (Cluster.LiveAlike.likeness now).connect clusters seeds hosts
  obtain ⟨lines, reached⟩ := reach_eq seeds hosts s
  obtain ⟨lines', reached'⟩ := reach_eq seeds hosts t
  rw [reached, reached', tied.answer]
  exact ⟨rfl, alike.left, alike.right, ⟨now, told, tied.states⟩, alike.rows⟩

theorem run {call : StoreCall} (timely : call.Timely) (noClock : ∀ next, call ≠ .clock next) :
    LiveAlikeRuns second (call.recorded.run s) (call.recorded.run t) := by
  obtain ⟨now, told, clusters⟩ := alike.clusters
  have likeness := Cluster.LiveAlike.likeness now
  cases call with
  | command command handle =>
    cases scan : command.isScan with
    | false => exact (alike.obey handle.recorded scan).map _
    | true => exact (alike.scan (timely scan) scan).map _
  | corrupt key => exact timely.elim
  | recordCount => exact timely.elim
  | failNext e =>
    exact ⟨rfl, alike.left, alike.right, ⟨now, told, likeness.failNext clusters e⟩, alike.rows⟩
  | close =>
    exact ⟨rfl, alike.left, alike.right, ⟨now, told, likeness.setConnected clusters false⟩, alike.rows⟩
  | connect seeds hosts => exact (alike.reach seeds hosts).map _
  | clock next => exact absurd rfl (noClock next)

/-- The clock goes on. -/
theorem clock {next : Int} (onward : second ≤ next) (tells : (timeOf? next).isSome = true) :
    LiveAlike next { s with clock := next } { t with clock := next } := by
  obtain ⟨now, told, clusters⟩ := alike.clusters
  obtain ⟨later, told'⟩ := Option.isSome_iff_exists.1 tells
  exact ⟨rfl, rfl, ⟨later, told', clusters.later (timeOf?_mono onward told told')⟩, alike.rows⟩

theorem cleared : LiveAlike second { s with rows := [] } { t with rows := [] } :=
  ⟨alike.left, alike.right, alike.clusters, rfl⟩

end LiveAlike

/-- Before calls that are timely and under a clock that does not go back. -/
structure InStep (calls : List StoreCall) (s t : Session) : Prop where
  timely : ∀ call ∈ calls, call.Timely
  alike : ∃ second, Onward second calls ∧ LiveAlike second s t

theorem InStep.observe {call : StoreCall} {rest : List StoreCall} {s t : Session}
    (before : InStep (call :: rest) s t) :
    (observe call t).1 = (observe call s).1 ∧ InStep rest (observe call s).2 (observe call t).2 := by
  obtain ⟨first, others⟩ := List.forall_mem_cons.1 before.timely
  obtain ⟨second, onward, alike⟩ := before.alike
  by_cases moves : ∃ next, call = .clock next
  · obtain ⟨next, rfl⟩ := moves
    exact ⟨rfl, others, next, onward.2.2, alike.cleared.clock onward.1 onward.2.1⟩
  · have noClock : ∀ next, call ≠ .clock next := fun next is => moves ⟨next, is⟩
    have going : Onward second rest := by
      cases call with
      | clock next => exact absurd rfl (noClock next)
      | _ => exact onward
    obtain ⟨answer, sessions⟩ := alike.cleared.run first noClock
    refine ⟨Prod.ext answer ?_, others, second, going, sessions⟩
    exact congrArg (Multiset.ofList ·) sessions.rows

/-- **An expired record is no record.** -/
theorem observeAll_of_liveAlike {s : Session} {now : UInt32} (told : s.now? = some now) {c : Cluster}
    (alike : s.cluster.LiveAlike now c) {calls : List StoreCall}
    (timely : ∀ call ∈ calls, call.Timely) (onward : Onward s.clock calls) :
    let (seen, t) := observeAll calls s
    let (seen', t') := observeAll calls { s with cluster := c }
    seen' = seen ∧ ∃ later, t.now? = some later ∧ t.cluster.LiveAlike later t'.cluster := by
  have start : InStep calls s { s with cluster := c } :=
    ⟨timely, s.clock, onward, rfl, rfl, ⟨now, told, alike⟩, rfl⟩
  obtain ⟨answers, -, last, -, after⟩ := observeAll_of_step InStep.observe start
  obtain ⟨later, told', clusters⟩ := after.clusters
  refine ⟨answers, later, ?_, clusters⟩
  rw [now?, after.left, told']

/-- A cluster whose one record expired at second 5, damaged and under another set. -/
def stale : Cluster := (Cluster.ofSize 2 100).put ⟨"test", default⟩
  { setName := "old", generation := 7, expiration := 5, duplicates := [∅], corrupted := true }

/-- The key of the stale record is read, written for a while, and read again once that is over. -/
def revival : List StoreCall :=
  let handle : RowHandler Session := fun _ => return .ok ()
  let key := Key.ofDigest "test" default
  [.command (.get {} key .all) handle,
    .command (.operate { expiration := 10 } key [.write ⟨"n", .int 1⟩]) handle,
    .command (.scanAll {} "test" "") handle, .clock 20, .command (.delete {} key) handle]

/-- It makes no difference whether the stale record is there. -/
theorem observeAll_of_liveAlike_of_revival :
    stale.recordCount = 1 ∧ (stale.erase ⟨"test", default⟩).recordCount = 0 ∧
      (observeAll revival { cluster := stale.erase ⟨"test", default⟩, clock := 10, seeds := [] }).1 =
        (observeAll revival { cluster := stale, clock := 10, seeds := [] }).1 := by
  have erased (place : Nat) (id : RecordId) :
      (stale.erase ⟨"test", default⟩).storedAt place id = stale.storedAt place id ∨
        (stale.erase ⟨"test", default⟩).storedAt place id = none ∧
          ∃ r, stale.storedAt place id = some r ∧ r.expiredAt 10 = true := by
    rw [Cluster.storedAt_erase, stale, Cluster.storedAt_put, Cluster.home_put]
    split
    · exact .inr ⟨rfl, _, rfl, rfl⟩
    · exact .inl rfl
  have alike : stale.LiveAlike 10 (stale.erase ⟨"test", default⟩) :=
    Cluster.liveAlike_of_erased (stale.nodeNames_erase _) erased rfl rfl rfl
  have timely : ∀ call ∈ revival, call.Timely := by
    have bystander : RowHandler.Bystander fun _ => return .ok () :=
      ⟨fun _ _ => rfl, fun _ _ => rfl, fun _ _ => rfl, fun _ _ => rfl⟩
    intro call member
    simp only [revival, List.mem_cons, List.not_mem_nil, or_false] at member
    rcases member with rfl | rfl | rfl | rfl | rfl
    · exact fun _ => bystander
    · exact fun _ => bystander
    · exact fun _ => bystander
    · trivial
    · exact fun _ => bystander
  have onward : Onward 10 revival := ⟨by decide, rfl, trivial⟩
  have told : Session.now? { cluster := stale, clock := 10, seeds := [] } = some 10 := rfl
  exact ⟨by decide +kernel, by decide +kernel, (observeAll_of_liveAlike told alike timely onward).1⟩

end Session

end RecordGate
