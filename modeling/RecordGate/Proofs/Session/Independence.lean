import RecordGate.Proofs.Session.GateRun
import RecordGate.Proofs.Session.StoreCall
import RecordGate.Proofs.Store.Locality

/-!
# Records are independent

A call on one record sees its record and the clock (`AgreeAt.run`), and changes no other (`agreeAt_run`). So calls
on two records can change places, and a run of calls on many records is, for each of them, the run of its own
calls (`records_independent`).
-/

namespace RecordGate
set_option autoImplicit false

theorem Command.isScan_of_keys {command : Command} {key : Key} (about : command.keys = [key]) :
    command.isScan = false := by
  cases command with
  | scanAll | scanNode => cases about
  | _ => rfl

namespace StoreCall

/-- The key of a call on one record: it damages the record, or is a command that looks under its key only. -/
def key? : StoreCall → Option Key
  | command c _ =>
    match c.keys with
    | [key] => some key
    | _ => none
  | corrupt key => some key
  | _ => none

/-- A call on one record, or one that moves the clock. -/
def Single : StoreCall → Prop
  | clock _ => True
  | call => call.key?.isSome = true

/-- Whether a call is on the record of an identity, or moves the clock. -/
def concerns (id : RecordId) : StoreCall → Bool
  | clock _ => true
  | call => call.key?.any (·.id == id)

/-- The calls on one record. -/
theorem cases_of_key? {call : StoreCall} {key : Key} (about : call.key? = some key) :
    (∃ c handle, call = command c handle ∧ c.keys = [key] ∧ c.isScan = false) ∨ call = corrupt key := by
  cases call with
  | command c handle =>
    rw [key?] at about
    split at about
    · next keys =>
      cases about
      exact .inl ⟨c, handle, rfl, keys, Command.isScan_of_keys keys⟩
    · cases about
  | corrupt key =>
    cases about
    exact .inr rfl
  | _ => cases about

theorem concerns_of_key? {call : StoreCall} {key : Key} (about : call.key? = some key) (id : RecordId) :
    call.concerns id = (key.id == id) := by
  cases call with
  | clock seconds => cases about
  | _ => exact congrArg (Option.any (·.id == id)) about

end StoreCall

namespace Session

/-- What a session answers to calls in a row, each beside its call. -/
def answered (s : Session) : List StoreCall → List (StoreCall × StoreAnswer)
  | [] => []
  | call :: rest => (call, (call.run s).1) :: answered (call.run s).2 rest

/-- The session after calls in a row. -/
def afterAll (s : Session) (calls : List StoreCall) : Session := calls.foldl (fun s call => (call.run s).2) s

/-- Sessions at the same second, over clusters that agree on an identity. -/
structure AgreeAt (id : RecordId) (s t : Session) : Prop where
  clock : t.clock = s.clock
  clusters : Cluster.AgreeAt id s.cluster t.cluster

theorem AgreeAt.symm {id : RecordId} {s t : Session} (agree : AgreeAt id s t) : AgreeAt id t s :=
  ⟨agree.clock.symm, agree.clusters.symm⟩

theorem AgreeAt.trans {id : RecordId} {s t u : Session} (first : AgreeAt id s t) (second : AgreeAt id t u) :
    AgreeAt id s u :=
  ⟨second.clock.trans first.clock, first.clusters.trans second.clusters⟩

/-! ## One call -/

section OneCall

variable {s : Session} {call : StoreCall} {key : Key} (about : call.key? = some key)

theorem AgreeAt.served {t : Session} (agree : AgreeAt key.id s t) {c : Command} (keys : c.keys = [key]) :
    Tied (Cluster.AgreeAt key.id) (s.served c) (t.served c) := by
  have accepted := agree.clusters.accept c.policy
  have asks := agree.clusters.asksTime keys
  have now : t.now? = s.now? := by rw [now?, now?, agree.clock]
  rw [Session.served, Session.served, now, accepted.answer, asks]
  split
  · exact ⟨rfl, accepted.states⟩
  · exact (agree.clusters.answer (s.now?.getD 0) keys).map some

theorem spared_served (s : Session) (c : Command) : s.cluster.Spared (s.served c).2 := by
  rw [served]
  split
  · exact (s.cluster.accept_keeps c.policy).2
  · exact (s.cluster.answer_effect (s.now?.getD 0) c).2

include about

/-- **A call on a record sees no other.** -/
theorem AgreeAt.run {t : Session} (agree : AgreeAt key.id s t) :
    (call.run t).1 = (call.run s).1 ∧ AgreeAt key.id (call.run s).2 (call.run t).2 := by
  rcases StoreCall.cases_of_key? about with ⟨c, handle, rfl, keys, noScan⟩ | rfl
  · have tied := agree.served keys
    simp only [StoreCall.run, obey_eq_served handle noScan]
    exact ⟨congrArg StoreAnswer.reply tied.answer, agree.clock, tied.states⟩
  · have tied := agree.clusters.corrupt
    exact ⟨congrArg StoreAnswer.corrupted tied.answer, agree.clock, tied.states⟩

variable (admits : s.cluster.Admits)
include admits

theorem admits_run : (call.run s).2.cluster.Admits := by
  rcases StoreCall.cases_of_key? about with ⟨c, handle, rfl, keys, noScan⟩ | rfl
  · simp only [StoreCall.run, obey_eq_served handle noScan]
    exact (spared_served s c).admits admits
  · change (s.cluster.corrupt key).2.Admits
    rw [Cluster.corrupt]
    split
    · exact ⟨admits.connected, admits.faults⟩
    · exact admits

/-- **A call on a record touches no other.** -/
theorem agreeAt_run {id : RecordId} (other : id ≠ key.id) : AgreeAt id s (call.run s).2 := by
  rcases StoreCall.cases_of_key? about with ⟨c, handle, rfl, keys, noScan⟩ | rfl
  · simp only [StoreCall.run, obey_eq_served handle noScan]
    refine ⟨rfl, ?_⟩
    dsimp only [Prod.map_snd, id_eq]
    rw [served]
    split
    · exact Cluster.agreeAt_accept admits c.policy
    · exact Cluster.agreeAt_answer other admits (s.now?.getD 0) keys
  · exact ⟨rfl, Cluster.agreeAt_corrupt other⟩

end OneCall

/-! ## Two calls -/

section TwoCalls

variable {s : Session} (admits : s.cluster.Admits) {a b : StoreCall} {ka kb : Key}
  (aboutA : a.key? = some ka) (aboutB : b.key? = some kb) (apart : ka.id ≠ kb.id)
include admits aboutA aboutB apart

/-- A call answers the same after a call on another record. -/
theorem answer_after : (a.run (b.run s).2).1 = (a.run s).1 :=
  (AgreeAt.run aboutA (agreeAt_run aboutB admits apart)).1

/-- Two calls on two records leave sessions that agree everywhere. -/
theorem agreeAt_swapped (id : RecordId) : AgreeAt id (b.run (a.run s).2).2 (a.run (b.run s).2).2 := by
  have admitsA := admits_run aboutA admits
  have admitsB := admits_run aboutB admits
  by_cases first : id = ka.id
  · subst first
    have alone := agreeAt_run aboutB admitsA apart
    have later := (AgreeAt.run aboutA (agreeAt_run aboutB admits apart)).2
    exact alone.symm.trans later
  · by_cases second : id = kb.id
    · subst second
      have alone := agreeAt_run aboutA admitsB first
      have later := (AgreeAt.run aboutB (agreeAt_run aboutA admits first)).2
      exact later.symm.trans alone
    · have left := (agreeAt_run aboutA admits first).trans (agreeAt_run aboutB admitsA second)
      have right := (agreeAt_run aboutB admits second).trans (agreeAt_run aboutA admitsB first)
      exact left.symm.trans right

theorem nodes_swapped : (b.run (a.run s).2).2.cluster.nodes = (a.run (b.run s).2).2.cluster.nodes := by
  have agree := agreeAt_swapped admits aboutA aboutB apart
  have names := (agree ka.id).clusters.names
  exact (Cluster.nodes_eq_of_storedAt names fun place id => (agree id).clusters.stored place).symm

end TwoCalls

/-! ## Calls in a row -/

/-- One call on sessions that agree on an identity. If it concerns the record they answer it the same; otherwise
the second can do without it. -/
theorem AgreeAt.step {id : RecordId} {s t : Session} (agree : AgreeAt id s t) (admits : s.cluster.Admits)
    {call : StoreCall} (single : call.Single) :
    (call.run s).2.cluster.Admits ∧
      (call.concerns id = true ∧ (call.run t).1 = (call.run s).1 ∧ AgreeAt id (call.run s).2 (call.run t).2 ∨
        call.concerns id = false ∧ AgreeAt id (call.run s).2 t) := by
  have onRecord {key : Key} (about : call.key? = some key) :
      (call.run s).2.cluster.Admits ∧
        (call.concerns id = true ∧ (call.run t).1 = (call.run s).1 ∧ AgreeAt id (call.run s).2 (call.run t).2 ∨
          call.concerns id = false ∧ AgreeAt id (call.run s).2 t) := by
    refine ⟨admits_run about admits, ?_⟩
    by_cases here : key.id = id
    · subst here
      exact .inl ⟨(StoreCall.concerns_of_key? about key.id).trans (beq_self_eq_true key.id),
        AgreeAt.run about agree⟩
    · refine .inr ⟨(StoreCall.concerns_of_key? about id).trans (beq_eq_false_iff_ne.2 here), ?_⟩
      exact (agreeAt_run about admits (Ne.symm here)).symm.trans agree
  cases call with
  | clock seconds => exact ⟨admits, .inl ⟨rfl, rfl, rfl, agree.clusters⟩⟩
  | _ => exact onRecord (Option.some_get single).symm

/-- Of calls in a row, sessions that agree on an identity answer those that concern its record the same, if one of
the sessions is given no others. -/
theorem AgreeAt.projected {id : RecordId} (calls : List StoreCall) (single : ∀ call ∈ calls, call.Single)
    {s t : Session} (agree : AgreeAt id s t) (admits : s.cluster.Admits) :
    (s.answered calls).filter (·.1.concerns id) = t.answered (calls.filter (·.concerns id)) ∧
      AgreeAt id (s.afterAll calls) (t.afterAll (calls.filter (·.concerns id))) := by
  induction calls generalizing s t with
  | nil => exact ⟨rfl, agree⟩
  | cons call rest ih =>
    obtain ⟨here, others⟩ := List.forall_mem_cons.1 single
    obtain ⟨admits, ⟨concerns, same, next⟩ | ⟨foreign, next⟩⟩ := agree.step admits here
    · obtain ⟨answers, after⟩ := ih others next admits
      rw [List.filter_cons, if_pos concerns, answered, answered, List.filter_cons, if_pos concerns, answers, same]
      exact ⟨rfl, after⟩
    · obtain ⟨answers, after⟩ := ih others next admits
      have foreign := Bool.eq_false_iff.1 foreign
      rw [List.filter_cons, if_neg foreign, answered, List.filter_cons, if_neg foreign]
      exact ⟨answers, after⟩

/-- **Records are independent.** Two calls on records of different namespaces or digests answer the same and leave
the same records, whichever comes first. Of any calls in a row, those on one record are answered as if there were
no others. -/
theorem records_independent {s : Session} (admits : s.cluster.Admits) :
    (∀ (a b : StoreCall) (ka kb : Key), a.key? = some ka → b.key? = some kb →
        (ka.ns ≠ kb.ns ∨ ka.digest ≠ kb.digest) →
      (a.run (b.run s).2).1 = (a.run s).1 ∧ (b.run (a.run s).2).1 = (b.run s).1 ∧
        (b.run (a.run s).2).2.cluster.nodes = (a.run (b.run s).2).2.cluster.nodes) ∧
    ∀ calls : List StoreCall, (∀ call ∈ calls, call.Single) → ∀ id : RecordId,
      (s.answered calls).filter (·.1.concerns id) = s.answered (calls.filter (·.concerns id)) ∧
        ∀ place, (s.afterAll calls).cluster.storedAt place id =
          (s.afterAll (calls.filter (·.concerns id))).cluster.storedAt place id := by
  constructor
  · intro a b ka kb aboutA aboutB different
    have apart : ka.id ≠ kb.id := by
      intro same
      exact different.elim (· (congrArg RecordId.ns same)) (· (congrArg RecordId.digest same))
    exact ⟨answer_after admits aboutA aboutB apart, answer_after admits aboutB aboutA apart.symm,
      nodes_swapped admits aboutA aboutB apart⟩
  · intro calls single id
    obtain ⟨answers, after⟩ := AgreeAt.projected calls single ⟨rfl, .refl id s.cluster⟩ admits
    exact ⟨answers, fun place => (after.clusters.stored place).symm⟩

/-! ## Two records of one digest -/

/-- The key of one digest in a namespace. -/
def twin (ns : String) : Key := .ofDigest ns default

def setTwin (ns : String) (n : Int64) : StoreCall :=
  .command (.operate {} (twin ns) [.write ⟨"n", .int n⟩]) fun _ => return .ok ()

def deleteTwin (ns : String) : StoreCall := .command (.delete {} (twin ns)) fun _ => return .ok ()

def twins : Session := (opened 2 1000 10).afterAll [setTwin "left" 1, setTwin "right" 2]

/-- The one twin can be written while the other is deleted. -/
theorem records_independent_of_twins :
    ((setTwin "left" 3).run ((deleteTwin "right").run twins).2).1 = ((setTwin "left" 3).run twins).1 ∧
      ((deleteTwin "right").run ((setTwin "left" 3).run twins).2).2.cluster.nodes =
        ((setTwin "left" 3).run ((deleteTwin "right").run twins).2).2.cluster.nodes ∧
      ((setTwin "left" 3).run ((deleteTwin "right").run twins).2).2.cluster.recordCount = 1 ∧
      (twins.answered [setTwin "left" 3, deleteTwin "right", .clock 20, setTwin "left" 4]).filter
          (·.1.concerns (twin "left").id) =
        twins.answered [setTwin "left" 3, .clock 20, setTwin "left" 4] := by
  have admits : twins.cluster.Admits := ⟨rfl, rfl⟩
  have different : (twin "left").ns ≠ (twin "right").ns ∨ (twin "left").digest ≠ (twin "right").digest :=
    .inl (by decide)
  obtain ⟨answer, -, nodes⟩ :=
    (records_independent admits).1 (setTwin "left" 3) (deleteTwin "right") _ _ rfl rfl different
  have single : ∀ call ∈ [setTwin "left" 3, deleteTwin "right", .clock 20, setTwin "left" 4], call.Single := by
    simp only [List.forall_mem_cons, List.not_mem_nil, false_imp_iff, implies_true, and_true]
    exact ⟨rfl, rfl, trivial, rfl⟩
  obtain ⟨answers, -⟩ := (records_independent admits).2 _ single (twin "left").id
  exact ⟨answer, nodes, by decide +kernel, answers⟩

end Session

end RecordGate
