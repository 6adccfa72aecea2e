import Mathlib.Algebra.Order.Ring.Int
import RecordGate.Proofs.Session.LostUpdate
import RecordGate.Proofs.Session.Reading
import RecordGate.Proofs.Session.Soundness
import RecordGate.Proofs.Store.Counter

/-!
# Counters lose no increment

Gates add to a bin that holds an integer, while other calls do with the record what they like but write that
bin, delete the record or let it expire. Every addition succeeds, the writes of the record are counted by the
generations that they return, and the bin holds in the end what was added to it, whatever the order
(`counters_lose_no_increment`). One event adds its part (`Event.counted`), and a run the sum
(`Run.counted`).
-/

namespace RecordGate
set_option autoImplicit false

/-- The command that a data call gives. -/
def DataCall.command? : DataCall → Option Command
  | gate _ call => call.command?
  | command c _ => some c

/-- The generation that an answer carries. -/
def DataAnswer.generation? : DataAnswer → Option UInt32
  | gate (some (some (.result r))) => r.generation
  | command (some (.written (.ok record))) => some record.generation
  | _ => none

theorem GateCall.generation_ofWritten (call : GateCall) (record : Record) :
    (call.ofWritten record).generation = some record.generation := by
  unfold GateCall.ofWritten
  split
  · rfl
  · split
    · rfl
    · exact CallResult.generation_ofRecord record
  · exact CallResult.generation_ofRecord record

namespace Cluster

/-- A write of a live record is refused, or the record that it leaves is stored and returned. -/
theorem refused_or_stored {c : Cluster} (admits : c.Admits) {now : UInt32} {command : Command} {id : RecordId}
    {r : StoredRecord} (live : c.live? now id = some r) (writes : command.writes id = true) :
    (∃ refusal : Refusal, (c.answer now command).1 = .written (.error refusal.toError)) ∨
      ∃ policy key ops next, command = .operate policy key ops ∧
        (c.answer now command).2.find? id = some next ∧
        Written (some r) (key.setName.getD "") policy ops c.recordLimit now next ∧
        (c.answer now command).1 = .written (.ok (next.view (Operation.selection ops))) := by
  have replied : ∃ outcome : Except Refusal Record,
      (c.answer now command).1 = .written (outcome.mapError Refusal.toError) :=
    Session.answer_of_writes admits writes
  obtain ⟨outcome, replied⟩ := replied
  cases outcome with
  | error refusal => exact .inl ⟨refusal, replied⟩
  | ok record =>
    have ok : (c.answer now command).1.isOk = true := by
      rw [replied]
      rfl
    obtain ⟨policy, key, ops, next, same, found, written, reply⟩ :=
      (c.answer_effect now command).1.stored writes ok
    rw [live] at written
    exact .inr ⟨policy, key, ops, next, same, found, written, reply⟩

end Cluster

namespace Event

/-- What a gate that holds a client adds to a bin of the record of an identity, without options. -/
def delta? (id : RecordId) (name : String) (e : Event) : Option Int64 :=
  match e.call with
  | .gate gate (.write .add key [⟨bin, .int delta⟩] _ none) =>
    if key.id = id ∧ bin = name ∧ (e.before.gates.get? gate).any (·.gate.attached) = true then some delta
    else none
  | _ => none

/-- Whether an event has a say in a bin of the record of an identity: it writes the record, and the bin in it. -/
def writesBin (id : RecordId) (name : String) (e : Event) : Bool :=
  e.wrote id && (e.before.live? id).any fun r => e.call.command?.any (·.writesBin name r.generation)

/-- An event that adds to a bin. -/
theorem call_of_delta? {e : Event} {id : RecordId} {name : String} {delta : Int64}
    (adds : e.delta? id name = some delta) :
    ∃ gate key tx g, e.call = .gate gate (.write .add key [⟨name, .int delta⟩] tx none) ∧ key.id = id ∧
      e.before.gates.get? gate = some g ∧ g.gate.attached = true := by
  obtain ⟨s, call⟩ := e
  rw [delta?] at adds
  split at adds
  · next gate key bin delta tx same =>
    split at adds
    · next here =>
      obtain ⟨id, bin, found⟩ := here
      obtain ⟨g, found, attached⟩ := (Option.any_eq_true _ _).1 found
      cases adds
      subst bin
      exact ⟨gate, key, tx, g, same, id, found, attached⟩
    · cases adds
  · cases adds

section Answer

variable {e : Event} (ready : e.before.Ready) {id : RecordId} {r : StoredRecord}
  (live : e.before.live? id = some r)
include ready live

/-- What an event leaves behind that writes a live record, and the generation that it returns. -/
theorem stored_of_wrote (wrote : e.wrote id = true) :
    ∃ policy key ops next setName limit now, e.call.command? = some (.operate policy key ops) ∧
      e.after.cluster.find? id = some next ∧ Written (some r) setName policy ops limit now next ∧
      e.answer.generation? = some next.generation := by
  obtain ⟨s, call⟩ := e
  obtain ⟨writes, ok⟩ := Bool.and_eq_true_iff.1 wrote
  obtain ⟨now, told, live⟩ := Option.bind_eq_some_iff.1 live
  rw [answer] at ok ⊢
  rw [after]
  cases call with
  | gate name call =>
    cases found : s.gates.get? name with
    | none =>
      rw [DataCall.run, Session.run_call, found] at ok
      cases ok
    | some g =>
      obtain ⟨command, gives, writes⟩ := (Option.any_eq_true _ _).1 writes
      rw [Session.run_gate found] at ok ⊢
      cases attached : g.gate.attached with
      | false =>
        have failed := (Session.answers_run g.seeds g.gate call ready.script).answer
        rw [Session.outcome, gives, attached] at failed
        rw [Prod.map_fst, failed] at ok
        exact Bool.noConfusion ((Session.isOk_failed call).symm.trans ok)
      | true =>
        obtain ⟨t, run, atop⟩ := Session.run_of_told told ready.script attached g.seeds gives
        rw [run] at ok ⊢
        rcases Cluster.refused_or_stored ready.admits live writes with
          ⟨refusal, refused⟩ | ⟨policy, key, ops, next, rfl, stored, written, replied⟩
        · rw [refused] at ok
          exact Bool.noConfusion ((Session.isOk_ofError refusal).symm.trans ok)
        · refine ⟨policy, key, ops, next, _, _, _, gives, ?_, written, ?_⟩
          · dsimp only [Prod.map_snd, id_eq]
            rw [atop.cluster]
            exact stored
          · rw [replied]
            exact call.generation_ofWritten _
  | command c noScan =>
    have run : (DataCall.command c noScan).run s =
        (.command (some (s.cluster.answer now c).1), { s with cluster := (s.cluster.answer now c).2 }) := by
      rw [DataCall.run, Session.obey_eq_served _ noScan, Session.served_of_told told]
      rfl
    rw [run] at ok ⊢
    rcases Cluster.refused_or_stored ready.admits live writes with
      ⟨refusal, refused⟩ | ⟨policy, key, ops, next, rfl, stored, written, replied⟩
    · rw [refused] at ok
      cases ok
    · refine ⟨policy, key, ops, next, _, _, _, rfl, stored, written, ?_⟩
      rw [replied]
      rfl

/-- An event that does not write a bin of a live record leaves what it holds. -/
theorem kept_of_spared {name : String} (spares : e.writesBin id name = false)
    (there : (e.after.cluster.find? id).isSome = true) :
    ∃ next, e.after.cluster.find? id = some next ∧ next.bins.get? name = r.bins.get? name := by
  cases wrote : e.wrote id with
  | true =>
    obtain ⟨policy, key, ops, next, _, _, _, gives, found, written, -⟩ := stored_of_wrote ready live wrote
    rw [writesBin, wrote, live, gives, Bool.true_and, Option.any_some, Option.any_some] at spares
    exact ⟨next, found, written.spared spares⟩
  | false =>
    have sequel := (Session.passed_run e.call ready).sequel live
    have unwritten : (e.call.writes id && (e.call.run e.before).1.isOk) = false := wrote
    rw [unwritten] at sequel
    cases sequel with
    | kept found => exact ⟨r, found, rfl⟩
    | gone missing =>
      rw [after, missing] at there
      cases there

end Answer

/-! ## One event -/

section Counting

variable {e : Event} (ready : e.before.Ready) {count limit : Nat} (sound : e.before.cluster.Sound count limit)
  {id : RecordId} {r : StoredRecord} (live : e.before.live? id = some r) {name : String} {n : Int64}
  (held : r.bins.get? name = some (.int n))
include ready sound live held

/-- **Every addition succeeds.** -/
theorem wrote_of_delta? {delta : Int64} (adds : e.delta? id name = some delta) : e.wrote id = true := by
  obtain ⟨gate, key, tx, g, call, here, found, attached⟩ := call_of_delta? adds
  obtain ⟨s, _⟩ := e
  cases call
  subst here
  obtain ⟨now, told, live⟩ := Option.bind_eq_some_iff.1 live
  have gives : (GateCall.write .add key [⟨name, .int delta⟩] tx none).command? =
      some (.operate (.ofOptions tx none) key (additionOf name delta)) := rfl
  have fits : r.size ≤ s.cluster.recordLimit := by
    rw [sound.recordLimit]
    exact (sound.live live).size
  have merges : (WritePolicy.ofOptions tx none).existence = .update := rfl
  have unchecked : (WritePolicy.ofOptions tx none).generationCheck = .unchecked := rfl
  obtain ⟨record, added⟩ := Cluster.operate_of_add held delta merges unchecked ready.admits live fits
  obtain ⟨t, run, -⟩ := Session.run_of_told told ready.script attached g.seeds gives
  have reply : (s.cluster.answer now (.operate (.ofOptions tx none) key (additionOf name delta))).1 =
      .written (.ok record) := congrArg CommandReply.written added
  rw [reply] at run
  have answer : Event.answer ⟨s, .gate gate (.write .add key [⟨name, .int delta⟩] tx none)⟩ =
      .gate (some (some (.result (.ofHeader record)))) := by
    rw [Event.answer, Session.run_gate found, run]
    rfl
  rw [wrote, answer]
  exact Bool.and_eq_true_iff.2 ⟨beq_self_eq_true key.id, rfl⟩

/-- **An event adds its part** to a bin, if it does not otherwise write it. -/
theorem counted (there : (e.after.cluster.find? id).isSome = true)
    (spares : e.delta? id name = none → e.writesBin id name = false) :
    ∃ next, e.after.cluster.find? id = some next ∧
      next.bins.get? name = some (.int (n + (e.delta? id name).getD 0)) := by
  cases adds : e.delta? id name with
  | some delta =>
    have wrote := wrote_of_delta? ready sound live held adds
    obtain ⟨policy, key, ops, next, _, _, _, gives, found, written, -⟩ := stored_of_wrote ready live wrote
    obtain ⟨gate, key', tx, g, call, -, -, -⟩ := call_of_delta? adds
    rw [call] at gives
    cases gives
    exact ⟨next, found, Written.added held delta rfl rfl written⟩
  | none =>
    obtain ⟨next, found, kept⟩ := kept_of_spared ready live (spares adds) there
    rw [Option.getD_none, Int64.add_zero]
    exact ⟨next, found, kept.trans held⟩

end Counting

end Event

namespace Session

/-! ## Runs -/

/-- A command keeps an invariant of the store. -/
theorem keeps_served {Kept : Cluster → Prop} (invariant : Cluster.Invariant Kept) {s : Session}
    (command : Command) (start : Kept s.cluster) : Kept (s.served command).2 := by
  rw [served]
  split
  · obtain ⟨nodes, spared⟩ := s.cluster.accept_keeps command.policy
    exact invariant.congr start nodes spared.recordLimit
  · obtain ⟨effect, spared⟩ := s.cluster.answer_effect (s.now?.getD 0) command
    exact invariant.effect effect spared start

/-- A data call keeps an invariant of the store. -/
theorem keeps_call {Kept : Cluster → Prop} (invariant : Cluster.Invariant Kept) (call : DataCall) {s : Session}
    (script : s.script = []) (start : Kept s.cluster) : Kept (call.run s).2.cluster := by
  cases call with
  | gate name call =>
    cases found : s.gates.get? name with
    | none =>
      rw [DataCall.run, run_call, found]
      exact start
    | some g =>
      rw [run_gate found]
      have atop := (answers_run g.seeds g.gate call script).atop
      dsimp only [Prod.map_snd, id_eq]
      rw [atop.cluster, outcome]
      split
      · exact start
      · split
        · exact keeps_served invariant _ start
        · exact start
  | command c noScan =>
    rw [DataCall.run, obey_eq_served _ noScan]
    exact keeps_served invariant c start

/-- **A run keeps an invariant of the store.** -/
theorem Run.keeps {Kept : Cluster → Prop} (invariant : Cluster.Invariant Kept) {s t : Session}
    {events : List Event} (run : Run s events t) (ready : s.Ready) (start : Kept s.cluster) :
    Kept t.cluster := by
  induction run with
  | start => exact start
  | call run call ih => exact keeps_call invariant call (run.ready ready).script ih
  | aside run nodes spared script ih => exact invariant.congr ih nodes spared.recordLimit

section Counter

variable {s t : Session} {events : List Event} (run : Run s events t) (ready : s.Ready)
  {count limit : Nat} (sound : s.cluster.Sound count limit) {id : RecordId} {r : StoredRecord}
  (found : s.cluster.find? id = some r) (stays : ∀ e ∈ events, (e.before.live? id).isSome = true)
  {name : String} {n : Int64} (held : r.bins.get? name = some (.int n))
include run ready sound found stays held

/-- **A run adds the sum** to a bin, if it does not otherwise write it. -/
theorem Run.counted (spares : ∀ e ∈ events, e.delta? id name = none → e.writesBin id name = false)
    (there : (t.cluster.find? id).isSome = true) :
    ∃ next m, t.cluster.find? id = some next ∧ next.bins.get? name = some (.int m) ∧
      m.toInt = (n.toInt + ((events.filterMap (·.delta? id name)).map Int64.toInt).sum).bmod (2 ^ 64) := by
  induction run with
  | start => exact ⟨r, n, found, held, by simp⟩
  | @call past u run call ih =>
    obtain ⟨earlier, now⟩ := List.forall_mem_append.1 stays
    obtain ⟨sparedEarlier, spared⟩ := List.forall_mem_append.1 spares
    obtain ⟨before, live⟩ := Option.isSome_iff_exists.1 (now _ List.mem_cons_self)
    have foundBefore := found_of_live live
    obtain ⟨same, m, found', held', sum⟩ := ih earlier sparedEarlier (by rw [foundBefore]; rfl)
    cases foundBefore.symm.trans found'
    have soundBefore := run.keeps Cluster.invariant_sound ready sound
    obtain ⟨next, foundAfter, heldAfter⟩ := Event.counted (e := ⟨u, call⟩) (run.ready ready) soundBefore live
      held' there (spared _ List.mem_cons_self)
    refine ⟨next, _, foundAfter, heldAfter, ?_⟩
    rw [Int64.toInt_add, sum, Int.bmod_add_bmod, List.filterMap_append, List.map_append, List.sum_append,
      Int.add_assoc]
    cases adds : Event.delta? id name ⟨u, call⟩ with
    | none => simp [adds]
    | some delta => simp [adds]
  | aside run nodes spared script ih =>
    have same := Cluster.find?_congr nodes id
    rw [same] at there ⊢
    exact ih stays spares there

end Counter

/-- The generation that a write returns tells how many writes there were. -/
theorem Run.generation_of_wrote {s t : Session} {past future : List Event} {e : Event}
    (run : Run s (past ++ e :: future) t) (ready : s.Ready) {id : RecordId} {r : StoredRecord}
    (found : s.cluster.find? id = some r)
    (stays : ∀ e' ∈ past ++ e :: future, (e'.before.live? id).isSome = true) (wrote : e.wrote id = true) :
    e.answer.generation? = some (nextGeneration^[past.countP (·.wrote id) + 1] r.generation) := by
  obtain ⟨earlier, later⟩ := List.forall_mem_append.1 stays
  obtain ⟨before, live⟩ := Option.isSome_iff_exists.1 (later e List.mem_cons_self)
  have foundBefore := found_of_live live
  obtain ⟨same, found', generation⟩ := run.before.generation ready found earlier (by rw [foundBefore]; rfl)
  cases foundBefore.symm.trans found'
  obtain ⟨_, _, _, next, _, _, _, -, -, written, returned⟩ :=
    Event.stored_of_wrote (run.before.ready ready) live wrote
  rw [returned, written.generation, Option.map_some, Option.getD_some, generation, Function.iterate_succ_apply']

/-- **Counters lose no increment.** -/
theorem counters_lose_no_increment {nodes limit : Nat} {seconds : Int} {s t : Session}
    (reaches : Reaches (opened nodes limit seconds) s) (ready : s.Ready) {id : RecordId} {r : StoredRecord}
    (live : s.live? id = some r) {name : String} {n : Int64} (held : r.bins.get? name = some (.int n))
    {events : List Event} (run : Run s events t)
    (lasting : (∀ e ∈ events, (e.before.live? id).isSome = true) ∧ (t.live? id).isSome = true)
    (spares : ∀ e ∈ events, e.delta? id name = none → e.writesBin id name = false) :
    (∀ e ∈ events, (e.delta? id name).isSome = true → e.answer.isOk = true) ∧
      (∀ past e future, events = past ++ e :: future → e.wrote id = true →
        e.answer.generation? = some (nextGeneration^[past.countP (·.wrote id) + 1] r.generation)) ∧
      ∃ last m, t.live? id = some last ∧ last.bins.get? name = some (.int m) ∧
        m.toInt = (n.toInt + ((events.filterMap (·.delta? id name)).map Int64.toInt).sum).bmod (2 ^ 64) := by
  have found := found_of_live live
  have sound := reaches.sound (Cluster.sound_ofSize nodes limit)
  obtain ⟨stays, there⟩ := lasting
  refine ⟨?_, ?_, ?_⟩
  · intro e member adds
    obtain ⟨past, future, rfl⟩ := List.append_of_mem member
    obtain ⟨delta, adds⟩ := Option.isSome_iff_exists.1 adds
    obtain ⟨before, live⟩ := Option.isSome_iff_exists.1 (stays e member)
    obtain ⟨earlier, -⟩ := List.forall_mem_append.1 stays
    obtain ⟨sparedEarlier, -⟩ := List.forall_mem_append.1 spares
    have foundBefore := found_of_live live
    obtain ⟨same, m, found', held', -⟩ :=
      run.before.counted ready sound found earlier held sparedEarlier (by rw [foundBefore]; rfl)
    cases foundBefore.symm.trans found'
    have soundBefore := run.before.keeps Cluster.invariant_sound ready sound
    exact (Bool.and_eq_true_iff.1 (Event.wrote_of_delta? (run.before.ready ready) soundBefore live held' adds)).2
  · rintro past e future rfl wrote
    exact run.generation_of_wrote ready found stays wrote
  · obtain ⟨last, live⟩ := Option.isSome_iff_exists.1 there
    have foundLast := found_of_live live
    obtain ⟨same, m, found', held', sum⟩ :=
      run.counted ready sound found stays held spares (by rw [foundLast]; rfl)
    cases foundLast.symm.trans found'
    exact ⟨last, m, live, held', sum⟩

/-! ## Two gates that count -/

/-- Two gates over one store, in which the contested record counts one. -/
def tallied : Session where
  cluster := ((StoreCall.command (.operate {} contested [.write ⟨"n", .int 1⟩]) fun _ => return .ok ()).run
    (opened 2 1000 10)).2.cluster
  clock := 10
  seeds := []
  gates := OrderedMap.ofList [("first", ⟨[], { hosts := [], attached := true }⟩),
    ("second", ⟨[], { hosts := [], attached := true }⟩)]

/-- A gate adds to the count. -/
def addTo (name : String) (delta : Int64) : DataCall :=
  .gate name (.write .add contested [⟨"n", .int delta⟩] none none)

/-- A gate sets the count if it is as it was the seventh time, and else keeps what it would be. -/
def setSeventh (name : String) : DataCall := setOne name (some { generationMode := .keepDuplicate 7 })

def tally : List DataCall := [addTo "first" Int64.maxValue, setSeventh "second", addTo "second" 2]

/-- Calls in a row, each at its moment. -/
def eventsOf (s : Session) : List DataCall → List Event
  | [] => []
  | call :: rest => ⟨s, call⟩ :: eventsOf (call.run s).2 rest

theorem run_eventsOf (s : Session) (calls : List DataCall) :
    Run s (eventsOf s calls) (calls.foldl (fun s call => (call.run s).2) s) := by
  induction calls generalizing s with
  | nil => exact .start
  | cons call rest ih => exact (Run.call .start call).trans (ih (call.run s).2)

/-- The count goes over the edge and on, past a version that is kept beside the record. -/
theorem counters_lose_no_increment_of_tally :
    (∃ last m, (tally.foldl (fun s call => (call.run s).2) tallied).live? contested.id = some last ∧
        last.bins.get? "n" = some (.int m) ∧ m.toInt = -9223372036854775806) ∧
      (eventsOf tallied tally).map (·.answer.generation?) = [some 2, some 3, some 4] := by
  have reaches : Reaches (opened 2 1000 10) tallied :=
    .aside (.call (.refl _) (.command _ fun _ => return .ok ()) fun _ => .refl) rfl
  have ready : tallied.Ready := ⟨⟨rfl, rfl⟩, rfl⟩
  have stored : (tallied.live? contested.id).bind (·.bins.get? "n") = some (.int 1) := rfl
  obtain ⟨r, live, held⟩ := Option.bind_eq_some_iff.1 stored
  have lasting : (∀ e ∈ eventsOf tallied tally, (e.before.live? contested.id).isSome = true) ∧
      ((tally.foldl (fun s call => (call.run s).2) tallied).live? contested.id).isSome = true := by
    decide +kernel
  have spares : ∀ e ∈ eventsOf tallied tally, e.delta? contested.id "n" = none →
      e.writesBin contested.id "n" = false := by
    decide +kernel
  obtain ⟨-, -, last, m, there, count, sum⟩ :=
    counters_lose_no_increment reaches ready live held (run_eventsOf tallied tally) lasting spares
  have deltas : (eventsOf tallied tally).filterMap (·.delta? contested.id "n") = [Int64.maxValue, 2] := by
    decide +kernel
  rw [deltas] at sum
  exact ⟨⟨last, m, there, count, sum⟩, by decide +kernel⟩

end Session

end RecordGate
