import RecordGate.Proofs.Session.Idle
import RecordGate.Proofs.Session.Observation

/-!
# What reads report of a record

A read that succeeds reports the generation of the record that it got, of those among the records that it asked
for, or in the rows of a scan, and when the record expires. A scan goes on while its handler makes calls, so
what it reports was stored at some moment of it (`stored_of_returns`). The generation is the one that is
stored, as long as those calls leave it alone (`stored_of_reports`).
-/

namespace RecordGate
set_option autoImplicit false

/-- What is observed of a command reports a generation of the record of an identity. -/
inductive Reports (id : RecordId) : Command → StoreAnswer × Multiset ScanRow → UInt32 → Prop
  | get {policy : Policy} {key : Key} {selection : BinSelection} {record : Record}
      {rows : Multiset ScanRow} (here : key.id = id) :
      Reports id (.get policy key selection) (.reply (some (.record (.ok (some record)))), rows)
        record.generation
  | operate {policy : WritePolicy} {key : Key} {ops : List Operation} {record : Record}
      {rows : Multiset ScanRow} (here : key.id = id) :
      Reports id (.operate policy key ops) (.reply (some (.written (.ok record))), rows) record.generation
  | batchGet {policy : Policy} {keys : List Key} {selection : BinSelection}
      {answers : List (Reply (Option Record))} {record : Record} {rows : Multiset ScanRow} {place : Nat}
      {key : Key} (asked : keys[place]? = some key) (here : key.id = id)
      (found : answers[place]? = some (.ok (some record))) :
      Reports id (.batchGet policy keys selection) (.reply (some (.records (.ok answers))), rows)
        record.generation
  | row {command : Command} {answer : StoreAnswer} {rows : Multiset ScanRow} {row : ScanRow}
      (member : row ∈ rows) (here : ⟨row.ns, row.digest⟩ = id) :
      Reports id command (answer, rows) row.generation

/-- What is observed of a command reports a generation of the record of an identity, and when it expires. -/
inductive Returns (id : RecordId) : Command → StoreAnswer × Multiset ScanRow → UInt32 → UInt32 → Prop
  | get {policy : Policy} {key : Key} {selection : BinSelection} {record : Record}
      {rows : Multiset ScanRow} (here : key.id = id) :
      Returns id (.get policy key selection) (.reply (some (.record (.ok (some record)))), rows)
        record.generation record.expiration
  | operate {policy : WritePolicy} {key : Key} {ops : List Operation} {record : Record}
      {rows : Multiset ScanRow} (here : key.id = id) :
      Returns id (.operate policy key ops) (.reply (some (.written (.ok record))), rows)
        record.generation record.expiration
  | batchGet {policy : Policy} {keys : List Key} {selection : BinSelection}
      {answers : List (Reply (Option Record))} {record : Record} {rows : Multiset ScanRow} {place : Nat}
      {key : Key} (asked : keys[place]? = some key) (here : key.id = id)
      (found : answers[place]? = some (.ok (some record))) :
      Returns id (.batchGet policy keys selection) (.reply (some (.records (.ok answers))), rows)
        record.generation record.expiration
  | row {command : Command} {answer : StoreAnswer} {rows : Multiset ScanRow} {row : ScanRow}
      (member : row ∈ rows) (here : ⟨row.ns, row.digest⟩ = id) :
      Returns id command (answer, rows) row.generation row.expiration

theorem Reports.returns {id : RecordId} {command : Command} {observed : StoreAnswer × Multiset ScanRow}
    {g : UInt32} (reports : Reports id command observed g) : ∃ e, Returns id command observed g e := by
  cases reports with
  | get here => exact ⟨_, .get here⟩
  | operate here => exact ⟨_, .operate here⟩
  | batchGet asked here found => exact ⟨_, .batchGet asked here found⟩
  | row member here => exact ⟨_, .row member here⟩

namespace Session

section NoScan

variable (handle : RowHandler Session) {command : Command} (noScan : command.isScan = false) {s : Session}
include noScan

theorem answer_of_observe {reply : CommandReply} {rows : Multiset ScanRow}
    (seen : (observe (.command command handle) s).1 = (.reply (some reply), rows)) :
    (s.cluster.answer (s.now?.getD 0) command).1 = reply := by
  rw [observe_command, run_obey handle.recorded noScan] at seen
  split at seen <;> cases seen
  rfl

theorem rows_observe : (observe (.command command handle) s).1.2 = 0 := by
  rw [observe_command, run_obey handle.recorded noScan]
  split <;> rfl

end NoScan

section Meanwhile

variable {P : Moment → Prop} {handle : RowHandler Session}
  (handled : ∀ row u, Leads P u ((handle row).run u).2) {s : Session}
include handled

/-- A row of a scan shows what is stored while the scan goes on. -/
theorem shows_of_mem_observe (discreet : handle.Discreet) {command : Command} (scan : command.isScan = true)
    {row : ScanRow} (member : row ∈ (observe (.command command handle) s).1.2) :
    ∃ t, Leads P s t ∧ t.cluster.Shows row := by
  obtain ⟨u, rows, steady, kept, after, shown⟩ := obey_shown handle.recorded scan { s with rows := [] }
  rw [observe_command, after, rows_visits discreet, kept, List.nil_append] at member
  obtain ⟨earlier, -, shows⟩ := shown row member
  have keeps : ∀ row v, Leads P s v → Leads P s (visitor handle.recorded row v).2 := by
    intro row v before
    rw [visitor_snd, RowHandler.run_recorded]
    have kept : Leads P v (keepRow row v).2 := .of_nodes rfl
    exact before.trans (kept.trans (handled row _))
  exact ⟨_, (visitor handle.recorded).visits_keeps keeps earlier (.of_nodes steady.nodes), shows⟩

end Meanwhile

/-- What a read reports of a record was stored when it read it. -/
theorem stored_of_returns {s : Session} (placed : s.cluster.Placed) {P : Moment → Prop}
    {handle : RowHandler Session} {command : Command} {id : RecordId}
    (beside : command.isScan = true →
      handle.Discreet ∧ ∀ row u, Leads P u ((handle row).run u).2)
    (reads : command.isRead = true) {g e : UInt32}
    (returns : Returns id command (observe (.command command handle) s).1 g e) :
    ∃ t r, Leads P s t ∧ t.cluster.find? id = some r ∧ r.generation = g ∧ r.expiration = e := by
  have here : Leads P s s := .of_nodes rfl
  have found {now : UInt32} {r : StoredRecord} (live : s.cluster.live? now id = some r) :
      s.cluster.find? id = some r := (Option.filter_eq_some_iff.1 live).1
  generalize seen : (observe (.command command handle) s).1 = observed at returns
  cases returns with
  | get same =>
    have got := CommandReply.record.inj (answer_of_observe handle rfl seen)
    obtain ⟨r, live, -, rfl⟩ := Cluster.live_of_readLive _ _ _ (Cluster.look_of_serve (fun _ => rfl) got)
    exact ⟨s, r, here, found (same ▸ live), rfl, rfl⟩
  | operate same =>
    have got := CommandReply.written.inj (answer_of_observe handle rfl seen)
    obtain ⟨r, live, -, rfl⟩ := Cluster.live_of_operate _ _ _ _ (by simpa [Command.isRead] using reads) got
    exact ⟨s, r, here, found (same ▸ live), rfl, rfl⟩
  | @batchGet policy keys selection answers record _ place key asked same answered =>
    have got : (s.cluster.batchGet (s.now?.getD 0) policy keys selection).1 = .ok answers :=
      CommandReply.records.inj (answer_of_observe handle rfl seen)
    have each : keys.map (fun key => (s.cluster.readLive (s.now?.getD 0) key selection).mapError
        Refusal.toError) = answers := by
      have looked := Cluster.look_of_serve (fun _ => rfl) got
      exact Except.ok.inj looked
    rw [← each, List.getElem?_map, asked, Option.map_some, Option.some.injEq] at answered
    have read : s.cluster.readLive (s.now?.getD 0) key selection = .ok (some record) := by
      cases looked : s.cluster.readLive (s.now?.getD 0) key selection with
      | error refusal =>
        rw [looked] at answered
        cases answered
      | ok found =>
        rw [looked] at answered
        cases answered
        rfl
    obtain ⟨r, live, -, rfl⟩ := Cluster.live_of_readLive _ _ _ read
    exact ⟨s, r, here, found (same ▸ live), rfl, rfl⟩
  | @row _ answer rows row member same =>
    have delivered : (observe (.command command handle) s).1.2 = rows := congrArg (·.2) seen
    rw [← delivered] at member
    cases scan : command.isScan with
    | true =>
      obtain ⟨discreet, handled⟩ := beside scan
      obtain ⟨t, meanwhile, place, r, scope, stored, shown⟩ :=
        shows_of_mem_observe handled discreet scan member
      rw [same] at stored
      have found := (Cluster.storedAt_iff_find? (meanwhile.placed placed)).1 ⟨place, stored⟩
      rw [shown]
      exact ⟨t, r, meanwhile, found, rfl, rfl⟩
    | false =>
      rw [rows_observe handle scan] at member
      cases member

/-- What a read reports of a record is stored. -/
theorem stored_of_reports {s : Session} (placed : s.cluster.Placed) {handle : RowHandler Session}
    {command : Command} {id : RecordId} (beside : command.isScan = true → handle.Spares id ∧ handle.Discreet)
    (reads : command.isRead = true) {g : UInt32}
    (reports : Reports id command (observe (.command command handle) s).1 g) :
    ∃ r, s.cluster.find? id = some r ∧ r.generation = g := by
  obtain ⟨e, returns⟩ := reports.returns
  obtain ⟨t, r, meanwhile, found, same, -⟩ :=
    stored_of_returns placed (fun scan => (beside scan).symm) reads returns
  have generation := meanwhile.generation
  rw [found] at generation
  rw [← same]
  exact Option.map_eq_some_iff.1 generation.symm

end Session

end RecordGate
