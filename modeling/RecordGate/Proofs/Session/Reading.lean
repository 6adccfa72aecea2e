import RecordGate.Proofs.Session.GateRun
import RecordGate.Proofs.Store.Reading

/-!
# What the reads of a gate show

A call that asks for bins asks for them in places, one for each of its keys. What succeeds at a place shows
the record of the key that is stored after the call, through the selection of the call (`shown_of_place`).
-/

namespace RecordGate
set_option autoImplicit false

/-! ## Replies that succeed -/

/-- A result that succeeds is one of a command that succeeds. -/
theorem CallResult.ok_of_ofReply {α : Type} {f : α → CallResult} {outcome : Except Refusal α}
    (ok : (CallResult.ofReply f (outcome.mapError Refusal.toError)).isOk = true) :
    ∃ a, outcome = .ok a ∧ (f a).isOk = true := by
  cases outcome with
  | error refusal => exact absurd (ok.symm.trans (Session.isOk_ofError refusal)) Bool.noConfusion
  | ok a => exact ⟨a, rfl, ok⟩

theorem CallResult.generation_ofRecord (r : Record) : (ofRecord r).generation = some r.generation := by
  rw [ofRecord]
  split <;> rfl

theorem CallResult.ok_of_ofFoundRecord {found : Option Record} (ok : (ofFoundRecord found).isOk = true) :
    ∃ record, found = some record := by
  cases found with
  | none => cases ok
  | some record => exact ⟨record, rfl⟩

/-- A place that succeeds is one of a batch that succeeds. -/
theorem Batch.ok_of_settled {α : Type} {value : α → CallResult} {outcome : Except Refusal (List α)}
    {n place : Nat}
    {r : CallResult} (answered : (settled n value (outcome.mapError Refusal.toError))[place]? = some r)
    (ok : r.isOk = true) : ∃ answers, outcome = .ok answers ∧ (answers.map value)[place]? = some r := by
  have member := List.mem_of_getElem? answered
  cases outcome with
  | error refusal =>
    rw [List.eq_of_mem_replicate member, Session.isOk_ofError] at ok
    cases ok
  | ok answers =>
    refine ⟨answers, rfl, ?_⟩
    simp only [Except.mapError, settled] at answered member
    split at answered
    · exact answered
    · next misaligned =>
      rw [if_neg misaligned] at member
      rw [List.eq_of_mem_replicate member] at ok
      cases ok

namespace Cluster

variable {c : Cluster} (faults : c.faults = []) {now : UInt32}
include faults

theorem shown_of_get {policy : Policy} {key : Key} {selection : BinSelection}
    (ok : (CallResult.ofReply .ofFoundRecord (c.get now policy key selection).1).isOk = true) :
    c.Admits ∧ ∃ r, (c.get now policy key selection).2.Shown now key.id r ∧
      (c.get now policy key selection).1 = .ok (some (r.view selection)) := by
  have refused : ∃ outcome : Except Refusal (Option Record),
      (c.get now policy key selection).1 = outcome.mapError Refusal.toError := refusal_of_serve faults ..
  obtain ⟨outcome, replied⟩ := refused
  rw [replied] at ok
  obtain ⟨found, rfl, ok⟩ := CallResult.ok_of_ofReply ok
  obtain ⟨record, rfl⟩ := CallResult.ok_of_ofFoundRecord ok
  obtain ⟨r, shown, rfl⟩ := shown_of_readLive (look_of_serve (fun _ => rfl) replied)
  have kept : (c.get now policy key selection).2.nodes = c.nodes ∧ _ := serve_reads fun _ => rfl
  exact ⟨admits_of_serve replied, r, shown.congr kept.1, replied⟩

theorem shown_of_written {policy : WritePolicy} {key : Key} {ops : List Operation}
    {f : Record → CallResult} (ok : (CallResult.ofReply f (c.operate now policy key ops).1).isOk = true) :
    c.Admits ∧ ∃ r, (c.operate now policy key ops).2.Shown now key.id r ∧
      (c.operate now policy key ops).1 = .ok (r.view (Operation.selection ops)) := by
  have refused : ∃ outcome : Except Refusal Record,
      (c.operate now policy key ops).1 = outcome.mapError Refusal.toError := refusal_of_serve faults ..
  obtain ⟨outcome, replied⟩ := refused
  rw [replied] at ok
  obtain ⟨record, rfl, -⟩ := CallResult.ok_of_ofReply ok
  obtain ⟨r, shown, rfl⟩ := shown_of_operate replied
  exact ⟨admits_of_serve replied, r, shown, replied⟩

theorem shown_of_batchGet {policy : Policy} {keys : List Key} {selection : BinSelection} {place : Nat}
    {key : Key} (here : keys[place]? = some key) {r : CallResult}
    (answered : (Batch.settled keys.length (.ofReply .ofFoundRecord)
      (c.batchGet now policy keys selection).1)[place]? = some r) (ok : r.isOk = true) :
    c.Admits ∧ ∃ held, (c.batchGet now policy keys selection).2.Shown now key.id held ∧
      r = .ofRecord (held.view selection) := by
  have refused : ∃ outcome : Except Refusal (List (Reply (Option Record))),
      (c.batchGet now policy keys selection).1 = outcome.mapError Refusal.toError :=
    refusal_of_serve faults ..
  obtain ⟨outcome, replied⟩ := refused
  rw [replied] at answered
  obtain ⟨answers, rfl, there⟩ := Batch.ok_of_settled answered ok
  have each : keys.map (fun key => (c.readLive now key selection).mapError Refusal.toError) = answers := by
    have replied : (c.batchGet now policy keys selection).1 = .ok answers := replied
    exact Except.ok.inj (look_of_serve (fun _ => rfl) replied)
  rw [← each, List.map_map, List.getElem?_map, here, Option.map_some, Option.some.injEq] at there
  subst there
  obtain ⟨found, read, ok⟩ := CallResult.ok_of_ofReply ok
  obtain ⟨record, rfl⟩ := CallResult.ok_of_ofFoundRecord ok
  obtain ⟨held, shown, rfl⟩ := shown_of_readLive read
  have kept : (c.batchGet now policy keys selection).2.nodes = c.nodes ∧ _ := serve_reads fun _ => rfl
  refine ⟨admits_of_serve replied, held, shown.congr kept.1, ?_⟩
  rw [Function.comp_apply, read]
  rfl

end Cluster

/-! ## Calls that ask for bins -/

namespace GateCall

/-- How the command of a call asks for a key and a selection, of which a place of the answer tells. -/
inductive Asked (call : GateCall) (place : Nat) (key : Key) (selection : BinSelection) : Command → Prop
  | read {policy : Policy} (first : place = 0) : Asked call place key selection (.get policy key selection)
  | written {policy : WritePolicy} {ops : List Operation} (first : place = 0)
      (same : ∀ name, (Operation.selection ops).includes name = selection.includes name)
      (reads : call.ofWritten = .ofRecord) (plain : call.named = id) :
      Asked call place key selection (.operate policy key ops)
  | batch {policy : Policy} {keys : List Key} (here : keys[place]? = some key)
      (width : call.width = keys.length) (plain : call.named = id) :
      Asked call place key selection (.batchGet policy keys selection)

theorem asked_of_batchCommand? {call : GateCall} {keys? : Except GateError (List Key)}
    (asked : call.batch? = some keys?) {policy : Policy} {selection : BinSelection} {command : Command}
    (gives : batchCommand? (.batchGet policy · selection) keys? = some command) (plain : call.named = id)
    {place : Nat} {key : Key}
    (here : (match call.batch? with | some (.ok keys) => keys | _ => [])[place]? = some key) :
    Asked call place key selection command := by
  rw [asked] at here
  cases keys? with
  | error e => cases gives
  | ok keys =>
    rw [batchCommand?] at gives
    split at gives
    · cases gives
    · cases gives
      exact .batch here (by rw [width, asked]) plain

theorem asked_of_command? {call : GateCall} {selection : BinSelection}
    (asks : call.selection? = some selection) {place : Nat} {key : Key}
    (here : call.keys[place]? = some key) {command : Command} (gives : call.command? = some command) :
    Asked call place key selection command := by
  have single {key' : Key} (here : [key'][place]? = some key) : place = 0 ∧ key' = key := by
    rw [List.getElem?_singleton] at here
    split at here
    · next first => exact ⟨first, Option.some.inj here⟩
    · cases here
  cases call with
  | getBin _ _ _ | getBins _ _ _ | getAll _ _ =>
    obtain ⟨first, rfl⟩ := single here
    cases asks
    cases gives
    exact .read first
  | addAndGet _ bins tx options =>
    obtain ⟨first, rfl⟩ := single here
    cases asks
    rw [command?] at gives
    split at gives
    · cases gives
    · cases gives
      exact .written first (fun _ => by rw [selection_readAll]) rfl rfl
  | getWithTouch _ names _ _ =>
    obtain ⟨first, rfl⟩ := single here
    cases asks
    cases gives
    refine .written first ?_ rfl rfl
    cases names with
    | none =>
      intro name
      rw [show Operation.selection [.touch, .readAll] = .all from selection_readAll [.touch]]
      rfl
    | some names =>
      exact includes_selection_reads (List.forall_mem_singleton.2 (rfl : Operation.touch.isWrite = true)) names
  | operate _ reads writes _ _ =>
    obtain ⟨first, rfl⟩ := single here
    rw [selection?] at asks
    split at asks
    · cases asks
    · next some =>
      cases asks
      cases gives
      refine .written first ?_ ?_ rfl
      · rw [if_neg some]
        refine includes_selection_reads ?_ reads
        intro op member
        obtain ⟨bin, -, rfl⟩ := List.mem_map.1 member
        rfl
      · funext r
        rw [ofWritten, if_neg some]
  | batchGet _ _ _ _ _ | batchGetAll _ _ _ _ | batchGetDigests _ _ _ _ | batchGetKeys _ _ _ =>
    cases asks
    rw [command?] at gives
    exact asked_of_batchCommand? rfl gives rfl here
  | _ => cases asks

end GateCall

namespace Session

section Places

variable {gate : Gate} {s t : Session} {call : GateCall} {answer : GateAnswer} {place : Nat} {r : CallResult}
  (answers : Answers gate s call (some answer, t)) (answered : answer.places[place]? = some r)
  (ok : r.isOk = true)
include answers answered ok

/-- What succeeds at a place is read from the reply to the command. -/
theorem replied_of_place :
    ∃ command, call.command? = some command ∧ gate.attached = true ∧
      answer = call.answer (s.cluster.answer (s.now?.getD 0) command).1 ∧
      t.cluster = (s.cluster.answer (s.now?.getD 0) command).2 := by
  obtain ⟨answer', atop⟩ := answers
  have member := List.mem_of_getElem? answered
  rw [outcome] at answer' atop
  cases gives : call.command? with
  | none =>
    rw [gives] at answer'
    cases answer'
    rw [call.not_isOk_of_idle r member] at ok
    cases ok
  | some command =>
    rw [gives] at answer' atop
    cases attached : gate.attached with
    | false =>
      simp only [attached, Bool.false_eq_true, if_false] at answer'
      cases answer'
      rw [call.not_isOk_of_failed r member] at ok
      cases ok
    | true =>
      simp only [attached, if_true, served] at answer' atop
      split at answer'
      · cases answer'
      · next told =>
        rw [if_neg told] at atop
        cases answer'
        exact ⟨command, rfl, rfl, rfl, atop.cluster⟩

/-- **What succeeds at a place shows the record that is stored afterwards.** -/
theorem shown_of_place (faults : s.cluster.faults = []) {selection : BinSelection}
    (asks : call.selection? = some selection) {key : Key} (here : call.keys[place]? = some key) :
    s.cluster.Admits ∧ ∃ held, t.cluster.Shown (s.now?.getD 0) key.id held ∧
      r = call.named (.ofRecord (held.view selection)) := by
  obtain ⟨command, gives, -, rfl, cluster⟩ := replied_of_place answers answered ok
  rw [cluster]
  cases GateCall.asked_of_command? asks here gives with
  | @read policy first =>
    subst first
    have result : call.named (.ofReply .ofFoundRecord
        (s.cluster.get (s.now?.getD 0) policy key selection).1) = r := Option.some.inj answered
    rw [← result, call.isOk_named] at ok
    obtain ⟨admits, held, shown, replied⟩ := Cluster.shown_of_get faults ok
    refine ⟨admits, held, shown, ?_⟩
    rw [← result, replied]
    rfl
  | @written policy ops first same reads plain =>
    subst first
    have result : CallResult.ofReply .ofRecord (s.cluster.operate (s.now?.getD 0) policy key ops).1 = r := by
      rw [← reads]
      exact Option.some.inj answered
    obtain ⟨admits, held, shown, replied⟩ := Cluster.shown_of_written faults (result ▸ ok)
    refine ⟨admits, held, shown, ?_⟩
    rw [← result, replied, plain, held.view_congr same]
    rfl
  | @batch policy keys here width plain =>
    have settled : (Batch.settled keys.length (.ofReply .ofFoundRecord)
        (s.cluster.batchGet (s.now?.getD 0) policy keys selection).1)[place]? = some r := by
      rw [← width]
      exact answered
    rw [plain]
    exact Cluster.shown_of_batchGet faults here settled ok

end Places

/-- A write that succeeds reports the generation of the record that is stored afterwards. -/
theorem shown_of_write {gate : Gate} {s t : Session} {kind : Gate.WriteKind} {key : Key} {bins : List Bin}
    {tx : Option TransactionOptions} {options : Option WriteOptions} {r : CallResult}
    (answers : Answers gate s (.write kind key bins tx options) (some (.result r), t))
    (ok : r.isOk = true) (faults : s.cluster.faults = []) :
    s.cluster.Admits ∧ ∃ held, t.cluster.Shown (s.now?.getD 0) key.id held ∧
      r.generation = some held.generation := by
  have place : (GateAnswer.result r).places[0]? = some r := rfl
  obtain ⟨command, gives, -, answered, cluster⟩ := replied_of_place answers place ok
  rw [GateCall.command?] at gives
  split at gives
  · cases gives
  · cases gives
    have made : r = .ofReply .ofHeader (s.cluster.operate (s.now?.getD 0) (.ofOptions tx options) key
        (bins.map kind.operation ++ [.readHeader])).1 := GateAnswer.result.inj answered
    rw [made] at ok
    obtain ⟨admits, held, shown, replied⟩ := Cluster.shown_of_written faults ok
    refine ⟨admits, held, cluster ▸ shown, ?_⟩
    rw [made, replied]
    rfl

end Session

end RecordGate
