import RecordGate.Proofs.Session.Reading
import RecordGate.Proofs.Session.ScanExactness
import RecordGate.Proofs.Store.Presence

/-!
# What a write returns is what the next read sees

A call that writes and reads in one command answers as a read of the same bins does, made at once after it
in the same second, unless that is the last second that can be told.
-/

namespace RecordGate
set_option autoImplicit false

namespace GateCall

/-- The read of the bins that a call wrote and read. -/
def reread? (tx : Option TransactionOptions) : GateCall → Option GateCall
  | operate key reads _ _ _ => if reads.isEmpty then none else some (.getBins key reads tx)
  | addAndGet key _ _ _ => some (.getAll key tx)
  | getWithTouch key (some names) _ _ => some (.getBins key names tx)
  | getWithTouch key none _ _ => some (.getAll key tx)
  | _ => none

theorem eq_of_reread? {tx : Option TransactionOptions} {call read : GateCall}
    (rereads : call.reread? tx = some read) :
    ∃ key selection, call.keys[0]? = some key ∧ call.selection? = some selection ∧ call.named = id ∧
      read.named = id ∧ read.command? = some (.get (.ofOptions tx) key selection) := by
  cases call with
  | operate key reads _ _ _ =>
    rw [reread?] at rereads
    split at rereads
    · cases rereads
    · next some =>
      cases rereads
      exact ⟨key, .named reads, rfl, if_neg some, rfl, rfl, rfl⟩
  | addAndGet key _ _ _ =>
    cases rereads
    exact ⟨key, .all, rfl, rfl, rfl, rfl, rfl⟩
  | getWithTouch key names _ _ =>
    cases names <;> cases rereads <;> exact ⟨key, _, rfl, rfl, rfl, rfl, rfl⟩
  | _ => cases rereads

end GateCall

namespace Session

/-- What a read answers after a call that showed a record. -/
theorem run_of_shown {t : Session} {now : UInt32} (told : t.now? = some now)
    (early : now.toNat < UInt32.size - 1) (script : t.script = []) (admits : t.cluster.Admits) {gate : Gate}
    (attached : gate.attached = true) (seeds : List Host) {read : GateCall} {policy : Policy} {key : Key}
    {selection : BinSelection} (gives : read.command? = some (.get policy key selection))
    (plain : read.named = id) {held : StoredRecord} (shown : t.cluster.Shown now key.id held) :
    ((gate.run (surroundings seeds) read).run t).1 =
      some (.result (.ofRecord (held.view selection))) := by
  obtain ⟨u, run, -⟩ := run_of_told told script attached seeds gives
  have reply : (t.cluster.answer now (.get policy key selection)).1 =
      .record (.ok (some (held.view selection))) := by
    have got : (t.cluster.get now policy key selection).1 = _ := Cluster.get_of_admits admits policy selection
    rw [shown.readLive early] at got
    exact congrArg CommandReply.record got
  rw [run, reply, GateCall.answer, plain]
  rfl

/-- A call that succeeds goes to the store, and leaves a session that is let in at the same time. -/
theorem ready_of_ok {s t : Session} {gate : Gate} {call : GateCall} {result : CallResult}
    (answers : Answers gate s call (some (.result result), t)) (ok : result.isOk = true) :
    gate.attached = true ∧ t.now? = s.now? ∧ t.script = s.script ∧
      (s.cluster.Admits → t.cluster.Admits) := by
  have place : (GateAnswer.result result).places[0]? = some result := rfl
  obtain ⟨command, -, attached, -, cluster⟩ := replied_of_place answers place ok
  refine ⟨attached, congrArg timeOf? answers.atop.clock, answers.atop.script, ?_⟩
  intro admits
  rw [cluster]
  exact (s.cluster.answer_effect _ command).2.admits admits

/-- **What a call returns of the record that it writes, the next read sees.** -/
theorem read_back {s : Session} {now : UInt32} (told : s.now? = some now)
    (early : now.toNat < UInt32.size - 1) (faults : s.cluster.faults = []) (script : s.script = [])
    (gate : Gate) (seeds : List Host) (tx : Option TransactionOptions) :
    let run (call : GateCall) (s : Session) := (gate.run (surroundings seeds) call).run s
    (∀ call read result t, call.reread? tx = some read → run call s = (some (.result result), t) →
      result.isOk = true → (run read t).1 = some (.result result)) ∧
    ∀ kind key bins tx' options result t,
      run (.write kind key bins tx' options) s = (some (.result result), t) → result.isOk = true →
      ∃ seen, (run (.getAll key tx) t).1 = some (.result seen) ∧ seen.isOk = true ∧
        result.generation.isSome = true ∧ seen.generation = result.generation := by
  intro run
  constructor
  · intro call read result t rereads ran ok
    have answers : Answers gate s call (some (.result result), t) :=
      ran ▸ answers_run seeds gate call script
    obtain ⟨attached, clock, script', admits'⟩ := ready_of_ok answers ok
    obtain ⟨key, selection, here, asks, plain, plain', gives⟩ := GateCall.eq_of_reread? rereads
    obtain ⟨admits, held, shown, made⟩ := shown_of_place answers rfl ok faults asks here
    rw [told, Option.getD_some] at shown
    rw [made, plain]
    exact run_of_shown (clock.trans told) early (script'.trans script) (admits' admits) attached seeds
      gives plain' shown
  · intro kind key bins tx' options result t ran ok
    have answers : Answers gate s (.write kind key bins tx' options) (some (.result result), t) :=
      ran ▸ answers_run seeds gate _ script
    obtain ⟨attached, clock, script', admits'⟩ := ready_of_ok answers ok
    obtain ⟨admits, held, shown, made⟩ := shown_of_write answers ok faults
    rw [told, Option.getD_some] at shown
    have seen := run_of_shown (clock.trans told) early (script'.trans script) (admits' admits) attached
      seeds (rfl : (GateCall.getAll key tx).command? = some _) rfl shown
    refine ⟨_, seen, isOk_ofRecord _, ?_, ?_⟩
    · rw [made]
      rfl
    · rw [made, CallResult.generation_ofRecord]
      rfl

/-- A session over a store whose one record has three versions. -/
def versioned : Session where
  cluster := (Cluster.ofSize 2 100).put (smallKey 0).id
    { bins := .ofList [("n", .int 1)], generation := 3, duplicates := [.ofList [("m", .int 2)], ∅] }
  clock := 10
  seeds := []

/-- A write that is kept as one more version returns them all, and so does the next read. -/
theorem read_back_of_versioned :
    let gate : Gate := { hosts := [], attached := true }
    let options : WriteOptions := { expiration := 5, generationMode := .keepDuplicate 2 }
    let call : GateCall := .operate (smallKey 0) ["n"] [⟨"n", .int 7⟩] none (some options)
    let ran := (gate.run (surroundings []) call).run versioned
    ∃ result, ran.1 = some (.result result) ∧ result.versions.map (·.length) = some 4 ∧
      ((gate.run (surroundings []) (.getBins (smallKey 0) ["n"] none)).run ran.2).1 =
        some (.result result) := by
  intro gate options call ran
  have told : versioned.now? = some 10 := rfl
  have early : (10 : UInt32).toNat < UInt32.size - 1 := by decide
  have answered : ran.1.any (fun answer => answer.isOk &&
      answer.places.all fun r => r.versions.map (·.length) == some 4) = true := by decide +kernel
  obtain ⟨answer, found, all⟩ := Option.any_eq_true _ _ |>.1 answered
  obtain ⟨ok, versions⟩ := Bool.and_eq_true_iff.1 all
  cases answer with
  | result r =>
    have four := beq_iff_eq.1 (List.all_eq_true.1 versions r List.mem_cons_self)
    obtain ⟨reads, -⟩ := read_back told early rfl rfl gate [] none
    exact ⟨r, found, four, reads call _ r ran.2 rfl (Prod.ext found rfl) ok⟩
  | _ => cases ok

end Session

end RecordGate
