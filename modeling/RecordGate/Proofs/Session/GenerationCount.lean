import RecordGate.Proofs.Session.Report

/-!
# A generation counts writes

From the first write of a record that was not there, for as long as the record is neither deleted nor
expired, its generation is the number of writes that succeeded, around the circle of the numbers of 32 bits
without zero. Writes return it, reads report it, and nothing else changes it.
-/

namespace RecordGate
set_option autoImplicit false

/-! ## What happened at a moment -/

namespace StoreCall

/-- Whether the call writes the record of an identity. -/
def writes (id : RecordId) : StoreCall → Bool
  | command c _ => c.writes id
  | _ => false

/-- Whether the call deletes the record of an identity. -/
def deletes (id : RecordId) : StoreCall → Bool
  | command (.delete _ key) _ => key.id == id
  | _ => false

end StoreCall

namespace StoreAnswer

/-- The generation that a write returned. -/
def written? : StoreAnswer → Option UInt32
  | reply (some (.written (.ok record))) => some record.generation
  | _ => none

/-- Whether a record was reported to be there. -/
def reported : StoreAnswer → Bool
  | reply (some (.flag (.ok found))) => found
  | _ => false

end StoreAnswer

namespace Moment

/-- Whether the record of an identity was written. -/
def wrote (id : RecordId) (m : Moment) : Bool := m.call.writes id && m.answer.isOk

/-- Whether the record of an identity was deleted. -/
def deleted (id : RecordId) (m : Moment) : Bool := m.call.deletes id && m.answer.reported

end Moment

/-- Whether a record is stored that has expired. -/
def Session.expired (id : RecordId) (s : Session) : Bool :=
  (s.cluster.find? id).any fun r => s.now?.any r.expiredAt

theorem StoredRecord.expiredAt_zero (r : StoredRecord) : r.expiredAt 0 = false := by
  simp [expiredAt]

namespace Session

variable {s : Session} {id : RecordId}

/-- What has not expired is what a command finds. -/
theorem live?_of_unexpired {r : StoredRecord} (found : s.cluster.find? id = some r)
    (unexpired : s.expired id = false) : s.cluster.live? (s.now?.getD 0) id = some r := by
  rw [expired, found, Option.any_some] at unexpired
  rw [Cluster.live?, found, Option.filter_some]
  cases told : s.now? with
  | none => simp [r.expiredAt_zero]
  | some now =>
    rw [told] at unexpired
    simp_all

theorem live?_eq_none (fresh : s.cluster.find? id = none ∨ s.expired id = true) :
    s.cluster.live? (s.now?.getD 0) id = none := by
  rw [Cluster.live?]
  rcases fresh with missing | expired
  · rw [missing]
    rfl
  · simp only [Session.expired, Option.any_eq_true] at expired
    obtain ⟨r, found, now, told, past⟩ := expired
    rw [found, told, Option.getD_some, Option.filter_some, past]
    rfl

end Session

theorem Command.noScan_of_writes {command : Command} {id : RecordId} (writes : command.writes id = true) :
    command.isScan = false := by
  cases command <;> first | rfl | cases writes

namespace Moment

variable {m : Moment} {id : RecordId}

theorem effect_of_wrote (wrote : m.wrote id = true) :
    ∃ command handle reply, m.call = .command command handle ∧ command.writes id = true ∧
      reply.isOk = true ∧ m.answer = .reply (some reply) ∧
      m.before.cluster.Effect (m.before.now?.getD 0) command reply m.after.cluster := by
  obtain ⟨s, call⟩ := m
  rw [Moment.wrote, Bool.and_eq_true] at wrote
  cases call with
  | command command handle =>
    obtain ⟨writes, ok⟩ := wrote
    rcases crashed_or_replied s (Command.noScan_of_writes writes) handle rfl with
      ⟨crashed, -⟩ | ⟨reply, replied, effect⟩
    · rw [crashed] at ok
      cases ok
    · rw [replied] at ok
      exact ⟨command, handle, reply, rfl, writes, ok, replied, effect⟩
  | _ => cases wrote.1

/-- A write stores the generation that it returns. -/
theorem written_of_wrote (wrote : m.wrote id = true) :
    ∃ next, m.after.cluster.find? id = some next ∧
      next.generation = nextGeneration
        (((m.before.cluster.live? (m.before.now?.getD 0) id).map (·.generation)).getD 0) ∧
      m.answer.written? = some next.generation := by
  obtain ⟨command, -, reply, -, writes, ok, replied, effect⟩ := effect_of_wrote wrote
  obtain ⟨next, selection, found, generation, rfl⟩ := effect.written writes ok
  exact ⟨next, found, generation, by rw [replied]; rfl⟩

/-- What does not write a record leaves alone whatever does not look at damage, or deletes it and reports
whether it was live. -/
theorem unwritten {α : Type} {f : StoredRecord → α} (unseen : ∀ r, f { r with corrupted := true } = f r)
    (noScan : m.call.isScan = false) (unwritten : m.wrote id = false) :
    (m.after.cluster.find? id).map f = (m.before.cluster.find? id).map f ∨
      m.call.deletes id = true ∧ m.after.cluster.find? id = none ∧
        m.answer.reported = (m.before.cluster.live? (m.before.now?.getD 0) id).isSome := by
  obtain ⟨s, call⟩ := m
  cases call with
  | command command handle =>
    rcases crashed_or_replied s noScan handle rfl with ⟨-, nodes⟩ | ⟨reply, replied, effect⟩
    · exact .inl (congrArg _ (Cluster.find?_congr nodes id))
    · rw [wrote, replied] at unwritten
      rcases effect.unwritten unwritten with same | ⟨policy, key, rfl, here, rfl, gone⟩
      · exact .inl (congrArg _ same)
      · refine .inr ⟨beq_iff_eq.2 here, gone, ?_⟩
        rw [replied, ← here]
        rfl
  | _ => exact .inl (Session.map_find?_of_uncommanded (fun _ _ => StoreCall.noConfusion) unseen s id)

/-- What neither writes nor deletes a record that has not expired keeps its generation. -/
theorem generation_of_undeleted (noScan : m.call.isScan = false) (unwritten : m.wrote id = false)
    (undeleted : m.deleted id = false) (unexpired : m.before.expired id = false) {r : StoredRecord}
    (found : m.before.cluster.find? id = some r) :
    ∃ r', m.after.cluster.find? id = some r' ∧ r'.generation = r.generation := by
  rcases Moment.unwritten (f := (·.generation)) (fun _ => rfl) noScan unwritten with kept | ⟨deletes, -, reported⟩
  · rw [found] at kept
    exact Option.map_eq_some_iff.1 kept
  · rw [Session.live?_of_unexpired found unexpired] at reported
    rw [deleted, deletes, reported] at undeleted
    cases undeleted

/-- Where there is no record, there is none until it is written. -/
theorem missing_of_unwritten (noScan : m.call.isScan = false) (unwritten : m.wrote id = false)
    (missing : m.before.cluster.find? id = none) : m.after.cluster.find? id = none := by
  rcases Moment.unwritten (f := (·.generation)) (fun _ => rfl) noScan unwritten with kept | ⟨-, gone, -⟩
  · rw [missing] at kept
    exact Option.map_eq_none_iff.1 kept
  · exact gone

/-- A deleted record is gone. -/
theorem missing_of_deleted (deleted : m.deleted id = true) : m.after.cluster.find? id = none := by
  obtain ⟨s, call⟩ := m
  rw [Moment.deleted, Bool.and_eq_true] at deleted
  obtain ⟨deletes, reported⟩ := deleted
  cases call with
  | command command handle =>
    cases command with
    | delete policy key =>
      have here : key.id = id := beq_iff_eq.1 deletes
      subst here
      have run := Session.run_obey handle (show (Command.delete policy key).isScan = false from rfl) s
      simp only [answer, after, StoreCall.run, Prod.map_fst, Prod.map_snd, id_eq, run] at reported ⊢
      split at reported
      · cases reported
      · next told =>
        rw [if_neg told]
        apply Cluster.find?_of_deleted
        cases answered : (s.cluster.delete (s.now?.getD 0) policy key).1 with
        | error e =>
          simp only [Cluster.answer, Prod.map_fst, answered] at reported
          cases reported
        | ok found =>
          simp only [Cluster.answer, Prod.map_fst, answered] at reported
          exact congrArg _ reported
    | _ => cases deletes
  | _ => cases deletes

end Moment

/-! ## A whole course -/

namespace Session

/-- A record that is neither deleted nor expired goes through one generation a write. -/
theorem Course.generation {s t : Session} {moments : List Moment} (course : Course s moments t)
    {id : RecordId} {r : StoredRecord} (found : s.cluster.find? id = some r)
    (stays : ∀ m ∈ moments, m.deleted id = false ∧ m.before.expired id = false) :
    ∃ r', t.cluster.find? id = some r' ∧
      r'.generation = nextGeneration^[moments.countP (·.wrote id)] r.generation := by
  induction course generalizing r with
  | done t => exact ⟨r, found, rfl⟩
  | @call s t later call noScan course ih =>
    obtain ⟨⟨undeleted, unexpired⟩, stays⟩ := List.forall_mem_cons.1 stays
    cases wrote : Moment.wrote id ⟨s, call⟩ with
    | true =>
      obtain ⟨next, stored, generation, -⟩ := Moment.written_of_wrote wrote
      rw [live?_of_unexpired found unexpired] at generation
      obtain ⟨r', there, counted⟩ := ih stored stays
      refine ⟨r', there, ?_⟩
      rw [counted, generation, List.countP_cons, wrote, if_pos rfl, Function.iterate_succ_apply]
      rfl
    | false =>
      obtain ⟨kept, stored, generation⟩ :=
        Moment.generation_of_undeleted noScan wrote undeleted unexpired found
      obtain ⟨r', there, counted⟩ := ih stored stays
      refine ⟨r', there, ?_⟩
      rw [counted, generation, List.countP_cons, wrote, if_neg Bool.false_ne_true, Nat.add_zero]
  | aside nodes course ih => exact ih ((Cluster.find?_congr nodes id).trans found) stays

/-- Where there is no record, a course without writes of it leaves none. -/
theorem Course.missing {s t : Session} {moments : List Moment} (course : Course s moments t)
    {id : RecordId} (missing : s.cluster.find? id = none) (unwritten : ∀ m ∈ moments, m.wrote id = false) :
    t.cluster.find? id = none := by
  induction course with
  | done t => exact missing
  | call call noScan course ih =>
    obtain ⟨unwritten, rest⟩ := List.forall_mem_cons.1 unwritten
    exact ih (Moment.missing_of_unwritten noScan unwritten missing) rest
  | aside nodes course ih => exact ih ((Cluster.find?_congr nodes id).trans missing) unwritten

/-- After what passed there is no live record of an identity. -/
inductive Fresh (id : RecordId) (past : List Moment) (s : Session) : Prop
  | missing (missing : s.cluster.find? id = none)
  | expired (expired : s.expired id = true)
  /-- The record was deleted, and not written since. -/
  | deleted {earlier since : List Moment} {deletion : Moment}
      (passed : past = earlier ++ deletion :: since) (deleted : deletion.deleted id = true)
      (unwritten : ∀ m ∈ since, m.wrote id = false)

theorem Fresh.live? {s t : Session} {id : RecordId} {past : List Moment} (fresh : Fresh id past t)
    (course : Course s past t) : t.cluster.live? (t.now?.getD 0) id = none := by
  cases fresh with
  | missing missing => exact live?_eq_none (.inl missing)
  | expired expired => exact live?_eq_none (.inr expired)
  | deleted passed deleted unwritten =>
    subst passed
    obtain ⟨-, since⟩ := course.split
    exact live?_eq_none (.inl (since.missing (Moment.missing_of_deleted deleted) unwritten))

/-- **A generation counts the writes** since the one that found no live record. -/
theorem generation_counts_writes {n limit : Nat} {seconds : Int} {past later : List Moment}
    {first : Moment} {t : Session} {id : RecordId}
    (course : Course (opened n limit seconds) (past ++ first :: later) t)
    (created : first.wrote id = true) (fresh : Fresh id past first.before)
    (stays : ∀ m ∈ later, m.deleted id = false ∧ m.before.expired id = false) :
    first.answer.written? = some 1 ∧
    (∃ r, t.cluster.find? id = some r ∧
      r.generation.toNat = later.countP (·.wrote id) % (UInt32.size - 1) + 1 ∧
      (∀ mid last rest, first :: later = mid ++ last :: rest → last.wrote id = true →
        (∀ m ∈ rest, m.wrote id = false) → last.answer.written? = some r.generation) ∧
      ∀ command handle, command.isRead = true →
        (command.isScan = true → handle.Spares id ∧ handle.Discreet) → ∀ g,
        Reports id command (observe (.command command handle) t).1 g → g = r.generation) ∧
    ∀ (s : Session) (call : StoreCall), call.spares id = true ∨ (call.run s).1.isOk = false →
      (call.isScan = true → call.handle.Spares id) →
      ((call.run s).2.cluster.find? id).map (·.generation) = (s.cluster.find? id).map (·.generation) := by
  obtain ⟨before, onward⟩ := course.split
  obtain ⟨next, stored, generation, returned⟩ := Moment.written_of_wrote created
  rw [fresh.live? before] at generation
  have start : next.generation = 1 := generation
  obtain ⟨r, found, counted⟩ := onward.generation stored stays
  have placed := course.placed (Cluster.placed_ofSize n limit)
  refine ⟨start ▸ returned, ⟨r, found, ?_, ?_, ?_⟩, ?_⟩
  · rw [counted, generation, ← Function.iterate_succ_apply nextGeneration]
    exact (toNat_iterate 0 _).trans (by rw [UInt32.toNat_zero, Nat.zero_add]; rfl)
  · intro mid last rest whole wrote silent
    have course' := course
    rw [whole, ← List.append_assoc] at course'
    obtain ⟨-, after⟩ := course'.split
    obtain ⟨latest, stored, -, returned⟩ := Moment.written_of_wrote wrote
    have stays : ∀ m ∈ rest, m.deleted id = false ∧ m.before.expired id = false := by
      intro m member
      apply stays
      cases mid with
      | nil =>
        cases whole
        exact member
      | cons _ mid =>
        cases whole
        exact List.mem_append_right mid (List.mem_cons_of_mem last member)
    have none : rest.countP (·.wrote id) = 0 := by
      rw [List.countP_eq_zero]
      intro m member
      rw [silent m member]
      exact Bool.false_ne_true
    obtain ⟨r', there, counted⟩ := after.generation stored stays
    cases found.symm.trans there
    rw [returned, counted, none]
    rfl
  · intro command handle reads beside g reports
    obtain ⟨r', there, same⟩ := stored_of_reports placed beside reads reports
    cases found.symm.trans there
    exact same.symm
  · intro s call idle spares
    exact generation_of_idle spares idle

/-- Calls for one record of a new store: it is written and deleted, there is nothing to touch, it is written
anew, a write is refused, it is damaged, and it is touched, which counts as a write. -/
def upkeep : List StoreCall :=
  let key : Key := .ofDigest "test" default
  let operate (policy : WritePolicy) (op : Operation) : StoreCall :=
    .command (.operate policy key [op]) fun _ => return .ok ()
  [operate {} (.write ⟨"n", .int 1⟩), .command (.delete {} key) fun _ => return .ok (),
    operate {} .touch, operate {} (.write ⟨"n", .int 1⟩),
    operate { generationCheck := .equal, generation := 7 } (.write ⟨"n", .int 2⟩), .corrupt key,
    operate {} .touch]

/-- The moments of calls in a row. -/
def moments : List StoreCall → Session → List Moment
  | [], _ => []
  | call :: rest, s => ⟨s, call⟩ :: moments rest (call.run s).2

/-- Calls in a row are a course of their moments. -/
theorem course_moments {calls : List StoreCall} (noScan : ∀ call ∈ calls, call.isScan = false) (s : Session) :
    Course s (moments calls s) (calls.foldl (fun s call => (call.run s).2) s) := by
  induction calls generalizing s with
  | nil => exact .done s
  | cons call rest ih =>
    obtain ⟨here, others⟩ := List.forall_mem_cons.1 noScan
    exact .call call here (ih others _)

theorem generation_counts_writes_of_upkeep :
    ∃ t r, Course (opened 2 100 10) (moments upkeep (opened 2 100 10)) t ∧
      t.cluster.find? ⟨"test", default⟩ = some r ∧ r.generation.toNat = 2 := by
  have course : Course (opened 2 100 10) ([_, _, _] ++ _ :: [_, _, _]) _ :=
    .call upkeep[0] rfl (.call upkeep[1] rfl (.call upkeep[2] rfl (.call upkeep[3] rfl
      (.call upkeep[4] rfl (.call upkeep[5] rfl (.call upkeep[6] rfl (.done _)))))))
  have fresh (s : Session) : Fresh ⟨"test", default⟩ ((moments upkeep (opened 2 100 10)).take 3) s :=
    .deleted (rfl : _ = [_] ++ _ :: [_]) (by decide +kernel) (by decide +kernel)
  obtain ⟨-, ⟨r, found, counted, -⟩, -⟩ :=
    generation_counts_writes course (by decide +kernel) (fresh _) (by decide +kernel)
  exact ⟨_, r, course, found, counted⟩

end Session

end RecordGate
