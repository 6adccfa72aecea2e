import RecordGate.Proofs.Session.GenerationCount
import RecordGate.Proofs.Store.Expiry
import RecordGate.Proofs.Store.Presence

/-!
# Time to live

A write says when its record expires, whatever was said before. Nothing else does: what neither writes nor
deletes a record leaves it its time, or erases it when it is past (`Moment.lasts`, `Course.lasts`). So the
record is there until then, and no longer, and is reported with this time by all who read it (`time_to_live`).
-/

namespace RecordGate
set_option autoImplicit false

namespace Moment

/-- The record of an identity is neither written nor deleted. -/
def Leaves (id : RecordId) (m : Moment) : Prop := m.wrote id = false ∧ m.deleted id = false

instance (id : RecordId) (m : Moment) : Decidable (m.Leaves id) := inferInstanceAs (Decidable (_ ∧ _))

variable {m : Moment} {id : RecordId}

/-- A write says when its record expires. -/
theorem expiration_of_wrote {policy : WritePolicy} {key : Key} {ops : List Operation}
    {handle : RowHandler Session} (operates : m.call = .command (.operate policy key ops) handle)
    (wrote : m.wrote key.id = true) :
    ∃ next, m.after.cluster.find? key.id = some next ∧
      next.expiration = expiryAt (m.before.now?.getD 0) policy.expiration := by
  obtain ⟨command, _, reply, same, writes, ok, -, effect⟩ := effect_of_wrote wrote
  rw [operates] at same
  cases same
  obtain ⟨policy, _, ops, next, same, found, written, -⟩ := effect.stored writes ok
  cases same
  exact ⟨next, found, written.expiration⟩

/-- What neither writes nor deletes a record leaves it the time at which it expires, or finds that it has
expired and erases it. -/
theorem lasts (noScan : m.call.isScan = false) (leaves : m.Leaves id) {r : StoredRecord}
    (found : m.before.cluster.find? id = some r) :
    (∃ r', m.after.cluster.find? id = some r' ∧ r'.expiration = r.expiration) ∨
      m.after.cluster.find? id = none ∧ ∃ now, m.before.now? = some now ∧ r.expiredAt now = true := by
  rcases Moment.unwritten (f := (·.expiration)) (fun _ => rfl) noScan leaves.1 with
    kept | ⟨deletes, gone, reported⟩
  · rw [found] at kept
    exact .inl (Option.map_eq_some_iff.1 kept)
  · right
    refine ⟨gone, ?_⟩
    have expired : m.before.expired id = true := by
      rw [← Bool.not_eq_false]
      intro unexpired
      rw [Session.live?_of_unexpired found unexpired] at reported
      have undeleted := leaves.2
      rw [deleted, deletes, reported] at undeleted
      cases undeleted
    rw [Session.expired, found, Option.any_some] at expired
    exact (Option.any_eq_true _ _).1 expired

end Moment

namespace Session

/-- A record that is neither written nor deleted keeps the time at which it expires. It is gone only if it had
expired at one of the moments. -/
theorem Course.lasts {s t : Session} {moments : List Moment} (course : Course s moments t) {id : RecordId}
    (leaves : ∀ m ∈ moments, m.Leaves id) {r : StoredRecord} (found : s.cluster.find? id = some r) :
    (∃ r', t.cluster.find? id = some r' ∧ r'.expiration = r.expiration) ∨
      t.cluster.find? id = none ∧
        ∃ m ∈ moments, ∃ now, m.before.now? = some now ∧ r.expiredAt now = true := by
  induction course generalizing r with
  | done t => exact .inl ⟨r, found, rfl⟩
  | @call s t later call noScan course ih =>
    obtain ⟨here, rest⟩ := List.forall_mem_cons.1 leaves
    rcases Moment.lasts noScan here found with ⟨r', kept, same⟩ | ⟨gone, now, told, expired⟩
    · rcases ih rest kept with ⟨r'', stored, same'⟩ | ⟨gone, m, member, now, told, expired⟩
      · exact .inl ⟨r'', stored, same'.trans same⟩
      · rw [StoredRecord.expiredAt_congr same] at expired
        exact .inr ⟨gone, m, List.mem_cons_of_mem _ member, now, told, expired⟩
    · exact .inr ⟨course.missing gone fun m member => (rest m member).1, _, List.mem_cons_self, now, told,
        expired⟩
  | aside nodes course ih => exact ih leaves ((Cluster.find?_congr nodes id).trans found)

/-- Whether the record of a key lives is a matter of the time at which it expires. -/
theorem Course.isLive {s t : Session} {moments : List Moment} (course : Course s moments t) {key : Key}
    (leaves : ∀ m ∈ moments, m.Leaves key.id) {r : StoredRecord} (found : s.cluster.find? key.id = some r)
    (onward : ∀ m ∈ moments, m.before.clock ≤ t.clock) {now : UInt32} (told : t.now? = some now) :
    t.cluster.isLive now key = !r.expiredAt now := by
  rw [Cluster.isLive_eq]
  rcases course.lasts leaves found with ⟨r', stored, same⟩ | ⟨gone, m, member, earlier, told', expired⟩
  · rw [stored, Option.any_some, StoredRecord.expiredAt_congr same]
  · -- It was erased when it had expired, and it would have expired now.
    rw [gone, r.expiredAt_later (timeOf?_mono (onward m member) told' told) expired]
    rfl

/-- A client that is connected asks whether there is a record. -/
theorem answer_contains {t : Session} {now : UInt32} (told : t.now? = some now) (admits : t.cluster.Admits)
    (policy : Policy) (key : Key) (handle : RowHandler Session) :
    ((StoreCall.command (.contains policy key) handle).run t).1 =
      .reply (some (.flag (.ok (t.cluster.isLive now key)))) := by
  have run := run_obey handle (show (Command.contains policy key).isScan = false from rfl) t
  rw [told] at run
  have asked : (t.cluster.contains now policy key).1 = .ok (t.cluster.isLive now key) :=
    Cluster.contains_of_admits admits policy
  simp only [StoreCall.run, run, Prod.map_fst]
  rw [if_neg (by simp), Cluster.answer, Option.getD_some, Prod.map_fst, asked]

/-- **Time to live.** Of a record that a command writes and that is neither written nor deleted since, by calls
of which none comes at a later second than the last: the write says when it expires, whatever it was before;
a client finds it as long as that is not so; and whoever reads it is told the time. The handler of a scan may
make calls that neither write nor delete the record. -/
theorem time_to_live {n limit : Nat} {seconds : Int} {past later : List Moment} {first : Moment}
    {t : Session} (course : Course (opened n limit seconds) (past ++ first :: later) t)
    {policy : WritePolicy} {key : Key} {ops : List Operation} {handle : RowHandler Session}
    (operates : first.call = .command (.operate policy key ops) handle)
    (wrote : first.wrote key.id = true) (leaves : ∀ m ∈ later, m.Leaves key.id)
    (onward : ∀ m ∈ later, m.before.clock ≤ t.clock) :
    let start := (first.before.now?.getD 0).toNat
    let ends := min (start + policy.expiration.toNat) (UInt32.size - 1)
    let told (expiration : UInt32) := expiration.toNat = if policy.expiration = 0 then 0 else ends
    (∃ next, first.after.cluster.find? key.id = some next ∧ told next.expiration) ∧
      (∀ now, t.now? = some now → t.cluster.Admits → ∀ readPolicy same look, same.id = key.id →
        ((StoreCall.command (.contains readPolicy same) look).run t).1 =
          .reply (some (.flag (.ok (decide (policy.expiration = 0 ∨ now.toNat < ends)))))) ∧
      ∀ command look, command.isRead = true →
        (command.isScan = true →
          look.Discreet ∧ ∀ row u, Leads (·.Leaves key.id) u ((look row).run u).2) →
        ∀ generation expiration,
          Returns key.id command (observe (.command command look) t).1 generation expiration →
            told expiration := by
  intro start ends told
  obtain ⟨-, since⟩ := course.split
  obtain ⟨next, stored, expiration⟩ := Moment.expiration_of_wrote operates wrote
  have said : told next.expiration := by
    rw [expiration]
    exact toNat_expiryAt _ _
  refine ⟨⟨next, stored, said⟩, ?_, ?_⟩
  · intro now time admits readPolicy same look here
    rw [answer_contains time admits]
    congr 4
    rw [← here] at leaves stored
    rw [since.isLive leaves stored onward time, Bool.eq_iff_iff, decide_eq_true_eq, Bool.not_eq_true']
    exact StoredRecord.unexpired_iff expiration now
  · intro command look reads beside generation expiration' returns
    have placed := course.placed (Cluster.placed_ofSize n limit)
    obtain ⟨u, r, ⟨moments, meanwhile, leaves'⟩, found, -, rfl⟩ := stored_of_returns placed beside reads returns
    rcases (since.append meanwhile).lasts (List.forall_mem_append.2 ⟨leaves, leaves'⟩) stored with
      ⟨r', kept, same⟩ | ⟨gone, -⟩
    · cases found.symm.trans kept
      rw [same]
      exact said
    · cases found.symm.trans gone

/-- Calls for one record of a new store: it is written for five seconds, and then appended to for ten. A write
of it is refused that would let it live for ever, and its deletion is; it is damaged, and another record is
deleted. -/
def lodging : List StoreCall :=
  let key : Key := .ofDigest "test" default
  let operate (policy : WritePolicy) (op : Operation) : StoreCall :=
    .command (.operate policy key [op]) fun _ => return .ok ()
  let delete (policy : WritePolicy) (key : Key) : StoreCall :=
    .command (.delete policy key) fun _ => return .ok ()
  [operate { expiration := 5 } (.write ⟨"n", .string "a"⟩), .clock 13,
    operate { expiration := 10 } (.append ⟨"n", .string "b"⟩), .clock 16, operate {} (.add ⟨"n", .int 1⟩),
    delete { generationCheck := .equal, generation := 7 } key, .corrupt key,
    delete {} (.ofDigest "other" default)]

/-- The store after those calls, at some second. -/
def lodged (second : Int) : Session :=
  { lodging.foldl (fun s call => (call.run s).2) (opened 2 100 10) with clock := second }

/-- The record is found in the tenth second after the second write, and not any more in the next. -/
theorem time_to_live_of_lodging :
    let asks : StoreCall := .command (.contains {} (.ofDigest "test" default)) fun _ => return .ok ()
    (asks.run (lodged 22)).1 = .reply (some (.flag (.ok true))) ∧
      (asks.run (lodged 23)).1 = .reply (some (.flag (.ok false))) := by
  have calls : ∀ call ∈ lodging, call.isScan = false := by decide
  have course (second : Int) : Course (opened 2 100 10) ([_, _] ++ _ :: [_, _, _, _, _]) (lodged second) :=
    (course_moments calls _).append (.of_nodes rfl)
  obtain ⟨-, found, -⟩ :=
    time_to_live (course 22) rfl (by decide +kernel) (by decide +kernel) (by decide +kernel)
  obtain ⟨-, missing, -⟩ :=
    time_to_live (course 23) rfl (by decide +kernel) (by decide +kernel) (by decide +kernel)
  exact ⟨found 22 rfl ⟨rfl, rfl⟩ {} _ _ rfl, missing 23 rfl ⟨rfl, rfl⟩ {} _ _ rfl⟩

end Session

end RecordGate
