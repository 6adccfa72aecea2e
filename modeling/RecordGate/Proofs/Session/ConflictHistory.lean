import Mathlib.Data.List.Forall2
import RecordGate.Proofs.Session.GenerationCount
import RecordGate.Proofs.Session.Reading
import RecordGate.Proofs.Store.Versions

/-!
# The versions of a record are its conflicts

From the first write of a record that was not there, for as long as the record is neither deleted nor
expired, its duplicate versions are the outcomes of the writes that conflicted, in their order: none is lost
and none is made up. Once there is one, whoever reads bins of the record is given all of its versions.
-/

namespace RecordGate
set_option autoImplicit false

/-! ## What happened at a moment -/

/-- Whether the outcome of the call is kept beside a record of a generation. -/
def StoreCall.conflicts (stored : UInt32) : StoreCall → Bool
  | command (.operate policy _ _) _ => policy.conflicts stored
  | _ => false

namespace Moment

/-- Whether the record of an identity was written under a policy that keeps duplicates, and had another
generation than was expected. -/
def conflicts (id : RecordId) (m : Moment) : Bool :=
  m.wrote id && (m.before.cluster.find? id).any fun r => m.call.conflicts r.generation

/-- The version that a conflict keeps: the bins of the record as they were, after the writes of the call. -/
def Keeps (id : RecordId) (m : Moment) (version : BinMap) : Prop :=
  ∃ policy key ops handle r, m.call = .command (.operate policy key ops) handle ∧ key.id = id ∧
    m.before.cluster.find? id = some r ∧ applyAll r.bins (ops.filter Operation.isWrite) = .ok version

/-- What a moment makes of the versions of a record. -/
inductive Revised (id : RecordId) (m : Moment) (r next : StoredRecord) : Prop
  | conflict (conflicts : m.conflicts id = true) (bins : next.bins = r.bins) (version : BinMap)
      (keeps : m.Keeps id version) (duplicates : next.duplicates = r.duplicates ++ [version])
  | plain (agrees : m.conflicts id = false) (duplicates : next.duplicates = r.duplicates)

variable {m : Moment} {id : RecordId} {r : StoredRecord}

/-- A record that is neither deleted nor expired is there after the moment. -/
theorem there_of_undeleted (noScan : m.call.isScan = false) (undeleted : m.deleted id = false)
    (unexpired : m.before.expired id = false) (found : m.before.cluster.find? id = some r) :
    ∃ next, m.after.cluster.find? id = some next := by
  cases wrote : m.wrote id with
  | true =>
    obtain ⟨next, stored, -⟩ := m.written_of_wrote wrote
    exact ⟨next, stored⟩
  | false =>
    obtain ⟨next, stored, -⟩ := m.generation_of_undeleted noScan wrote undeleted unexpired found
    exact ⟨next, stored⟩

/-- A record that is created has no other versions. -/
theorem unversioned_of_created (created : m.wrote id = true)
    (missing : m.before.cluster.live? (m.before.now?.getD 0) id = none) :
    ∃ next, m.after.cluster.find? id = some next ∧ next.duplicates = [] := by
  obtain ⟨command, -, reply, -, writes, ok, -, effect⟩ := effect_of_wrote created
  obtain ⟨_, _, _, next, -, found, written, -⟩ := effect.stored writes ok
  rw [missing] at written
  exact ⟨next, found, written.unversioned⟩

/-- **A moment adds one version if it conflicts**, and none otherwise. -/
theorem revised (noScan : m.call.isScan = false) (unexpired : m.before.expired id = false)
    (found : m.before.cluster.find? id = some r) {next : StoredRecord}
    (there : m.after.cluster.find? id = some next) : m.Revised id r next := by
  have silent (unwritten : m.wrote id = false) (duplicates : next.duplicates = r.duplicates) :
      m.Revised id r next := .plain (by rw [conflicts, unwritten, Bool.false_and]) duplicates
  obtain ⟨s, call⟩ := m
  have live := Session.live?_of_unexpired found unexpired
  cases call with
  | command command handle =>
    rcases crashed_or_replied s noScan handle rfl with ⟨crashed, nodes⟩ | ⟨reply, answered, effect⟩
    · have same := (Cluster.find?_congr nodes id).symm.trans there
      rw [show s.cluster.find? id = some r from found] at same
      cases same
      exact silent (by rw [wrote, crashed]; exact Bool.and_false _) rfl
    · cases effect.revision live there with
      | kept same idle => exact silent (by rw [wrote, answered]; exact idle) (same ▸ rfl)
      | @written policy key ops _ here writes ok revised =>
        have wrote : Moment.wrote id ⟨s, .command (.operate policy key ops) handle⟩ = true := by
          have target : (Command.operate policy key ops).writes id = true := by
            rw [Command.writes, Command.isWrite, writes, Bool.true_and]
            exact beq_iff_eq.2 here
          rw [Moment.wrote, answered]
          exact Bool.and_eq_true_iff.2 ⟨target, ok⟩
        have decides : Moment.conflicts id ⟨s, .command (.operate policy key ops) handle⟩ =
            policy.conflicts r.generation := by
          rw [Moment.conflicts, wrote, found]
          rfl
        cases revised with
        | conflict conflicts bins version made duplicates =>
          exact .conflict (decides.trans conflicts) bins version
            ⟨policy, key, ops, handle, r, rfl, here, found, made⟩ duplicates
        | plain agrees duplicates => exact .plain (decides.trans agrees) duplicates
  | _ =>
    have same {a b : Option StoredRecord} {x y : StoredRecord}
        (kept : a.map (·.duplicates) = b.map (·.duplicates)) (left : a = some x) (right : b = some y) :
        x.duplicates = y.duplicates := by
      rw [left, right] at kept
      exact Option.some.inj kept
    refine silent rfl (same ?_ there found)
    exact Session.map_find?_of_uncommanded (fun _ _ => StoreCall.noConfusion) (fun _ => rfl) s id

end Moment

namespace Session

/-! ## A whole course -/

/-- A record that is neither deleted nor expired is given one version by each conflict. -/
theorem Course.versions {s t : Session} {moments : List Moment} (course : Course s moments t)
    {id : RecordId} {r : StoredRecord} (found : s.cluster.find? id = some r)
    (stays : ∀ m ∈ moments, m.deleted id = false ∧ m.before.expired id = false) :
    ∃ r' kept, t.cluster.find? id = some r' ∧ r'.duplicates = r.duplicates ++ kept ∧
      List.Forall₂ (Moment.Keeps id) (moments.filter (·.conflicts id)) kept := by
  -- From the front: what later moments keep is added to the versions that the first moment leaves.
  induction course generalizing r with
  | done t => exact ⟨r, [], found, (List.append_nil _).symm, .nil⟩
  | @call s t later call noScan course ih =>
    obtain ⟨⟨undeleted, unexpired⟩, stays⟩ := List.forall_mem_cons.1 stays
    obtain ⟨next, there⟩ := Moment.there_of_undeleted noScan undeleted unexpired found
    obtain ⟨r', kept, stored, duplicates, keeps⟩ := ih there stays
    cases Moment.revised noScan unexpired found there with
    | conflict conflicts bins version keep added =>
      refine ⟨r', version :: kept, stored, ?_, ?_⟩
      · rw [duplicates, added, List.append_assoc, List.singleton_append]
      · rw [List.filter_cons_of_pos conflicts]
        exact .cons keep keeps
    | plain agrees same =>
      refine ⟨r', kept, stored, same ▸ duplicates, ?_⟩
      rw [List.filter_cons_of_neg (Bool.eq_false_iff.1 agrees)]
      exact keeps
  | aside nodes course ih => exact ih ((Cluster.find?_congr nodes id).trans found) stays

/-! ## Reads through a gate -/

/-- A call of a gate that asks for bins of a record, and gets them at a place of its answer. -/
structure BinRead (gate : Gate) (seeds : List Host) (call : GateCall) (id : RecordId)
    (selection : BinSelection) (s t : Session) (result : CallResult) : Prop where
  asks : call.selection? = some selection
  got : ∃ (answer : GateAnswer) (place : Nat) (key : Key),
    (gate.run (surroundings seeds) call).run s = (some answer, t) ∧ call.keys[place]? = some key ∧
      key.id = id ∧ answer.places[place]? = some result
  ok : result.isOk = true

/-- A record with duplicates is shown with all of its versions, and without bins. -/
theorem versions_of_shown {held : StoredRecord} (versions : held.duplicates ≠ []) (call : GateCall)
    (selection : BinSelection) :
    (call.named (.ofRecord (held.view selection))).versions =
        some ((held.bins :: held.duplicates).map selection.project) ∧
      (call.named (.ofRecord (held.view selection))).bins = none := by
  have some : held.duplicates.isEmpty = false := List.isEmpty_eq_false_iff.2 versions
  obtain ⟨single, same⟩ := call.named_eq (.ofRecord (held.view selection))
  rw [same, StoredRecord.view, some, if_neg Bool.false_ne_true]
  exact ⟨rfl, rfl⟩

/-- A read shows the live record as it was, or as the read itself has left it. -/
theorem BinRead.revision {gate : Gate} {seeds : List Host} {call : GateCall} {id : RecordId}
    {selection : BinSelection} {s t : Session} {result : CallResult}
    (read : BinRead gate seeds call id selection s t result) (faults : s.cluster.faults = [])
    (script : s.script = []) {r : StoredRecord} (found : s.cluster.find? id = some r)
    (unexpired : s.expired id = false) :
    ∃ held, t.cluster.find? id = some held ∧ result = call.named (.ofRecord (held.view selection)) ∧
      r.duplicates <+: held.duplicates ∧ (call.writes id = false → held = r) := by
  obtain ⟨answer, place, key, ran, here, rfl, answered⟩ := read.got
  have answers : Answers gate s call (some answer, t) := ran ▸ answers_run seeds gate call script
  obtain ⟨command, gives, -, -, cluster⟩ := replied_of_place answers answered read.ok
  obtain ⟨-, held, shown, made⟩ := shown_of_place answers answered read.ok faults read.asks here
  have effect := (s.cluster.answer_effect (s.now?.getD 0) command).1
  rw [← cluster] at effect
  refine ⟨held, shown.found, made, ?_⟩
  rw [GateCall.writes, gives, Option.any_some]
  cases effect.revision (live?_of_unexpired found unexpired) shown.found with
  | kept same idle => exact ⟨same ▸ List.prefix_refl _, fun _ => same⟩
  | @written policy key ops _ there writes ok revised =>
    have writes : (Command.operate policy key ops).writes _ = true :=
      Bool.and_eq_true_iff.2 ⟨writes, beq_iff_eq.2 there⟩
    refine ⟨?_, fun idle => absurd (writes.symm.trans idle) Bool.noConfusion⟩
    cases revised with
    | conflict _ _ version _ duplicates => exact duplicates ▸ List.prefix_append _ _
    | plain _ duplicates => exact duplicates ▸ List.prefix_refl _

/-- **The versions of a record are its conflicts**, one for each and in their order, since the write that
found no live record; and whoever reads bins of the record is given them all. -/
theorem duplicates_are_conflicts {n limit : Nat} {seconds : Int} {past later : List Moment}
    {first : Moment} {t : Session} {id : RecordId}
    (course : Course (opened n limit seconds) (past ++ first :: later) t)
    (created : first.wrote id = true) (fresh : Fresh id past first.before)
    (stays : ∀ m ∈ later, m.deleted id = false ∧ m.before.expired id = false) :
    ∃ r, t.cluster.find? id = some r ∧
      List.Forall₂ (Moment.Keeps id) (later.filter (·.conflicts id)) r.duplicates ∧
      (∀ m ∈ later, ∃ held next, m.before.cluster.find? id = some held ∧
        m.after.cluster.find? id = some next ∧
        if m.conflicts id then next.bins = held.bins else next.duplicates = held.duplicates) ∧
      (t.cluster.faults = [] → t.script = [] → t.expired id = false → r.duplicates ≠ [] →
        ∀ gate seeds call selection u result, BinRead gate seeds call id selection t u result →
          ∃ r', u.cluster.find? id = some r' ∧ r.duplicates <+: r'.duplicates ∧
            (call.writes id = false → r' = r) ∧
            result.versions = some ((r'.bins :: r'.duplicates).map selection.project) ∧
            result.bins = none) := by
  obtain ⟨before, onward⟩ := course.split
  obtain ⟨next, stored, unversioned⟩ := Moment.unversioned_of_created created (fresh.live? before)
  obtain ⟨r, kept, found, duplicates, keeps⟩ := onward.versions stored stays
  rw [unversioned, List.nil_append] at duplicates
  refine ⟨r, found, duplicates ▸ keeps, ?_, ?_⟩
  · intro m member
    obtain ⟨mid, rest, rfl⟩ := List.append_of_mem member
    obtain ⟨earlier, others⟩ := List.forall_mem_append.1 stays
    obtain ⟨⟨undeleted, unexpired⟩, -⟩ := List.forall_mem_cons.1 others
    obtain ⟨held, _, there, -⟩ := onward.split.1.versions stored earlier
    have noScan := onward.noScan m member
    obtain ⟨next, after⟩ := Moment.there_of_undeleted noScan undeleted unexpired there
    refine ⟨held, next, there, after, ?_⟩
    cases Moment.revised noScan unexpired there after with
    | conflict conflicts bins => rwa [if_pos conflicts]
    | plain agrees duplicates => rwa [agrees, if_neg Bool.false_ne_true]
  · intro faults script unexpired some gate seeds call selection u result read
    obtain ⟨held, there, made, longer, same⟩ := read.revision faults script found unexpired
    have versions : held.duplicates ≠ [] := by
      intro none
      rw [none] at longer
      exact some (List.prefix_nil.1 longer)
    obtain ⟨shown, noBins⟩ := versions_of_shown versions call selection
    exact ⟨held, there, longer, same, made ▸ shown, made ▸ noBins⟩

/-- Writes of one record of a new store: the second and the fourth expect a generation that is not stored. -/
def quarrel : List StoreCall :=
  let operate (policy : WritePolicy) (ops : List Operation) : StoreCall :=
    .command (.operate policy (.ofDigest "test" default) ops) fun _ => return .ok ()
  let keep (generation : UInt32) : WritePolicy := { generationCheck := .duplicateUnlessEqual, generation }
  [operate {} [.write ⟨"n", .int 1⟩], operate (keep 7) [.write ⟨"n", .int 2⟩, .readAll],
    operate (keep 2) [.add ⟨"n", .int 5⟩],
    operate { keep 2 with existence := .replace } [.write ⟨"m", .int 3⟩]]

def quarrelled : Session := quarrel.foldl (fun s call => (call.run s).2) (opened 2 100 10)

/-- Two versions are kept beside the record, and a read of one bin is given it in all three. -/
theorem duplicates_are_conflicts_of_quarrel :
    let gate : Gate := { hosts := [], attached := true }
    ∃ r result, quarrelled.cluster.find? ⟨"test", default⟩ = some r ∧ r.duplicates.length = 2 ∧
      ((gate.run (surroundings []) (.getBin (.ofDigest "test" default) "n" none)).run quarrelled).1 =
        some (.result result) ∧
      result.versions = some ((r.bins :: r.duplicates).map (BinSelection.named ["n"]).project) := by
  intro gate
  have course : Course (opened 2 100 10) ([] ++ _ :: [_, _, _]) quarrelled :=
    .call quarrel[0] rfl (.call quarrel[1] rfl (.call quarrel[2] rfl (.call quarrel[3] rfl (.done _))))
  have fresh (s : Session) (missing : s.cluster.find? ⟨"test", default⟩ = none) :
      Fresh ⟨"test", default⟩ [] s := .missing missing
  obtain ⟨r, found, keeps, -, reads⟩ :=
    duplicates_are_conflicts course (by decide +kernel) (fresh _ (by decide +kernel)) (by decide +kernel)
  have two : r.duplicates.length = 2 := by
    rw [← keeps.length_eq]
    decide +kernel
  have versions : r.duplicates ≠ [] := by
    intro none
    rw [none] at two
    cases two
  let call : GateCall := .getBin (.ofDigest "test" default) "n" none
  have answered : ((gate.run (surroundings []) call).run quarrelled).1.any (·.isOk) = true := by
    decide +kernel
  obtain ⟨answer, ran, ok⟩ := Option.any_eq_true _ _ |>.1 answered
  cases answer with
  | result result =>
    have read : BinRead gate [] call ⟨"test", default⟩ (.named ["n"]) quarrelled _ result :=
      ⟨rfl, ⟨.result result, 0, .ofDigest "test" default, Prod.ext ran rfl, rfl, rfl, rfl⟩, ok⟩
    obtain ⟨r', -, -, same, shown, -⟩ := reads rfl rfl (by decide +kernel) versions _ _ _ _ _ _ read
    exact ⟨r, result, found, two, ran, same rfl ▸ shown⟩
  | _ => cases ok

end Session

end RecordGate
