import RecordGate.Proofs.Gate.Inquiry
import RecordGate.Proofs.Session.GateRun

/-!
# A batch asks for its keys one by one

What a batch answers for a key is what a call for that key alone would answer, in the same state
(`fst_askKeys`): a record that cannot be read takes its own place and no other. It makes no difference
whether a batch is given user keys, their digests, or the keys made of them.
-/

namespace RecordGate
set_option autoImplicit false

/-! ## One place -/

namespace Session

/-- The answer for a key, from what the store has to say of it. A gate that does not reach the store
answers so; without the time there is no answer for a key that holds a record. -/
def slot (gate : Gate) (s : Session) (key : Key) (result : CallResult) : Option CallResult :=
  if gate.attached && s.cluster.connected then
    if s.now?.isNone && s.cluster.holds key then none else some result
  else some (.ofError Gate.notConnected)

/-- Answers for many keys, one by one. -/
theorem mapM_slot (gate : Gate) (s : Session) (result : Key → CallResult) (keys : List Key) :
    (keys.mapM fun key => slot gate s key (result key)) =
      if gate.attached && s.cluster.connected then
        if s.now?.isNone && keys.any s.cluster.holds then none else some (keys.map result)
      else some (List.replicate keys.length (.ofError Gate.notConnected)) := by
  induction keys with
  | nil =>
    rw [List.any_nil, Bool.and_false, if_neg Bool.false_ne_true, List.mapM_nil]
    split <;> rfl
  | cons key rest ih =>
    rw [List.mapM_cons, ih, slot, List.any_cons]
    cases gate.attached && s.cluster.connected with
    | false => rfl
    | true =>
      cases s.now?.isNone with
      | false => rfl
      | true => cases s.cluster.holds key <;> cases rest.any s.cluster.holds <;> rfl

/-- A call whose command only looks. -/
theorem outcome_of_look {s : Session} (faults : s.cluster.faults = []) (gate : Gate) (call : GateCall)
    {command : Command} (gives : call.command? = some command) {policy : Policy} {α : Type}
    (kind : Reply α → CommandReply) (look : Cluster → UInt32 → Except Refusal α)
    (steady : ∀ c policy now, look (Cluster.counted c policy) now = look c now)
    (looks : command.policy = .read policy ∧ ∀ c now, Cluster.answer c now command =
      (c.serve (.read policy) fun c => (look c now, c)).map kind id)
    (closed : call.answer (kind (.error Gate.notConnected)) = call.failed Gate.notConnected)
    {answer : GateAnswer}
    (reads : call.answer (kind ((look s.cluster (s.now?.getD 0)).mapError Refusal.toError)) = answer) :
    (outcome gate s call).1 =
      if gate.attached && s.cluster.connected then
        if s.now?.isNone && s.cluster.asksTime command then none
        else some answer
      else some (call.failed Gate.notConnected) := by
  obtain ⟨reading, answers⟩ := looks
  rw [outcome, gives, ← reads]
  cases gate.attached with
  | false => rfl
  | true =>
    dsimp only
    rw [if_pos rfl, Bool.true_and, served, reading, answers]
    cases connected : s.cluster.connected with
    | true =>
      rw [Cluster.accept_of_admits ⟨connected, faults⟩, Cluster.serve_of_admits ⟨connected, faults⟩, steady]
      simp only [Except.toBool, Bool.and_true, if_true]
      split <;> rfl
    | false =>
      rw [Cluster.accept_of_closed connected, Cluster.serve, Cluster.accept_of_closed connected, ← closed]
      simp only [Except.toBool, Bool.and_false, Bool.false_and, Bool.false_eq_true, if_false]
      rfl

section Gate

variable {s : Session} (faults : s.cluster.faults = []) (script : s.script = []) (gate : Gate)
  (seeds : List Host) (tx : Option TransactionOptions)
include faults

theorem outcome_call (key : Key) (inquiry : Inquiry) :
    (outcome gate s (inquiry.call tx key)).1 =
      (slot gate s key (inquiry.result s.cluster (s.now?.getD 0) key)).map .result := by
  rw [slot, apply_ite (Option.map _), apply_ite (Option.map _)]
  cases inquiry with
  | bins names =>
    exact outcome_of_look faults gate (.getBins key names tx) rfl .record
      (fun c now => c.readLive now key (.named names)) (fun _ _ _ => rfl) ⟨rfl, fun _ _ => rfl⟩ rfl rfl
  | all =>
    exact outcome_of_look faults gate (.getAll key tx) rfl .record
      (fun c now => c.readLive now key .all) (fun _ _ _ => rfl) ⟨rfl, fun _ _ => rfl⟩ rfl rfl
  | existence =>
    exact outcome_of_look faults gate (.contains key tx) rfl .flag
      (fun c now => .ok (c.isLive now key)) (fun _ _ _ => rfl) ⟨rfl, fun _ _ => rfl⟩ rfl rfl

theorem outcome_callKeys (keys : List Key) (inquiry : Inquiry) :
    (outcome gate s (inquiry.callKeys tx keys)).1 =
      (keys.mapM fun key => slot gate s key (inquiry.result s.cluster (s.now?.getD 0) key)).map .results := by
  have settled {β : Type} (value : β → CallResult) (entry : Key → β) :
      GateAnswer.results (Batch.settled keys.length value (.ok (keys.map entry))) =
        .results (keys.map fun key => value (entry key)) := by
    rw [Batch.settled, if_pos (List.length_map _), List.map_map]
    rfl
  by_cases empty : keys = []
  · subst empty
    cases inquiry <;> rfl
  · have gives (build : List Key → Command) :
        GateCall.batchCommand? build (.ok keys) = some (build keys) := if_neg (mt List.isEmpty_iff.1 empty)
    rw [mapM_slot, apply_ite (Option.map _), apply_ite (Option.map _)]
    let read (selection : BinSelection) (c : Cluster) (now : UInt32) :
        Except Refusal (List (Reply (Option Record))) :=
      .ok (keys.map fun key => (c.readLive now key selection).mapError Refusal.toError)
    cases inquiry with
    | bins names =>
      exact outcome_of_look faults gate (.batchGetKeys keys (some names) tx)
        (gives (.batchGet (.ofOptions tx) · (.named names))) .records (read (.named names))
        (fun _ _ _ => rfl) ⟨rfl, fun _ _ => rfl⟩ rfl (settled _ _)
    | all =>
      exact outcome_of_look faults gate (.batchGetKeys keys none tx)
        (gives (.batchGet (.ofOptions tx) · .all)) .records (read .all)
        (fun _ _ _ => rfl) ⟨rfl, fun _ _ => rfl⟩ rfl (settled _ _)
    | existence =>
      exact outcome_of_look faults gate (.batchContainsKeys keys tx)
        (gives (.batchContains (.ofOptions tx))) .flags (fun c now => .ok (keys.map (c.isLive now)))
        (fun _ _ _ => rfl) ⟨rfl, fun _ _ => rfl⟩ rfl (settled _ _)

include script

/-- What a call for a key answers. -/
theorem fst_ask (key : Key) (inquiry : Inquiry) :
    ((inquiry.ask (surroundings seeds) gate tx key).run s).1 =
      slot gate s key (inquiry.result s.cluster (s.now?.getD 0) key) := by
  have answers := (answers_run seeds gate (inquiry.call tx key) script).answer
  rw [inquiry.run_call, Program.run_map, outcome_call faults] at answers
  exact Option.map_injective (fun _ _ => GateAnswer.result.inj) answers

/-- **What a batch answers for a key, a call for the key alone answers.** -/
theorem fst_askKeys (keys : List Key) (inquiry : Inquiry) :
    ((inquiry.askKeys (surroundings seeds) gate tx keys).run s).1 =
      keys.mapM fun key => ((inquiry.ask (surroundings seeds) gate tx key).run s).1 := by
  have answers := (answers_run seeds gate (inquiry.callKeys tx keys) script).answer
  rw [inquiry.run_callKeys, Program.run_map, outcome_callKeys faults] at answers
  simp only [fst_ask faults script gate seeds tx]
  exact Option.map_injective (fun _ _ => GateAnswer.results.inj) answers

/-- Keys of one record have one answer. -/
theorem fst_ask_congr {key key' : Key} (same : key'.id = key.id) (inquiry : Inquiry) :
    ((inquiry.ask (surroundings seeds) gate tx key').run s).1 =
      ((inquiry.ask (surroundings seeds) gate tx key).run s).1 := by
  rw [fst_ask faults script, fst_ask faults script, slot, slot, Cluster.holds, Cluster.holds, same,
    inquiry.result_congr _ _ same]

/-- Keys made of digests ask for the same records as keys that know their set. -/
theorem mapM_ask_ofDigest (ns setName : String) (digests : List Digest) (inquiry : Inquiry) :
    ((digests.map (Key.ofDigest ns)).mapM fun key =>
        ((inquiry.ask (surroundings seeds) gate tx key).run s).1) =
      (digests.map fun d => ⟨ns, some setName, d⟩).mapM fun key =>
        ((inquiry.ask (surroundings seeds) gate tx key).run s).1 := by
  have same (d : Digest) :
      ((inquiry.ask (surroundings seeds) gate tx (Key.ofDigest ns d)).run s).1 =
        ((inquiry.ask (surroundings seeds) gate tx ⟨ns, some setName, d⟩).run s).1 := by
    have record : (Key.ofDigest ns d).id = Key.id ⟨ns, some setName, d⟩ := rfl
    exact fst_ask_congr faults script gate seeds tx record inquiry
  rw [List.mapM_map, List.mapM_map]
  exact congrArg (List.mapM · digests) (funext same)

/-- A batch on keys that may have been rejected. -/
theorem fst_onKeys (keys? : Except GateError (List Key)) (inquiry : Inquiry) :
    ((Gate.onKeys keys? (inquiry.askKeys (surroundings seeds) gate tx ·)).run s).1 =
      match keys? with
      | .ok keys =>
        (keys.mapM fun key => ((inquiry.ask (surroundings seeds) gate tx key).run s).1).map .ok
      | .error e => some (.error e) := by
  cases keys? with
  | error e => rfl
  | ok keys => rw [Gate.onKeys, Program.run_map, fst_askKeys faults script]

/-- A clock that tells the time makes every call be answered. -/
theorem mapM_ask_of_told (told : s.now?.isSome = true) (keys : List Key) (inquiry : Inquiry) :
    ∃ results, (keys.mapM fun key => ((inquiry.ask (surroundings seeds) gate tx key).run s).1) =
        some results ∧
      List.Forall₂ (fun key result => ((inquiry.ask (surroundings seeds) gate tx key).run s).1 = some result)
        keys results := by
  have tells : s.now?.isNone = false := by rw [← Option.not_isSome, told, Bool.not_true]
  have answered (key : Key) :
      ∃ result, ((inquiry.ask (surroundings seeds) gate tx key).run s).1 = some result := by
    rw [fst_ask faults script, slot, tells, Bool.false_and, if_neg Bool.false_ne_true]
    split <;> exact ⟨_, rfl⟩
  choose result results using answered
  refine ⟨keys.map result, ?_, List.forall₂_map_right_iff.2 (List.forall₂_same.2 fun key _ => results key)⟩
  simp only [results]
  exact List.mapM_pure

end Gate

/-! ## User keys -/

/-- **A batch by user keys is rejected for a value that is no user key, and otherwise answers as calls for
its keys one by one**; digests and keys serve as well as user keys. -/
theorem askUserKeys_eq_mapM (inquiry : Inquiry) (gate : Gate) (seeds : List Host) (ns setName : String)
    (userKeys : Option (List Value)) (tx : Option TransactionOptions) {s : Session}
    (faults : s.cluster.faults = []) (script : s.script = []) :
    let env := surroundings seeds
    let single key := ((inquiry.ask env gate tx key).run s).1
    let batch := ((inquiry.askUserKeys env gate tx ns setName userKeys).run s).1
    ((∃ e, batch = some (.error e)) ↔
      ∀ values, userKeys = some values → ∃ v ∈ values, v.isUserKey = false) ∧
    ∀ values, userKeys = some values → (∀ v ∈ values, v.isUserKey = true) →
      ∃ keys digests,
        List.Forall₂ (keyOf ns setName · = .ok ·) values keys ∧
        List.Forall₂ (digestOf setName · = .ok ·) values digests ∧
        batch = (keys.mapM single).map .ok ∧
        (s.now?.isSome = true → ∃ results, batch = some (.ok results) ∧
          List.Forall₂ (fun key result => single key = some result) keys results) ∧
        ((inquiry.askDigests env gate tx ns (some digests)).run s).1 = batch ∧
        ((inquiry.askKeys env gate tx keys).run s).1.map .ok = batch := by
  intro env single batch
  have answers (keys? : Except GateError (List Key)) :
      ((Gate.onKeys keys? (inquiry.askKeys env gate tx ·)).run s).1 = _ :=
    fst_onKeys faults script gate seeds tx keys? inquiry
  have whole : batch = ((Gate.onKeys (keysOf ns setName userKeys) (inquiry.askKeys env gate tx ·)).run s).1 :=
    congrArg (fun program => (program.run s).1) (inquiry.askUserKeys_eq env gate tx ns setName userKeys)
  rw [answers] at whole
  refine ⟨⟨?_, ?_⟩, ?_⟩
  · rintro ⟨e, rejected⟩ values rfl
    by_contra none
    have usable : ∀ v ∈ values, v.isUserKey = true := by
      intro v member
      by_contra unusable
      exact none ⟨v, member, Bool.eq_false_iff.2 unusable⟩
    obtain ⟨digests, -, -, made⟩ := keysOf_of_usable usable
    rw [whole, made] at rejected
    obtain ⟨results, -, wrong⟩ := Option.map_eq_some_iff.1 rejected
    cases wrong
  · intro unusable
    rw [whole]
    cases userKeys with
    | none => exact ⟨_, rfl⟩
    | some values =>
      obtain ⟨v, member, no⟩ := unusable values rfl
      obtain ⟨e, refused⟩ := keysOf_of_unusable member no
      exact ⟨e, by rw [refused]⟩
  · rintro values rfl usable
    obtain ⟨digests, found, keyed, made⟩ := keysOf_of_usable usable
    rw [made] at whole
    refine ⟨_, digests, keyed, found, whole, ?_, ?_, ?_⟩
    · intro told
      obtain ⟨results, all, each⟩ := mapM_ask_of_told faults script gate seeds tx told
        (digests.map fun d => ⟨ns, some setName, d⟩) inquiry
      exact ⟨results, whole.trans (congrArg (Option.map Except.ok) all), each⟩
    · have same := mapM_ask_ofDigest faults script gate seeds tx ns setName digests inquiry
      rw [inquiry.askDigests_eq, answers, whole]
      exact congrArg (Option.map Except.ok) same
    · rw [whole, fst_askKeys faults script]

/-- A session over a store whose one record, under the user key 1, cannot be read. -/
def spoilt : Session where
  cluster := (Cluster.ofSize 2 100).put (Key.ofUserKey "test" "s" (.int 1)).id
    { generation := 3, corrupted := true }
  clock := 10
  seeds := []

/-- The record that cannot be read takes its places and no other. -/
theorem askUserKeys_eq_mapM_of_spoilt :
    let batch := ((Inquiry.all.askUserKeys (surroundings []) { hosts := [], attached := true } none "test"
      "s" (some [.int 1, .string "a", .int 1])).run spoilt).1
    (batch.map fun answer => answer.toOption.map (·.map (·.code))) =
        some (some [.clientError, .keyNotFound, .clientError]) ∧
      ∃ results, batch = some (.ok results) ∧ results.length = 3 := by
  have usable : ∀ v ∈ [Value.int 1, .string "a", .int 1], v.isUserKey = true := by decide
  have faults : spoilt.cluster.faults = [] := rfl
  obtain ⟨-, answers⟩ := askUserKeys_eq_mapM .all { hosts := [], attached := true } [] "test" "s"
    (some [.int 1, .string "a", .int 1]) none faults rfl
  obtain ⟨keys, -, keyed, -, -, told, -⟩ := answers _ rfl usable
  obtain ⟨results, all, each⟩ := told rfl
  refine ⟨by decide +kernel, results, all, ?_⟩
  rw [← each.length_eq, ← keyed.length_eq]
  rfl

end Session

end RecordGate
