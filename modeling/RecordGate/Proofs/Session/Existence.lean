import Mathlib.Data.List.TFAE
import RecordGate.Proofs.Session.ScanExactness
import RecordGate.Proofs.Store.Generation
import RecordGate.Proofs.Store.Presence

/-!
# The tests of existence agree

There are many ways to find out whether a key has a record: to ask, to read, to touch, to delete, to create
what must be new, and to scan. They all agree, whatever calls led to the store: each comes down to whether
the record of the key is live.
-/

namespace RecordGate.Session
set_option autoImplicit false

/-- The code at a place of the answer that a gate gives to a call. -/
def codeAt (gate : Gate) (seeds : List Host) (s : Session) (call : GateCall) (place : Nat) :
    Option ResultCode :=
  ((gate.run (surroundings seeds) call).run s).1.bind fun answer => answer.places[place]?.map (·.code)

section Tests

variable {s : Session} {now : UInt32} (told : s.now? = some now) (script : s.script = [])
  (admits : s.cluster.Admits) {gate : Gate} (attached : gate.attached = true) (seeds : List Host)
include told script attached

theorem codeAt_eq {call : GateCall} {command : Command} (gives : call.command? = some command)
    (place : Nat) :
    codeAt gate seeds s call place =
      (call.answer (s.cluster.answer now command).1).places[place]?.map (·.code) := by
  obtain ⟨t, run, -⟩ := run_of_told told script attached seeds gives
  rw [codeAt, run]
  rfl

include admits

theorem codeAt_contains (key : Key) (tx : Option TransactionOptions) :
    codeAt gate seeds s (.contains key tx) 0 = some .keyNotFound ↔ s.cluster.live? now key.id = none := by
  have gives : (GateCall.contains key tx).command? = some (.contains (.ofOptions tx) key) := rfl
  have reply : (s.cluster.answer now (.contains (.ofOptions tx) key)).1 =
      .flag (.ok (s.cluster.isLive now key)) :=
    congrArg CommandReply.flag (Cluster.contains_of_admits admits (.ofOptions tx))
  rw [codeAt_eq told script attached seeds gives, reply, ← Cluster.code_isLive]
  exact Option.some_inj

theorem codeAt_getAll (key : Key) (tx : Option TransactionOptions) :
    codeAt gate seeds s (.getAll key tx) 0 = some .keyNotFound ↔ s.cluster.live? now key.id = none := by
  have gives : (GateCall.getAll key tx).command? = some (.get (.ofOptions tx) key .all) := rfl
  have reply : (s.cluster.answer now (.get (.ofOptions tx) key .all)).1 =
      .record ((s.cluster.readLive now key .all).mapError Refusal.toError) :=
    congrArg CommandReply.record (Cluster.get_of_admits admits (.ofOptions tx) .all)
  rw [codeAt_eq told script attached seeds gives, reply, ← Cluster.code_readLive .all]
  exact Option.some_inj

theorem codeAt_batch {batch : GateCall} {keys : List Key} (asked : batch.batch? = some (.ok keys))
    {place : Nat} {key : Key} (here : keys[place]? = some key) :
    codeAt gate seeds s batch place = some .keyNotFound ↔ s.cluster.live? now key.id = none := by
  have nonempty : keys ≠ [] := by
    rintro rfl
    cases here
  have settled {α : Type} (value : α → CallResult) (entry : Key → α) :
      (Batch.settled batch.width value (.ok (keys.map entry)))[place]?.map (·.code) =
        some (value (entry key)).code := by
    rw [GateCall.width_of_batch? asked, Batch.settled, if_pos (List.length_map _), List.getElem?_map,
      List.getElem?_map, here]
    rfl
  rcases GateCall.command?_of_batch? asked nonempty with ⟨policy, selection, gives⟩ | ⟨policy, gives⟩
  · have reply : (s.cluster.answer now (.batchGet policy keys selection)).1 = .records (.ok _) :=
      congrArg CommandReply.records (Cluster.batchGet_of_admits admits policy keys selection)
    rw [codeAt_eq told script attached seeds gives, reply, ← Cluster.code_readLive selection]
    exact (congrArg (· = _) (settled (.ofReply .ofFoundRecord) _)).to_iff.trans Option.some_inj
  · have reply : (s.cluster.answer now (.batchContains policy keys)).1 = .flags (.ok _) :=
      congrArg CommandReply.flags (Cluster.batchContains_of_admits admits policy keys)
    rw [codeAt_eq told script attached seeds gives, reply, ← Cluster.code_isLive]
    exact (congrArg (· = _) (settled .ofPresence _)).to_iff.trans Option.some_inj

/-- A touch keeps the bins, and so fits where the record does. -/
theorem codeAt_getWithTouch (key : Key) (names : Option (List String)) (tx : Option TransactionOptions)
    (fits : ∀ r, s.cluster.live? now key.id = some r → r.size ≤ s.cluster.recordLimit) :
    codeAt gate seeds s (.getWithTouch key names tx none) 0 = some .keyNotFound ↔
      s.cluster.live? now key.id = none := by
  obtain ⟨reads, gives, still⟩ := GateCall.command?_getWithTouch key names tx none
  rw [codeAt_eq told script attached seeds gives]
  cases live : s.cluster.live? now key.id with
  | none =>
    have reply : (s.cluster.answer now (.operate (.ofOptions tx none) key (.touch :: reads))).1 =
        .written (.error Refusal.touchMissing.toError) :=
      congrArg CommandReply.written (Cluster.operate_of_missing admits live rfl (.ofOptions tx none))
    rw [reply]
    exact iff_of_true rfl rfl
  | some r =>
    have merges : (WritePolicy.ofOptions tx none).existence = .update := rfl
    obtain ⟨record, replied⟩ :=
      Cluster.operate_of_still admits live (fits r live) rfl still merges rfl
    have reply : (s.cluster.answer now (.operate (.ofOptions tx none) key (.touch :: reads))).1 =
        .written (.ok record) := congrArg CommandReply.written replied
    rw [reply]
    refine iff_of_false ?_ (Option.some_ne_none r)
    simp [GateCall.answer, GateCall.ofWritten, CallResult.ofReply, GateAnswer.places]

theorem codeAt_delete (key : Key) (tx : Option TransactionOptions) :
    codeAt gate seeds s (.delete key tx none) 0 = some .keyNotFound ↔
      s.cluster.live? now key.id = none := by
  have gives : (GateCall.delete key tx none).command? = some (.delete (.ofOptions tx none) key) := rfl
  have unchecked : (WritePolicy.ofOptions tx none).generationCheck ≠ .equal := GenerationPolicy.noConfusion
  have reply : (s.cluster.answer now (.delete (.ofOptions tx none) key)).1 =
      .flag (.ok (s.cluster.isLive now key)) :=
    congrArg CommandReply.flag (Cluster.delete_of_unchecked admits unchecked)
  rw [codeAt_eq told script attached seeds gives, reply, ← Cluster.code_isLive]
  exact Option.some_inj

theorem codeAt_unique (key : Key) (bin : Bin) (tx : Option TransactionOptions) {options : WriteOptions}
    (unique : options.uniqueOnly = true) :
    codeAt gate seeds s (.write .set key [bin] tx (some options)) 0 ≠ some .keyExists ↔
      s.cluster.live? now key.id = none := by
  have gives : (GateCall.write .set key [bin] tx (some options)).command? =
      some (.operate (.ofOptions tx (some options)) key [.write bin, .readHeader]) := rfl
  have creates : (WritePolicy.ofOptions tx (some options)).existence = .createOnly := by
    rw [WritePolicy.ofOptions, unique]
    rfl
  have reply : (s.cluster.answer now
      (.operate (.ofOptions tx (some options)) key [.write bin, .readHeader])).1 =
      .written (s.cluster.operate now (.ofOptions tx (some options)) key [.write bin, .readHeader]).1 := rfl
  rw [codeAt_eq told script attached seeds gives, reply]
  cases live : s.cluster.live? now key.id with
  | none =>
    refine iff_of_true ?_ rfl
    cases written : (s.cluster.operate now (.ofOptions tx (some options)) key
        [.write bin, .readHeader]).1 with
    | ok record => exact Option.some_injective _ |>.ne ResultCode.noConfusion
    | error e =>
      obtain ⟨size, limit, rfl⟩ := Cluster.operate_of_unique admits live creates bin written
      exact Option.some_injective _ |>.ne ResultCode.noConfusion
  | some r =>
    have writes : [Operation.write bin, .readHeader].any Operation.isWrite = true := rfl
    refine iff_of_false ?_ (Option.some_ne_none r)
    rw [Cluster.operate_of_refused admits live writes (checkWrite_of_unique unique r)]
    exact not_not.2 rfl

/-- A scan of every set hands out what is live and passes its integrity check. -/
theorem digest_mem_observeScan (placed : s.cluster.Placed) {callback : ScanRow → Program Session Unit}
    (bystander : (Gate.handler callback).Bystander) (key : Key) (options : Option ScanOptions)
    {target : ScanTarget} (whole : target = .cluster ∨ target = .allNodes)
    (sound : ∀ r, s.cluster.find? key.id = some r → r.corrupted = false) :
    (∃ row ∈ (observeScan seeds gate ⟨target, key.ns, "", options⟩ callback s).2,
      row.digest = key.digest) ↔ s.cluster.live? now key.id ≠ none := by
  have same : ∃ policy, (GateScan.mk target key.ns "" options).command = .scanAll policy key.ns "" := by
    rcases whole with rfl | rfl <;> exact ⟨_, rfl⟩
  obtain ⟨policy, command⟩ := same
  rw [observeScan_eq admits told script attached seeds bystander, command, Option.ne_none_iff_exists']
  constructor
  · rintro ⟨row, member, here⟩
    obtain ⟨r, sees, -⟩ := (Cluster.mem_rows_snapshot_iff placed).1 (Multiset.mem_coe.1 member)
    have found := (Cluster.storedAt_iff_find? placed).1 sees.stored
    rw [here] at found
    exact ⟨r, Option.filter_eq_some_iff.2 ⟨found, by rw [sees.live]; rfl⟩⟩
  · rintro ⟨r, live⟩
    obtain ⟨found, unexpired⟩ := Option.filter_eq_some_iff.1 live
    have sees : s.cluster.Matches now key.ns "" key.digest r :=
      ⟨(Cluster.storedAt_iff_find? placed).2 found, by simpa using unexpired, .inl rfl⟩
    refine ⟨ScanScope.row ⟨key.ns, "", policy.includeBins, some now⟩ key.digest r, ?_, rfl⟩
    exact Multiset.mem_coe.2 ((Cluster.mem_rows_snapshot_iff placed).2 ⟨r, sees, sound r found, rfl⟩)

end Tests

/-- **All tests of existence agree**, on every store that calls lead to. -/
theorem existence_tests_agree {n limit : Nat} {seconds : Int} {s : Session}
    (reaches : Reaches (opened n limit seconds) s) {now : UInt32} (told : s.now? = some now)
    (faults : s.cluster.faults = []) (script : s.script = []) {seeds : List Host} {gate : Gate}
    (connected : gate.isConnected (surroundings seeds) s = true) (key : Key)
    (tx : Option TransactionOptions) (names : Option (List String)) {batch : GateCall} {keys : List Key}
    (asked : batch.batch? = some (.ok keys)) {place : Nat} {slot : Key} (there : keys[place]? = some slot)
    (same : slot.id = key.id) (bin : Bin) {options : WriteOptions}
    (unique : options.uniqueOnly = true) :
    let code := codeAt gate seeds s
    let absent := [
      code (.contains key tx) 0 = some .keyNotFound,
      code (.getAll key tx) 0 = some .keyNotFound,
      code batch place = some .keyNotFound,
      code (.getWithTouch key names tx none) 0 = some .keyNotFound,
      code (.delete key tx none) 0 = some .keyNotFound,
      code (.write .set key [bin] tx (some options)) 0 ≠ some .keyExists,
      s.cluster.live? now key.id = none]
    absent.TFAE ∧
    ((∀ r, s.cluster.find? key.id = some r → r.corrupted = false) →
      ∀ callback, (Gate.handler callback).Bystander → ∀ target, target = .cluster ∨ target = .allNodes →
        ∀ scanOptions,
          (∃ row ∈ (observeScan seeds gate ⟨target, key.ns, "", scanOptions⟩ callback s).2,
            row.digest = key.digest) ↔ ∀ test ∈ absent, ¬ test) := by
  intro code absent
  have attached : gate.attached = true := (Bool.and_eq_true_iff.1 connected).1
  have admits : s.cluster.Admits := ⟨(Bool.and_eq_true_iff.1 connected).2, faults⟩
  have sound := reaches.sound (Cluster.sound_ofSize n limit)
  have fits : ∀ r, s.cluster.live? now key.id = some r → r.size ≤ s.cluster.recordLimit := by
    intro r live
    rw [sound.recordLimit]
    exact (sound.live live).size
  -- No test is compared with another: each is the absence of a live record.
  have each : ∀ test ∈ absent, test ↔ s.cluster.live? now key.id = none := by
    simp only [absent, List.forall_mem_cons, List.not_mem_nil, false_imp_iff, implies_true, and_true]
    exact ⟨codeAt_contains told script admits attached seeds key tx,
      codeAt_getAll told script admits attached seeds key tx,
      same ▸ codeAt_batch told script admits attached seeds asked there,
      codeAt_getWithTouch told script admits attached seeds key names tx fits,
      codeAt_delete told script admits attached seeds key tx,
      codeAt_unique told script admits attached seeds key bin tx unique⟩
  refine ⟨List.tfae_of_forall _ _ each, ?_⟩
  intro uncorrupted callback bystander target whole scanOptions
  rw [digest_mem_observeScan told script admits attached seeds sound.placed bystander key scanOptions
    whole uncorrupted]
  constructor
  · intro present test member
    exact mt (each test member).1 present
  · intro present
    exact mt (each _ List.mem_cons_self).2 (present _ List.mem_cons_self)

/-- The calls that write a record which lives for five seconds, and let them pass. -/
def lapse : List StoreCall :=
  [.command (.operate { expiration := 5 } (smallKey 0) [.write ⟨"n", .int 1⟩]) fun _ => return .ok (),
    .clock 15]

def lapsed : Session := lapse.foldl (fun s call => (call.run s).2) (opened 2 100 10)

/-- A record is gone in the second in which it expires, whoever asks, though it is still stored. -/
theorem existence_tests_agree_of_lapsed :
    let code := codeAt { hosts := [], attached := true } [] lapsed
    (lapsed.cluster.find? (smallKey 0).id).isSome = true ∧
      code (.contains (smallKey 0) none) 0 = some .keyNotFound ∧
      code (.batchGetDigests "test" (some [(smallKey 1).digest, (smallKey 0).digest]) none none) 1 =
        some .keyNotFound ∧
      code (.delete (smallKey 0) none none) 0 = some .keyNotFound := by
  have reaches : Reaches (opened 2 100 10) lapsed :=
    ((Reaches.refl _).call (.command _ fun _ => return .ok ()) fun _ => .refl).call (.clock 15) fun _ => .refl
  have told : lapsed.now? = some 15 := rfl
  have connected : Gate.isConnected (surroundings []) { hosts := [], attached := true } lapsed = true := rfl
  have asked : (GateCall.batchGetDigests "test" (some [(smallKey 1).digest, (smallKey 0).digest]) none
      none).batch? = some (.ok _) := rfl
  have there : [Key.ofDigest "test" (smallKey 1).digest, .ofDigest "test" (smallKey 0).digest][1]? =
      some (Key.ofDigest "test" (smallKey 0).digest) := rfl
  have unique : (WriteOptions.unique {}).uniqueOnly = true := rfl
  obtain ⟨agree, -⟩ := existence_tests_agree reaches told rfl rfl connected (smallKey 0) none none asked
    there rfl ⟨"n", .int 2⟩ unique
  have gone : lapsed.cluster.live? 15 (smallKey 0).id = none := by decide +kernel
  exact ⟨by decide +kernel, (agree.out 6 0).1 gone, (agree.out 6 2).1 gone, (agree.out 6 4).1 gone⟩

end RecordGate.Session
