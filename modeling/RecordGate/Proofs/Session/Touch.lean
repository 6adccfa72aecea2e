import RecordGate.Proofs.Session.LostUpdate
import RecordGate.Proofs.Session.Success
import RecordGate.Proofs.Store.Presence
import RecordGate.Proofs.Store.Versions

/-!
# What a touch changes

A touch writes a record without a bin to write. It moves the generation on and sets the expiration, and leaves
the bins alone. But it is a write as others are: under a policy that keeps duplicates it conflicts with a
record of another generation, and a copy of the bins is kept beside them (`getWithTouch_keeps_bins`).
-/

namespace RecordGate
set_option autoImplicit false

/-! ## The record -/

/-- No options ask for the bins of a record to be replaced. -/
theorem replaces_ofOptions (tx : Option TransactionOptions) (options : Option WriteOptions) :
    (WritePolicy.ofOptions tx options).existence.replaces = false := by
  cases options with
  | none => rfl
  | some options =>
    rw [WritePolicy.ofOptions]
    cases options.uniqueOnly <;> rfl

/-- Whether options ask for a write to be kept beside a record of a generation. -/
def WriteOptions.conflicts (o : WriteOptions) (stored : UInt32) : Bool :=
  !o.uniqueOnly && match o.generationMode with
    | .keepDuplicate g => g != stored
    | .expectEqual _ | .expectAtLeast _ | .unchecked => false

theorem conflicts_ofOptions (tx : Option TransactionOptions) (options : Option WriteOptions)
    (stored : UInt32) :
    (WritePolicy.ofOptions tx options).conflicts stored = options.any (·.conflicts stored) := by
  cases options with
  | none => rfl
  | some o =>
    rw [Option.any_some, WritePolicy.ofOptions, WriteOptions.conflicts]
    cases o.uniqueOnly with
    | true => rfl
    | false => cases o.generationMode <;> rfl

/-- A record after a touch. -/
def StoredRecord.touched (r : StoredRecord) (policy : WritePolicy) (now : UInt32) : StoredRecord :=
  { r with
    generation := nextGeneration r.generation
    expiration := expiryAt now policy.expiration
    duplicates := r.duplicates ++ if policy.conflicts r.generation then [r.bins] else []
    corrupted := false }

/-- What a write leaves behind that makes the bins that it finds. -/
theorem Written.touched {r next : StoredRecord} {setName : String} {policy : WritePolicy}
    {ops : List Operation} {limit : Nat} {now : UInt32}
    (written : Written (some r) setName policy ops limit now next)
    (still : ∀ op ∈ ops, ∀ bins, applyOperation bins op = .ok bins)
    (merges : policy.existence.replaces = false) : next = r.touched policy now := by
  have made {version : BinMap} {disposition : Disposition}
      (ok : writeBins (some r) policy ops = .ok (disposition, version)) :
      version = r.bins ∧ policy.conflicts r.generation = (disposition == .duplicate) := by
    obtain ⟨check, applied⟩ := checkWrite_of_writeBins ok
    simp only [merges, Bool.false_eq_true, and_false, if_false, applyAll_of_still still] at applied
    cases applied
    exact ⟨rfl, conflicts_of_checkWrite check⟩
  have bins : next.bins = r.bins ∧
      next.duplicates = r.duplicates ++ if policy.conflicts r.generation then [r.bins] else [] := by
    obtain ⟨version, ⟨ok, bins, duplicates⟩ | ⟨ok, bins, duplicates⟩⟩ := written.bins
    · obtain ⟨rfl, conflicts⟩ := made ok
      rw [conflicts]
      exact ⟨bins, duplicates.trans (List.append_nil _).symm⟩
    · obtain ⟨rfl, conflicts⟩ := made ok
      rw [conflicts]
      exact ⟨bins, duplicates⟩
  obtain ⟨setName', bins', generation, expiration, duplicates, corrupted⟩ := next
  obtain ⟨rfl, rfl⟩ := bins
  obtain rfl := written.setName
  obtain rfl := written.generation
  obtain rfl := written.expiration
  obtain rfl := written.sound
  rfl

namespace Cluster

/-- What a touch does to the records: nothing if it fails, or else the record is as a touch leaves it. -/
theorem operate_touch {c : Cluster} {now : UInt32} {policy : WritePolicy} {key : Key}
    {ops : List Operation} (touches : ops.any Operation.isTouch = true)
    (still : ∀ op ∈ ops, ∀ bins, applyOperation bins op = .ok bins)
    (merges : policy.existence.replaces = false) :
    (c.operate now policy key ops).2.nodes = c.nodes ∧ (c.operate now policy key ops).1.toBool = false ∨
      ∃ r, c.live? now key.id = some r ∧ (c.operate now policy key ops).1.toBool = true ∧
        (c.operate now policy key ops).2.nodes = (c.put key.id (r.touched policy now)).nodes := by
  have effect := (c.operate_effect now policy key ops).1
  have writes := any_isWrite_of_isTouch touches
  generalize done : c.operate now policy key ops = x at effect
  obtain ⟨reply, d⟩ := x
  cases effect with
  | kept nodes idle =>
    refine .inl ⟨nodes, ?_⟩
    cases replied : reply.toBool with
    | false => rfl
    | true => cases (idle replied).symm.trans writes
  | wrote next admits writes written nodes replied =>
    cases live : c.live? now key.id with
    | none =>
      have missing := operate_of_missing admits live touches policy
      rw [done] at missing
      cases missing.symm.trans replied
    | some r =>
      rw [live] at written
      refine .inr ⟨r, rfl, ?_, ?_⟩
      · rw [replied]
        rfl
      · rw [nodes, written.touched still merges]

end Cluster

namespace Session

/-- **What a touch changes.** A touch that fails changes no record. One that succeeds moves the generation of
its live record on, sets the expiration and clears the damage; the bins stay, and the other versions stay
unless the options conflict with the record. -/
theorem getWithTouch_keeps_bins {s : Session} (script : s.script = []) (seeds : List Host) (gate : Gate)
    (key : Key) (names : Option (List String)) (tx : Option TransactionOptions)
    (options : Option WriteOptions) :
    let now := s.now?.getD 0
    let ran := (gate.run (surroundings seeds) (.getWithTouch key names tx options)).run s
    (ran.1.any (·.isOk) = false → ran.2.cluster.nodes = s.cluster.nodes) ∧
    (ran.1.any (·.isOk) = true →
      (∃ e rest, s.cluster.faults = e :: rest ∧ e.code = 0) ∧ ran.2.cluster.nodes = s.cluster.nodes ∨
      ∃ r duplicates, s.cluster.live? now key.id = some r ∧
        ran.2.cluster.nodes = (s.cluster.put key.id { r with
          generation := nextGeneration r.generation
          expiration := expiryAt now (WritePolicy.ofOptions tx options).expiration
          corrupted := false
          duplicates }).nodes ∧
        duplicates = if options.any (·.conflicts r.generation) then r.duplicates ++ [r.bins]
          else r.duplicates) := by
  intro now ran
  obtain ⟨reads, gives, still⟩ := GateCall.command?_getWithTouch key names tx options
  have run : Ran gate s _ ran := ran_run seeds gate _ script
  clear_value ran
  cases run with
  | idle _ beside failed =>
    refine ⟨fun _ => congrArg Cluster.nodes beside.cluster, fun ok => ?_⟩
    cases failed.symm.trans ok
  | crashed _ steady => exact ⟨fun _ => steady.nodes, nofun⟩
  | @replied command reply answer t gives' _ answered _ _ _ result =>
    cases gives.symm.trans gives'
    have operated : (s.cluster.operate now (.ofOptions tx options) key (.touch :: reads)).2 = t.cluster :=
      congrArg Prod.snd answered
    have written : reply = .written (s.cluster.operate now (.ofOptions tx options) key (.touch :: reads)).1 :=
      (congrArg Prod.fst answered).symm
    obtain ⟨f, isOk, rfl⟩ := result _ written
    simp only [← operated]
    rcases Cluster.operate_touch rfl still (replaces_ofOptions tx options) with
      ⟨nodes, failed⟩ | ⟨r, live, succeeded, nodes⟩
    · refine ⟨fun _ => nodes, fun ok => .inl ⟨?_, nodes⟩⟩
      cases replied : (s.cluster.operate now (.ofOptions tx options) key (.touch :: reads)).1 with
      | ok record =>
        rw [replied] at failed
        cases failed
      | error e =>
        rw [replied] at ok
        obtain ⟨-, rest, faults⟩ | ⟨refusal, rfl⟩ := Cluster.error_of_serve replied
        · exact ⟨e, rest, faults, (CallResult.ofError_of_isOk ok).1⟩
        · cases (isOk_ofError refusal).symm.trans ok
    · refine ⟨fun failed => ?_, fun _ => .inr ⟨r, _, live, nodes, ?_⟩⟩
      · cases replied : (s.cluster.operate now (.ofOptions tx options) key (.touch :: reads)).1 with
        | ok record =>
          rw [replied] at failed
          cases (isOk record).symm.trans failed
        | error e =>
          rw [replied] at succeeded
          cases succeeded
      · rw [conflicts_ofOptions]
        split <;> simp

/-- A touch as of the generation of the contested record keeps no version. -/
theorem getWithTouch_keeps_bins_of_contest :
    let ran := (Gate.run (surroundings []) { hosts := [], attached := true }
      (.getWithTouch contested none none (some (WriteOptions.keepDuplicate {} 1)))).run contest
    ran.1.any (·.isOk) = true ∧ ∃ r next, contest.cluster.live? 10 contested.id = some r ∧
      ran.2.cluster.find? contested.id = some next ∧ next.bins = r.bins ∧ next.duplicates = r.duplicates := by
  intro ran
  have ok : ran.1.any (·.isOk) = true := by decide +kernel
  refine ⟨ok, ?_⟩
  obtain ⟨-, succeeded⟩ := getWithTouch_keeps_bins (s := contest) rfl [] { hosts := [], attached := true }
    contested none none (some (WriteOptions.keepDuplicate {} 1))
  obtain ⟨⟨_, _, faults, -⟩, -⟩ | ⟨r, duplicates, live, nodes, kept⟩ := succeeded ok
  · cases faults
  · have first : (contest.cluster.live? 10 contested.id).map (·.generation) = some 1 := by decide +kernel
    rw [show contest.cluster.live? 10 contested.id = some r from live] at first
    have first : r.generation = 1 := Option.some.inj first
    rw [first] at kept
    have found := (Cluster.find?_congr nodes contested.id).trans (Cluster.find?_put ..)
    rw [if_pos rfl] at found
    exact ⟨r, _, live, found, rfl, kept⟩

/-- A touch as of another generation keeps a copy of the bins. -/
theorem getWithTouch_keeps_copy :
    let ran := (Gate.run (surroundings []) { hosts := [], attached := true }
      (.getWithTouch contested none none (some (WriteOptions.keepDuplicate {} 7)))).run contest
    ran.1.any (·.isOk) = true ∧
      (contest.cluster.find? contested.id).map (·.duplicates.length) = some 0 ∧
      (ran.2.cluster.find? contested.id).map (·.duplicates.length) = some 1 := by
  decide +kernel

end Session

end RecordGate
