import RecordGate.Proofs.Session.Existence
import RecordGate.Proofs.Session.LostUpdate

/-!
# Deletions under a condition

A write of a record makes every check of a generation mode. A deletion makes only one of them, for equality: it
removes a record that a mode other than equality guards, of whatever generation (`delete_guarded_by_equality`).
-/

namespace RecordGate
set_option autoImplicit false

namespace GenerationMode

/-- Whether a mode lets a write of a record pass that has a generation. -/
def Met (stored : UInt32) : GenerationMode → Prop
  | expectEqual g => stored = g
  | expectAtLeast g => g ≤ stored
  | keepDuplicate _ | unchecked => True

/-- Whether a mode lets a deletion of a record pass that has a generation. -/
def MetByDeletion (stored : UInt32) : GenerationMode → Prop
  | expectEqual g => stored = g
  | expectAtLeast _ | keepDuplicate _ | unchecked => True

end GenerationMode

section Conditions

variable {options : WriteOptions} (shared : options.uniqueOnly = false) (tx : Option TransactionOptions)
  (r : StoredRecord)
include shared

/-- The check of a write passes where the mode is met. -/
theorem checkWrite_of_met (met : options.generationMode.Met r.generation) :
    ∃ disposition, checkWrite (some r) (.ofOptions tx (some options)) = .ok disposition := by
  rw [ofOptions_of_shared shared]
  cases mode : options.generationMode with
  | expectEqual g =>
    rw [mode] at met
    exact ⟨.apply, if_pos met⟩
  | expectAtLeast g =>
    rw [mode] at met
    exact ⟨.apply, if_pos met⟩
  | keepDuplicate g => exact ⟨_, rfl⟩
  | unchecked => exact ⟨_, rfl⟩

theorem checkWrite_of_unmet (unmet : ¬ options.generationMode.Met r.generation) :
    ∃ g, checkWrite (some r) (.ofOptions tx (some options)) = .error (.generationMismatch g r.generation) := by
  rw [ofOptions_of_shared shared]
  cases mode : options.generationMode with
  | expectEqual g =>
    rw [mode] at unmet
    exact ⟨g, if_neg unmet⟩
  | expectAtLeast g =>
    rw [mode] at unmet
    exact ⟨g, if_neg unmet⟩
  | keepDuplicate g =>
    rw [mode] at unmet
    exact (unmet trivial).elim
  | unchecked =>
    rw [mode] at unmet
    exact (unmet trivial).elim

/-- What a deletion is refused for is what it does not meet. -/
theorem refuses_iff :
    ((WritePolicy.ofOptions tx (some options)).generationCheck = .equal ∧
      r.generation ≠ (WritePolicy.ofOptions tx (some options)).generation) ↔
      ¬ options.generationMode.MetByDeletion r.generation := by
  rw [ofOptions_of_shared shared]
  cases mode : options.generationMode with
  | expectEqual g => exact and_iff_right rfl
  | expectAtLeast g | keepDuplicate g | unchecked =>
    exact iff_of_false (fun refused => GenerationPolicy.noConfusion refused.1) (not_not.2 trivial)

end Conditions

/-- Bins can be set whatever a record holds. -/
theorem applyAll_sets (bins : List Bin) (held : BinMap) :
    ∃ made, applyAll held (bins.map .write ++ [.readHeader]) = .ok made := by
  induction bins generalizing held with
  | nil => exact ⟨held, rfl⟩
  | cons bin rest ih => exact ih _

theorem writeBins_sets {existing : Option StoredRecord} {policy : WritePolicy} {disposition : Disposition}
    (check : checkWrite existing policy = .ok disposition) (bins : List Bin) :
    ∃ made, writeBins existing policy (bins.map .write ++ [.readHeader]) = .ok (disposition, made) := by
  obtain ⟨made, applied⟩ := applyAll_sets bins
    (if disposition = .apply ∧ policy.existence.replaces = true then ∅ else (existing.map (·.bins)).getD ∅)
  exact ⟨made, bind_eq_ok_iff.2 ⟨disposition, check, bind_eq_ok_iff.2 ⟨made, applied, rfl⟩⟩⟩

namespace Cluster

variable {c : Cluster} {now : UInt32} {key : Key} (admits : c.Admits) {r : StoredRecord}
  (live : c.live? now key.id = some r) {options : WriteOptions} (shared : options.uniqueOnly = false)
  (tx : Option TransactionOptions)
include admits live shared

/-- Setting bins is answered with a mismatch just where the mode is not met. -/
theorem code_operate_sets {bins : List Bin} (nonempty : bins ≠ []) :
    (CallResult.ofReply .ofHeader (c.operate now (.ofOptions tx options) key
      (bins.map .write ++ [.readHeader])).1).code = .generationMismatch ↔
      ¬ options.generationMode.Met r.generation := by
  have writes : (bins.map Operation.write ++ [Operation.readHeader]).any Operation.isWrite = true := by
    obtain ⟨bin, rest, rfl⟩ := List.exists_cons_of_ne_nil nonempty
    rfl
  by_cases met : options.generationMode.Met r.generation
  · refine iff_of_false ?_ (not_not.2 met)
    obtain ⟨disposition, check⟩ := checkWrite_of_met shared tx r met
    obtain ⟨made, ok⟩ := writeBins_sets check bins
    rw [← live] at ok
    have untouched : ((c.live? now key.id).isNone &&
        (bins.map Operation.write ++ [Operation.readHeader]).any Operation.isTouch) = false := by
      rw [live]
      rfl
    cases replied : (c.operate now (.ofOptions tx options) key (bins.map .write ++ [.readHeader])).1 with
    | ok record => exact ResultCode.noConfusion
    | error e =>
      obtain ⟨size, limit, rfl⟩ := operate_of_made admits writes untouched ok replied
      rw [CallResult.ofReply, CallResult.code_ofError_toError]
      exact ResultCode.noConfusion
  · obtain ⟨g, refused⟩ := checkWrite_of_unmet shared tx r met
    refine iff_of_true ?_ met
    rw [operate_of_refused admits live writes refused, CallResult.ofReply, CallResult.code_ofError_toError]
    rfl

theorem delete_of_met (met : options.generationMode.MetByDeletion r.generation) :
    c.delete now (.ofOptions tx options) key =
      (.ok true, (c.counted (.write (.ofOptions tx options))).erase key.id) := by
  have same : (c.counted (.write (.ofOptions tx options))).live? now key.id = some r := live
  rw [delete_eq, serve_of_admits admits]
  simp only [same, if_neg (mt (refuses_iff shared tx r).1 (not_not.2 met))]
  rfl

theorem delete_of_unmet (unmet : ¬ options.generationMode.MetByDeletion r.generation) :
    ∃ g, c.delete now (.ofOptions tx options) key =
      (.error (Refusal.generationMismatch g r.generation).toError,
        c.counted (.write (.ofOptions tx options))) := by
  have same : (c.counted (.write (.ofOptions tx options))).live? now key.id = some r := live
  rw [delete_eq, serve_of_admits admits]
  simp only [same, if_pos ((refuses_iff shared tx r).2 unmet)]
  exact ⟨_, rfl⟩

end Cluster

namespace Session

/-- **A deletion is guarded by equality only.** Setting bins of a live record under a mode is answered with a
mismatch unless the record meets the mode. A deletion under it is answered so, and leaves every record, if the
mode is equality; under any other mode it removes the record. -/
theorem delete_guarded_by_equality {s : Session} (ready : s.Ready) {gate : Gate} (attached : gate.attached = true)
    (seeds : List Host) {key : Key} {r : StoredRecord} (live : s.live? key.id = some r)
    {options : WriteOptions} (shared : options.uniqueOnly = false) (tx : Option TransactionOptions)
    {bins : List Bin} (nonempty : bins ≠ []) :
    let code call := codeAt gate seeds s call 0
    let deletion := GateCall.delete key tx (some options)
    let left := ((gate.run (surroundings seeds) deletion).run s).2.cluster
    (code (.write .set key bins tx (some options)) = some .generationMismatch ↔
      ¬ options.generationMode.Met r.generation) ∧
    (¬ options.generationMode.MetByDeletion r.generation →
      code deletion = some .generationMismatch ∧ left.nodes = s.cluster.nodes) ∧
    (options.generationMode.MetByDeletion r.generation →
      code deletion = some .ok ∧ left.nodes = (s.cluster.erase key.id).nodes) := by
  intro code deletion left
  obtain ⟨now, told, live⟩ := Option.bind_eq_some_iff.1 live
  have admits := ready.admits
  have deletes : deletion.command? = some (.delete (.ofOptions tx (some options)) key) := rfl
  have coded : code deletion = (deletion.answer (s.cluster.answer now _).1).places[0]?.map (·.code) :=
    codeAt_eq told ready.script attached seeds deletes 0
  have cluster : left = (s.cluster.delete now (.ofOptions tx (some options)) key).2 := by
    obtain ⟨t, run, atop⟩ := run_of_told told ready.script attached seeds deletes
    have left_eq : left = t.cluster := congrArg (fun x => x.2.cluster) run
    rw [left_eq, atop.cluster]
    rfl
  have reply : (s.cluster.answer now (.delete (.ofOptions tx (some options)) key)).1 =
      .flag (s.cluster.delete now (.ofOptions tx (some options)) key).1 := rfl
  refine ⟨?_, ?_, ?_⟩
  · have sets : (GateCall.write .set key bins tx (some options)).command? =
        some (.operate (.ofOptions tx (some options)) key (bins.map .write ++ [.readHeader])) := by
      rw [GateCall.command?, List.isEmpty_eq_false_iff.2 nonempty]
      rfl
    have coded : code (.write .set key bins tx (some options)) = some _ :=
      codeAt_eq told ready.script attached seeds sets 0
    rw [coded, ← Cluster.code_operate_sets admits live shared tx nonempty]
    exact Option.some_inj
  · intro unmet
    obtain ⟨g, refused⟩ := Cluster.delete_of_unmet admits live shared tx unmet
    rw [coded, reply, cluster, refused]
    exact ⟨rfl, rfl⟩
  · intro met
    have erased := Cluster.delete_of_met admits live shared tx met
    rw [coded, reply, cluster, erased]
    exact ⟨rfl, rfl⟩

/-- The contested record cannot be deleted as of a generation that it does not have. -/
theorem delete_guarded_by_equality_of_contest :
    let deletion := GateCall.delete contested none (some { generationMode := .expectEqual 2 })
    codeAt { hosts := [], attached := true } [] contest deletion 0 = some .generationMismatch ∧
      (((Gate.run (surroundings []) { hosts := [], attached := true } deletion).run contest).2.cluster.find?
        contested.id).isSome = true := by
  have ready : contest.Ready := ⟨⟨rfl, rfl⟩, rfl⟩
  have stored : (contest.live? contested.id).map (·.generation) = some 1 := by decide +kernel
  obtain ⟨r, live, first⟩ := Option.map_eq_some_iff.1 stored
  have unmet : ¬ (GenerationMode.expectEqual 2).MetByDeletion r.generation := by
    rw [GenerationMode.MetByDeletion, first]
    decide
  have nonempty : [(⟨"n", .int 1⟩ : Bin)] ≠ [] := List.cons_ne_nil _ _
  have attached : ({ hosts := [], attached := true } : Gate).attached = true := rfl
  have shared : ({ generationMode := .expectEqual 2 } : WriteOptions).uniqueOnly = false := rfl
  obtain ⟨-, refused, -⟩ := delete_guarded_by_equality ready attached [] live shared none nonempty
  obtain ⟨code, nodes⟩ := refused unmet
  refine ⟨code, ?_⟩
  rw [Cluster.find?_congr nodes, found_of_live live]
  rfl

/-- At least the fifth generation is asked for: the first cannot be written then, and can be deleted. -/
theorem deleted_below_guard :
    let options := some (WriteOptions.expectAtLeast {} 5)
    let deletion := GateCall.delete contested none options
    codeAt { hosts := [], attached := true } [] contest (.write .set contested [⟨"n", .int 1⟩] none options) 0 =
        some .generationMismatch ∧
      codeAt { hosts := [], attached := true } [] contest deletion 0 = some .ok ∧
      ((Gate.run (surroundings []) { hosts := [], attached := true } deletion).run contest).2.cluster.find?
        contested.id = none := by
  decide +kernel

end Session

end RecordGate
