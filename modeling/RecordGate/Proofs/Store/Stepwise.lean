import Mathlib.Logic.Function.Iterate
import RecordGate.Proofs.Store.Execute

/-!
# A list of writes, all at once or one by one

Under a policy that merges and checks no generation, a command of many operations makes the record that its
operations make one by one, in a single generation (`executeEach_merged`). Where the command succeeds, its
operations one by one fail only if some of them leave a record in between that is too big
(`executeEach_tooBig`).
-/

namespace RecordGate
set_option autoImplicit false

/-- Run operations one by one, each as a command of its own on what the one before it left behind. -/
def executeEach (setName : String) (policy : WritePolicy) (limit : Nat) (now : UInt32)
    (existing : Option StoredRecord) (ops : List Operation) : Except Refusal (Option StoredRecord) :=
  ops.foldlM (fun held op =>
    (execute held setName policy [op] limit now).map fun outcome => outcome.state.or held) existing

namespace StoredRecord

/-- A record after some writes that have merged bins into it. -/
def merged (r : StoredRecord) (writes : Nat) (bins : BinMap) (expiration : UInt32) : StoredRecord :=
  { r with bins, generation := nextGeneration^[writes] r.generation, expiration, corrupted := false }

/-- A record of which the bins are forgotten. -/
def emptied (r : StoredRecord) : StoredRecord := { r with bins := ∅ }

/-- Of several merges the last bins remain. -/
theorem merged_merged (r : StoredRecord) (first rest : Nat) (made bins : BinMap) (expiration : UInt32) :
    (r.merged first made expiration).merged rest bins expiration =
      r.merged (rest + first) bins expiration := by
  simp only [merged, Function.iterate_add_apply]

/-- Merge what operations make of the bins of a record, unless it gets too big. -/
def merge (r : StoredRecord) (ops : List Operation) (expiration : UInt32) (limit : Nat) :
    Except Refusal StoredRecord := do
  let bins ← applyAll r.bins ops
  let next := r.merged 1 bins expiration
  if next.size ≤ limit then return next else throw (.tooBig next.size limit)

section Merge

variable {r next : StoredRecord} {ops : List Operation} {bins : BinMap} {expiration : UInt32} {limit : Nat}
  {refusal : Refusal}

theorem merge_of_fits (made : applyAll r.bins ops = .ok bins) (fits : (r.merged 1 bins expiration).size ≤ limit) :
    r.merge ops expiration limit = .ok (r.merged 1 bins expiration) := by
  rw [merge, made]
  exact if_pos fits

theorem of_merge (merged : r.merge ops expiration limit = .ok next) :
    ∃ bins, applyAll r.bins ops = .ok bins ∧ (r.merged 1 bins expiration).size ≤ limit ∧
      next = r.merged 1 bins expiration := by
  obtain ⟨bins, made, rest⟩ := bind_eq_ok_iff.1 merged
  refine ⟨bins, made, ?_⟩
  dsimp only at rest
  split at rest
  · next fits =>
    cases rest
    exact ⟨fits, rfl⟩
  · cases rest

/-- Operations that go well together are refused for the size of what they make. -/
theorem tooBig_of_merge (made : applyAll r.bins ops = .ok bins)
    (refused : r.merge ops expiration limit = .error refusal) :
    refusal = .tooBig (r.merged 1 bins expiration).size limit ∧ limit < (r.merged 1 bins expiration).size := by
  rw [merge, made] at refused
  by_cases fits : (r.merged 1 bins expiration).size ≤ limit
  · cases (if_pos fits).symm.trans refused
  · cases (if_neg fits).symm.trans refused
    exact ⟨rfl, Nat.lt_of_not_le fits⟩

end Merge

end StoredRecord

/-- A write that is applied merges into the record, or into what a replacing write leaves of it. -/
theorem writeRecord_of_applies {existing : Option StoredRecord} {policy : WritePolicy}
    (applies : checkWrite existing policy = .ok .apply) (setName : String) (ops : List Operation)
    (limit : Nat) (now : UInt32) :
    writeRecord existing setName policy ops limit now =
      (if policy.existence.replaces then (existing.getD { setName }).emptied
        else existing.getD { setName }).merge ops (expiryAt now policy.expiration) limit := by
  have held : (existing.map (·.bins)).getD ∅ = (existing.getD { setName }).bins := by
    cases existing <;> rfl
  simp only [writeRecord, writeBins, applies, held, StoredRecord.merge, bind, Except.bind, true_and]
  cases policy.existence.replaces with
  | true =>
    simp only [if_true, StoredRecord.emptied]
    cases applyAll ∅ ops <;> rfl
  | false =>
    simp only [Bool.false_eq_true, if_false]
    cases applyAll (existing.getD { setName }).bins ops <;> rfl

section Merging

variable {policy : WritePolicy} (merges : policy.existence = .update)
  (unchecked : policy.generationCheck = .unchecked)
include merges unchecked

theorem writeRecord_of_merge (existing : Option StoredRecord) (setName : String) (ops : List Operation)
    (limit : Nat) (now : UInt32) :
    writeRecord existing setName policy ops limit now =
      (existing.getD { setName }).merge ops (expiryAt now policy.expiration) limit := by
  have keeps : policy.existence.replaces = false := by rw [merges, ExistencePolicy.replaces]
  rw [writeRecord_of_applies (checkWrite_of_merge merges unchecked existing), keeps]
  rfl

variable {existing : Option StoredRecord} {setName : String} {limit : Nat} {now : UInt32}

theorem execute_of_merge {ops : List Operation} (writes : ops.any Operation.isWrite = true)
    (touched : existing = none → ops.any Operation.isTouch = false) :
    execute existing setName policy ops limit now =
      ((existing.getD { setName }).merge ops (expiryAt now policy.expiration) limit).map fun next =>
        { state := some next, record := next.view (Operation.selection ops) } := by
  rw [execute_of_writes writes, writeRecord_of_merge merges unchecked, if_neg]
  cases existing with
  | none => simp [touched rfl]
  | some r => simp

/-- The first of several operations is a command of its own, and the others follow on what it makes. -/
theorem executeEach_cons {op : Operation} (writes : op.isWrite = true)
    (touched : existing = none → op.isTouch = false) (rest : List Operation) :
    executeEach setName policy limit now existing (op :: rest) =
      ((existing.getD { setName }).merge [op] (expiryAt now policy.expiration) limit >>= fun next =>
        executeEach setName policy limit now (some next) rest) := by
  rw [executeEach, List.foldlM_cons, execute_of_merge merges unchecked]
  · cases (existing.getD { setName }).merge [op] (expiryAt now policy.expiration) limit <;> rfl
  · simpa using writes
  · simpa using touched

/-- Operations that go well one by one go well together, and leave behind the same but for a generation
for each of them. -/
theorem executeEach_merged {op : Operation} {rest : List Operation}
    (writes : ∀ o ∈ op :: rest, o.isWrite = true)
    (touched : existing = none → ∀ o ∈ op :: rest, o.isTouch = false) {state : Option StoredRecord}
    (ok : executeEach setName policy limit now existing (op :: rest) = .ok state) :
    ∃ bins, applyAll (existing.getD { setName }).bins (op :: rest) = .ok bins ∧
      ((existing.getD { setName }).merged 1 bins (expiryAt now policy.expiration)).size ≤ limit ∧
      state = some ((existing.getD { setName }).merged (rest.length + 1) bins
        (expiryAt now policy.expiration)) := by
  induction rest generalizing op existing with
  | nil =>
    rw [executeEach_cons merges unchecked (writes op List.mem_cons_self)
      fun missing => touched missing op List.mem_cons_self] at ok
    obtain ⟨next, merged, rest⟩ := bind_eq_ok_iff.1 ok
    cases rest
    obtain ⟨bins, made, fits, rfl⟩ := StoredRecord.of_merge merged
    exact ⟨bins, made, fits, rfl⟩
  | cons second rest ih =>
    rw [executeEach_cons merges unchecked (writes op List.mem_cons_self)
      fun missing => touched missing op List.mem_cons_self] at ok
    obtain ⟨next, merged, follow⟩ := bind_eq_ok_iff.1 ok
    obtain ⟨made, first, -, rfl⟩ := StoredRecord.of_merge merged
    -- The others find a record, so any of them may be a touch.
    obtain ⟨bins, others, fits, rfl⟩ := ih (List.forall_mem_cons.1 writes).2
        (fun missing => absurd missing (Option.some_ne_none _)) follow
    refine ⟨bins, ?_, fits, ?_⟩
    · exact bind_eq_ok_iff.2 ⟨made, by simpa [applyAll] using first, others⟩
    · rw [Option.getD_some, StoredRecord.merged_merged]
      rfl

/-- Operations that go well together fail one by one only for what they make in between: some of them make
too big a record, and others follow. -/
theorem executeEach_tooBig {op : Operation} {rest : List Operation}
    (writes : ∀ o ∈ op :: rest, o.isWrite = true)
    (touched : existing = none → ∀ o ∈ op :: rest, o.isTouch = false) {bins : BinMap}
    (made : applyAll (existing.getD { setName }).bins (op :: rest) = .ok bins)
    (fits : ((existing.getD { setName }).merged 1 bins (expiryAt now policy.expiration)).size ≤ limit)
    {refusal : Refusal}
    (refused : executeEach setName policy limit now existing (op :: rest) = .error refusal) :
    ∃ before here after held, op :: rest = before ++ here :: after ∧ after ≠ [] ∧
      executeEach setName policy limit now existing before = .ok held ∧
      execute held setName policy [here] limit now = .error refusal ∧
      ∃ size, refusal = .tooBig size limit := by
  induction rest generalizing op existing with
  | nil =>
    rw [executeEach_cons merges unchecked (writes op List.mem_cons_self)
      fun missing => touched missing op List.mem_cons_self, StoredRecord.merge_of_fits made fits] at refused
    cases refused
  | cons second rest ih =>
    obtain ⟨between, first, others⟩ := bind_eq_ok_iff.1 made
    have alone : applyAll (existing.getD { setName }).bins [op] = .ok between := by
      simpa [applyAll] using first
    have opWrites := writes op List.mem_cons_self
    have opTouched : existing = none → op.isTouch = false :=
      fun missing => touched missing op List.mem_cons_self
    rw [executeEach_cons merges unchecked opWrites opTouched] at refused
    rcases bind_eq_error_iff.1 refused with early | ⟨next, merged, late⟩
    · obtain ⟨rfl, -⟩ := StoredRecord.tooBig_of_merge alone early
      refine ⟨[], op, second :: rest, existing, rfl, List.cons_ne_nil _ _, rfl, ?_, _, rfl⟩
      rw [execute_of_merge merges unchecked (by simpa using opWrites) (by simpa using opTouched), early]
      rfl
    · obtain ⟨between', alone', -, same⟩ := StoredRecord.of_merge merged
      cases alone.symm.trans alone'
      -- What the whole list makes is made of the first record between, and is no bigger than it was.
      have onward : applyAll next.bins (second :: rest) = .ok bins := by
        rw [same]
        exact others
      have roomy : (next.merged 1 bins (expiryAt now policy.expiration)).size ≤ limit := by
        rw [same]
        exact fits
      obtain ⟨before, here, after, held, split, more, ran, failed, size⟩ :=
        ih (List.forall_mem_cons.1 writes).2
          (fun missing => absurd missing (Option.some_ne_none _)) onward roomy late
      refine ⟨op :: before, here, after, held, congrArg (op :: ·) split, more, ?_, failed, size⟩
      rw [executeEach_cons merges unchecked opWrites opTouched, merged]
      exact ran

/-- **Writes all at once are writes one by one.** Writes that go well one by one go well together, and leave
behind the same record but for its generation, which moves on once and not once for each of them. Writes that
go well together fail one by one only where a record in between is too big. -/
theorem executeEach_agrees {ops : List Operation} (nonempty : ops ≠ [])
    (writes : ∀ op ∈ ops, op.isWrite = true)
    (touched : existing = none → ∀ op ∈ ops, op.isTouch = false) :
    (∀ state, executeEach setName policy limit now existing ops = .ok state →
      ∃ r outcome, state = some r ∧
        r.generation = nextGeneration^[ops.length] ((existing.map (·.generation)).getD 0) ∧
        execute existing setName policy ops limit now = .ok outcome ∧
        outcome.state = some { r with
          generation := nextGeneration ((existing.map (·.generation)).getD 0) }) ∧
    ∀ outcome refusal, execute existing setName policy ops limit now = .ok outcome →
      executeEach setName policy limit now existing ops = .error refusal →
      ∃ before op after held size, ops = before ++ op :: after ∧ after ≠ [] ∧
        executeEach setName policy limit now existing before = .ok held ∧
        execute held setName policy [op] limit now = .error refusal ∧ refusal = .tooBig size limit := by
  obtain ⟨op, rest, rfl⟩ := List.exists_cons_of_ne_nil nonempty
  have whole : execute existing setName policy (op :: rest) limit now = _ :=
    execute_of_merge merges unchecked (by simp [writes op List.mem_cons_self]) (by simpa using touched)
  have generation : (existing.map (·.generation)).getD 0 = (existing.getD { setName }).generation := by
    cases existing <;> rfl
  rw [whole, generation]
  constructor
  · intro state ok
    obtain ⟨bins, made, fits, rfl⟩ := executeEach_merged merges unchecked writes touched ok
    rw [StoredRecord.merge_of_fits made fits]
    exact ⟨_, _, rfl, rfl, rfl, rfl⟩
  · intro outcome refusal ok refused
    cases merged : (existing.getD { setName }).merge (op :: rest) (expiryAt now policy.expiration)
        limit with
    | error early =>
      rw [merged] at ok
      cases ok
    | ok next =>
      obtain ⟨bins, made, fits, -⟩ := StoredRecord.of_merge merged
      obtain ⟨before, here, after, held, split, more, ran, failed, size, rfl⟩ :=
        executeEach_tooBig merges unchecked writes touched made fits refused
      exact ⟨before, here, after, held, size, split, more, ran, failed, rfl⟩

end Merging

/-- A bin is filled with octets, and removed again. -/
def filledAndRemoved : List Operation := [.write ⟨"v", .bytes [1, 2, 3]⟩, .write ⟨"v", .null⟩]

theorem executeEach_agrees_filledAndRemoved :
    (∃ r outcome, executeEach "s" {} 5 0 none filledAndRemoved = .ok (some r) ∧ r.generation = 2 ∧
      execute none "s" {} filledAndRemoved 5 0 = .ok outcome ∧
      outcome.state = some { r with generation := 1 }) ∧
    ∃ before op after held, filledAndRemoved = before ++ op :: after ∧ after ≠ [] ∧
      executeEach "s" {} 4 0 none before = .ok held ∧
      execute held "s" {} [op] 4 0 = .error (.tooBig 5 4) := by
  have nonempty : filledAndRemoved ≠ [] := List.cons_ne_nil _ _
  have writes : ∀ op ∈ filledAndRemoved, op.isWrite = true := by simp [filledAndRemoved, Operation.isWrite]
  have touched : (none : Option StoredRecord) = none → ∀ op ∈ filledAndRemoved, op.isTouch = false := by
    simp [filledAndRemoved, Operation.isTouch]
  constructor
  · obtain ⟨r, outcome, state, generation, whole, same⟩ :=
      (executeEach_agrees rfl rfl nonempty writes touched).1 _ (rfl : executeEach "s" {} 5 0 none _ = .ok _)
    cases state
    exact ⟨_, outcome, rfl, generation, whole, same⟩
  · have whole : ∃ outcome, execute none "s" {} filledAndRemoved 4 0 = .ok outcome := ⟨_, rfl⟩
    have refused : executeEach "s" {} 4 0 none filledAndRemoved = .error (.tooBig 5 4) := rfl
    obtain ⟨outcome, whole⟩ := whole
    obtain ⟨before, op, after, held, -, split, more, ran, failed, -⟩ :=
      (executeEach_agrees rfl rfl nonempty writes touched).2 _ _ whole refused
    exact ⟨before, op, after, held, split, more, ran, failed⟩

end RecordGate
