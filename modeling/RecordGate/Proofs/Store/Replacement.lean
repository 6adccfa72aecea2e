import RecordGate.Proofs.Store.Stepwise

/-!
# Replacing a record

A write that replaces makes its bins of none, so its current bins are the same whatever was stored. The
conflicting versions of the record stay (`replace_keeps_versions`): they are read beside the new bins, and
count for the size.
-/

namespace RecordGate
set_option autoImplicit false

/-- Runs of a command that fail alike, or leave behind and return the same bins and versions. -/
inductive ReadAlike : Except Refusal Outcome → Except Refusal Outcome → Prop
  | refused (refusal : Refusal) : ReadAlike (.error refusal) (.error refusal)
  | made {a b : Outcome} {next next' : StoredRecord} (left : a.state = some next)
      (left' : b.state = some next') (bins : next'.bins = next.bins)
      (duplicates : next'.duplicates = next.duplicates) (shown : b.record.bins = a.record.bins)
      (versions : b.record.versions = a.record.versions) : ReadAlike (.ok a) (.ok b)

/-- How many versions a run leaves beside the bins, if it succeeds. -/
def versionsLeft (run : Except Refusal Outcome) : Option Nat :=
  run.toOption.bind fun outcome => outcome.state.map (·.duplicates.length)

theorem ReadAlike.versionsLeft_eq {x y : Except Refusal Outcome} (alike : ReadAlike x y) :
    versionsLeft x = versionsLeft y := by
  cases alike with
  | refused refusal => rfl
  | made left left' _ duplicates _ _ => simp [versionsLeft, Except.toOption, left, left', duplicates]

section Replace

variable {policy : WritePolicy} (replaces : policy.existence.replaces = true) {ops : List Operation}
  (writes : ops.any Operation.isWrite = true)
include replaces writes

/-- A replacing write merges into the record without its bins. -/
theorem execute_of_replaces {r : StoredRecord} (applies : checkWrite (some r) policy = .ok .apply)
    (setName : String) (limit : Nat) (now : UInt32) :
    execute (some r) setName policy ops limit now =
      (r.emptied.merge ops (expiryAt now policy.expiration) limit).map fun next =>
        { state := some next, record := next.view (Operation.selection ops) } := by
  have present : ((some r).isNone && ops.any Operation.isTouch) = false := Bool.false_and _
  rw [execute_of_writes writes, present, writeRecord_of_applies applies, replaces]
  rfl

variable {r : StoredRecord} (applies : checkWrite (some r) policy = .ok .apply) (setName : String)
  (limit : Nat) (now : UInt32)
include applies

theorem replace_of_unmade {refusal : Refusal} (unmade : applyAll ∅ ops = .error refusal) :
    execute (some r) setName policy ops limit now = .error refusal := by
  have held : r.emptied.bins = ∅ := rfl
  rw [execute_of_replaces replaces writes applies, StoredRecord.merge, held, unmade]
  rfl

theorem replace_of_made {bins : BinMap} (made : applyAll ∅ ops = .ok bins) :
    execute (some r) setName policy ops limit now =
      let next := r.emptied.merged 1 bins (expiryAt now policy.expiration)
      let size := bins.size + total (r.duplicates.map BinMap.size)
      if size ≤ limit then .ok { state := some next, record := next.view (Operation.selection ops) }
      else .error (.tooBig size limit) := by
  have held : r.emptied.bins = ∅ := rfl
  rw [execute_of_replaces replaces writes applies, StoredRecord.merge, held, made]
  exact apply_ite (Except.map _) _ _ _

end Replace

/-- **A replacing write makes the same bins of any records, and keeps the versions of each.** It is refused
alike for all of them if its operations cannot be made on no bins. Else it makes what they make of none, and is
refused only for the size that the versions of a record add to that. Records with the same versions are read
alike after it. -/
theorem replace_keeps_versions {policy : WritePolicy} (replaces : policy.existence.replaces = true)
    {ops : List Operation} (writes : ops.any Operation.isWrite = true) {a b : StoredRecord}
    (applies : ∀ r ∈ [a, b], checkWrite (some r) policy = .ok .apply) (setName : String) (limit : Nat)
    (now : UInt32) :
    let run r := execute (some r) setName policy ops limit now
    ((∃ refusal, applyAll ∅ ops = .error refusal ∧ ∀ r ∈ [a, b], run r = .error refusal) ∨
      ∃ bins, applyAll ∅ ops = .ok bins ∧ ∀ r ∈ [a, b],
        let size := bins.size + total (r.duplicates.map BinMap.size)
        (limit < size ∧ run r = .error (.tooBig size limit)) ∨
        (size ≤ limit ∧ ∃ next, next.bins = bins ∧ next.duplicates = r.duplicates ∧
          run r = .ok { state := some next, record := next.view (Operation.selection ops) })) ∧
    (a.duplicates = b.duplicates → ReadAlike (run a) (run b)) := by
  intro run
  cases made : applyAll ∅ ops with
  | error refusal =>
    have refused : ∀ r ∈ [a, b], run r = .error refusal := by
      intro r member
      exact replace_of_unmade replaces writes (applies r member) setName limit now made
    refine ⟨.inl ⟨refusal, rfl, refused⟩, fun _ => ?_⟩
    rw [refused a (by simp), refused b (by simp)]
    exact .refused refusal
  | ok bins =>
    have ran (r : StoredRecord) (member : r ∈ [a, b]) :=
      replace_of_made replaces writes (applies r member) setName limit now made
    constructor
    · refine .inr ⟨bins, rfl, fun r member => ?_⟩
      by_cases fits : bins.size + total (r.duplicates.map BinMap.size) ≤ limit
      · exact .inr ⟨fits, r.emptied.merged 1 bins (expiryAt now policy.expiration), rfl, rfl,
          (ran r member).trans (if_pos fits)⟩
      · exact .inl ⟨Nat.lt_of_not_le fits, (ran r member).trans (if_neg fits)⟩
    · intro same
      have first : run a = _ := ran a (by simp)
      have second : run b = _ := ran b (by simp)
      rw [first, second, ← same]
      dsimp only
      split
      · have versions (selection : BinSelection) :
            ((b.emptied.merged 1 bins (expiryAt now policy.expiration)).view selection).versions =
              ((a.emptied.merged 1 bins (expiryAt now policy.expiration)).view selection).versions := by
          simp [StoredRecord.view, StoredRecord.merged, StoredRecord.emptied, same]
        exact .made rfl rfl rfl same.symm rfl (versions _)
      · exact .refused _

/-- A record of which a conflicting version was kept. -/
def disputed : StoredRecord where
  bins := .ofList [("v", .int 1)]
  generation := 2
  duplicates := [.ofList [("v", .int 2)]]

/-- The same record without the conflict. -/
def undisputed : StoredRecord := { disputed with duplicates := [] }

/-- Write a bin over a record. -/
def overwrite (policy : WritePolicy) (limit : Nat) (r : StoredRecord) : Except Refusal Outcome :=
  execute (some r) "s" policy [.write ⟨"w", .int 3⟩] limit 0

/-- Both records get the bins that the write makes of none; the disputed one keeps its version. -/
theorem replace_keeps_versions_of_disputed :
    let run := overwrite { existence := .replaceOnly, generationCheck := .equal, generation := 2 } 20
    ∃ next next', (run disputed).toOption.bind (·.state) = some next ∧
      (run undisputed).toOption.bind (·.state) = some next' ∧
      applyAll ∅ [.write ⟨"w", .int 3⟩] = .ok next.bins ∧ next'.bins = next.bins ∧
      next.duplicates = disputed.duplicates ∧ next'.duplicates = [] := by
  intro run
  have applies : ∀ r ∈ [disputed, undisputed], checkWrite (some r)
      { existence := .replaceOnly, generationCheck := .equal, generation := 2 } = .ok .apply := by
    simp only [List.forall_mem_cons]
    exact ⟨rfl, rfl, List.forall_mem_nil _⟩
  have writes : [Operation.write ⟨"w", .int 3⟩].any Operation.isWrite = true := rfl
  have succeeds : ∀ r ∈ [disputed, undisputed], (run r).toBool = true := by decide +kernel
  obtain ⟨⟨refusal, -, refused⟩ | ⟨bins, ofNone, replaced⟩, -⟩ :=
    replace_keeps_versions rfl writes applies "s" 20 0
  · have gone : run disputed = .error refusal := refused disputed List.mem_cons_self
    have ok := succeeds disputed List.mem_cons_self
    rw [gone] at ok
    cases ok
  · have left : ∀ r ∈ [disputed, undisputed], ∃ next, (run r).toOption.bind (·.state) = some next ∧
        next.bins = bins ∧ next.duplicates = r.duplicates := by
      intro r member
      obtain ⟨-, tooBig⟩ | ⟨-, next, made, kept, ran⟩ := replaced r member
      · have ok := succeeds r member
        rw [show run r = _ from tooBig] at ok
        cases ok
      · rw [show run r = _ from ran]
        exact ⟨next, rfl, made, kept⟩
    obtain ⟨next, state, made, kept⟩ := left disputed List.mem_cons_self
    obtain ⟨next', state', made', kept'⟩ := left undisputed (List.mem_cons_of_mem _ List.mem_cons_self)
    exact ⟨next, next', state, state', made ▸ ofNone, made'.trans made.symm, kept, kept'⟩

/-- What is read after a replacing write may be a version from before it, and such a version may be what makes
the write too big. -/
theorem overwrite_not_readAlike :
    let run := overwrite { existence := .replace }
    (∀ r ∈ [disputed, undisputed], checkWrite (some r) { existence := .replace } = .ok .apply) ∧
      ¬ReadAlike (run 20 disputed) (run 20 undisputed) ∧
      ¬ReadAlike (run 10 disputed) (run 10 undisputed) := by
  intro run
  refine ⟨?_, ?_, ?_⟩
  · simp only [List.forall_mem_cons]
    exact ⟨rfl, rfl, List.forall_mem_nil _⟩
  · intro alike
    have differ : versionsLeft (run 20 disputed) ≠ versionsLeft (run 20 undisputed) := by decide +kernel
    exact differ alike.versionsLeft_eq
  · intro alike
    have differ : versionsLeft (run 10 disputed) ≠ versionsLeft (run 10 undisputed) := by decide +kernel
    exact differ alike.versionsLeft_eq

end RecordGate
