import RecordGate.Store.Apply

/-!
# What a command makes of a record

`execute` splits in two: a list without writes reads the record that is there (`execute_of_reads`), and a
list with a write returns the record that `writeRecord` leaves behind (`execute_of_writes`). Of that record
`Written` says everything: where its bins come from, that its generation is the next one, when it expires,
and that it fits the limit.
-/

namespace RecordGate
set_option autoImplicit false

theorem bind_eq_ok_iff {ε α β : Type} {x : Except ε α} {f : α → Except ε β} {b : β} :
    x >>= f = .ok b ↔ ∃ a, x = .ok a ∧ f a = .ok b := by
  cases x with
  | error e => simp [bind, Except.bind]
  | ok a => simp [bind, Except.bind]

theorem bind_eq_error_iff {ε α β : Type} {x : Except ε α} {f : α → Except ε β} {e : ε} :
    x >>= f = .error e ↔ x = .error e ∨ ∃ a, x = .ok a ∧ f a = .error e := by
  cases x with
  | error e => simp [bind, Except.bind]
  | ok a => simp [bind, Except.bind]

theorem map_eq_ok_iff {ε α β : Type} {x : Except ε α} {f : α → β} {b : β} :
    x.map f = .ok b ↔ ∃ a, x = .ok a ∧ f a = b := by
  cases x <;> simp [Except.map]

/-! ## Reads and writes -/

/-- Reads have no part in the bins that operations make. -/
theorem applyAll_filter_isWrite (bins : BinMap) (ops : List Operation) :
    applyAll bins (ops.filter Operation.isWrite) = applyAll bins ops := by
  induction ops generalizing bins with
  | nil => rfl
  | cons op rest ih =>
    cases op with
    | read _ | readAll | readHeader => exact ih bins
    | write _ | append _ | prepend _ | add _ | touch => exact bind_congr ih

theorem Operation.isWrite_of_isTouch {op : Operation} (touch : op.isTouch = true) : op.isWrite = true := by
  cases op with
  | touch => rfl
  | _ => cases touch

theorem any_isWrite_of_isTouch {ops : List Operation} (touch : ops.any Operation.isTouch = true) :
    ops.any Operation.isWrite = true := by
  obtain ⟨op, member, isTouch⟩ := List.any_eq_true.1 touch
  exact List.any_eq_true.2 ⟨op, member, Operation.isWrite_of_isTouch isTouch⟩

section Execute

variable {existing : Option StoredRecord} {setName : String} {policy : WritePolicy}
  {ops : List Operation} {limit : Nat} {now : UInt32}

/-- Operations that do not write return the record that is there. -/
theorem execute_of_reads (reads : ops.any Operation.isWrite = false) :
    execute existing setName policy ops limit now =
      match existing with
      | some r => .ok { state := none, record := r.view (Operation.selection ops) }
      | none => .error .recordMissing := by
  have touch : ops.any Operation.isTouch = false := by
    rw [← Bool.not_eq_true]
    intro touch
    rw [any_isWrite_of_isTouch touch] at reads
    cases reads
  cases existing <;> simp [execute, touch, reads] <;> rfl

/-- Operations of which one writes return the record that they leave behind. A touch needs a record. -/
theorem execute_of_writes (writes : ops.any Operation.isWrite = true) :
    execute existing setName policy ops limit now =
      if existing.isNone && ops.any Operation.isTouch then .error .touchMissing
      else (writeRecord existing setName policy ops limit now).map fun r =>
        { state := some r, record := r.view (Operation.selection ops) } := by
  unfold execute
  by_cases touch : (existing.isNone && ops.any Operation.isTouch) = true
  · rw [if_pos touch, if_pos touch]
    rfl
  · rw [if_neg touch, if_neg touch, if_pos writes]
    cases writeRecord existing setName policy ops limit now <;> rfl

end Execute

/-! ## The record that a write leaves behind -/

/-- What a write leaves behind of a record, or of none. -/
structure Written (existing : Option StoredRecord) (setName : String) (policy : WritePolicy)
    (ops : List Operation) (limit : Nat) (now : UInt32) (next : StoredRecord) : Prop where
  /-- The bins made are those of the record, or a version of their own. -/
  bins : ∃ made, writeBins existing policy ops = .ok (.apply, made) ∧ next.bins = made ∧
      next.duplicates = (existing.map (·.duplicates)).getD [] ∨
    writeBins existing policy ops = .ok (.duplicate, made) ∧
      next.bins = (existing.map (·.bins)).getD ∅ ∧
      next.duplicates = (existing.map (·.duplicates)).getD [] ++ [made]
  setName : next.setName = (existing.map (·.setName)).getD setName
  generation : next.generation = nextGeneration ((existing.map (·.generation)).getD 0)
  expiration : next.expiration = expiryAt now policy.expiration
  sound : next.corrupted = false
  fits : next.size ≤ limit

theorem written_of_writeRecord {existing : Option StoredRecord} {setName : String}
    {policy : WritePolicy} {ops : List Operation} {limit : Nat} {now : UInt32} {next : StoredRecord}
    (ok : writeRecord existing setName policy ops limit now = .ok next) :
    Written existing setName policy ops limit now next := by
  obtain ⟨⟨disposition, made⟩, madeBins, rest⟩ := bind_eq_ok_iff.1 ok
  cases disposition with
  | apply =>
    simp only [if_true] at rest
    split at rest
    · next fits =>
      cases rest
      refine ⟨⟨made, .inl ⟨madeBins, rfl, ?_⟩⟩, ?_, ?_, rfl, rfl, fits⟩ <;> cases existing <;> rfl
    · cases rest
  | duplicate =>
    simp only [reduceCtorEq, if_false] at rest
    split at rest
    · next fits =>
      cases rest
      refine ⟨⟨made, .inr ⟨madeBins, ?_, ?_⟩⟩, ?_, ?_, rfl, rfl, fits⟩ <;> cases existing <;> rfl
    · cases rest

/-- A check that a write passes stands before the bins it makes. -/
theorem checkWrite_of_writeBins {existing : Option StoredRecord} {policy : WritePolicy}
    {ops : List Operation} {disposition : Disposition} {made : BinMap}
    (ok : writeBins existing policy ops = .ok (disposition, made)) :
    checkWrite existing policy = .ok disposition ∧
      applyAll (if disposition = .apply ∧ policy.existence.replaces = true then ∅
        else (existing.map (·.bins)).getD ∅) ops = .ok made := by
  obtain ⟨disposition', check, rest⟩ := bind_eq_ok_iff.1 ok
  obtain ⟨made', apply, same⟩ := bind_eq_ok_iff.1 rest
  cases same
  exact ⟨check, apply⟩

/-- A write that does not replace makes its bins of those that are there. -/
theorem writeBins_of_keeps {existing : Option StoredRecord} {policy : WritePolicy} {disposition : Disposition}
    (keeps : policy.existence.replaces = false) (check : checkWrite existing policy = .ok disposition)
    (ops : List Operation) :
    writeBins existing policy ops =
      (applyAll ((existing.map (·.bins)).getD ∅) ops).map (disposition, ·) := by
  simp only [writeBins, check, keeps, Bool.false_eq_true, and_false, if_false]
  rfl

section Merging

variable {policy : WritePolicy} (merges : policy.existence = .update)
  (unchecked : policy.generationCheck = .unchecked)
include merges unchecked

theorem checkWrite_of_merge (existing : Option StoredRecord) : checkWrite existing policy = .ok .apply := by
  cases existing <;> simp only [checkWrite, checkExistence, checkGeneration, merges, unchecked] <;> rfl

/-- What is merged without a check becomes the bins of the record. -/
theorem writeBins_of_merge (existing : Option StoredRecord) (ops : List Operation) :
    writeBins existing policy ops = (applyAll ((existing.map (·.bins)).getD ∅) ops).map (.apply, ·) := by
  have keeps : policy.existence.replaces = false := by rw [merges, ExistencePolicy.replaces]
  exact writeBins_of_keeps keeps (checkWrite_of_merge merges unchecked existing) ops

end Merging

/-- Once its bins are made, a write fails for its size only. -/
theorem tooBig_of_writeBins {existing : Option StoredRecord} {setName : String} {policy : WritePolicy}
    {ops : List Operation} {limit : Nat} {now : UInt32} {made : Disposition × BinMap} {refusal : Refusal}
    (ok : writeBins existing policy ops = .ok made)
    (refused : writeRecord existing setName policy ops limit now = .error refusal) :
    ∃ size, refusal = .tooBig size limit := by
  rcases bind_eq_error_iff.1 refused with unmade | ⟨⟨disposition, bins⟩, -, rest⟩
  · rw [ok] at unmade
    cases unmade
  · cases disposition <;> simp only [if_true, reduceCtorEq, if_false] at rest <;> split at rest <;>
      cases rest <;> exact ⟨_, rfl⟩

/-- A refused check refuses the write. -/
theorem writeBins_of_checkWrite {existing : Option StoredRecord} {policy : WritePolicy} {refusal : Refusal}
    (refused : checkWrite existing policy = .error refusal) (ops : List Operation) :
    writeBins existing policy ops = .error refusal := by
  rw [writeBins, refused]
  rfl

/-- A write whose bins cannot be made is refused for them; only a touch is refused before. -/
theorem execute_of_unmade {existing : Option StoredRecord} {setName : String} {policy : WritePolicy}
    {ops : List Operation} {limit : Nat} {now : UInt32} (writes : ops.any Operation.isWrite = true)
    (untouched : (existing.isNone && ops.any Operation.isTouch) = false) {refusal : Refusal}
    (refused : writeBins existing policy ops = .error refusal) :
    execute existing setName policy ops limit now = .error refusal := by
  rw [execute_of_writes writes, untouched, if_neg Bool.false_ne_true, writeRecord, refused]
  rfl

end RecordGate
