import RecordGate.Proofs.Session.GuardedDelete
import RecordGate.Proofs.Session.MapWrites

/-!
# How writes end

A write of bins is refused by the conditions of its options, or for the first bin that has a fault, or for the
size of what it makes, in this order, and otherwise succeeds (`Cluster.code_operate_bins`). Whether a bin has
a fault is a matter of types: each bin that was written before is held with the type of its operand. A touch
has no bins, and its size counts only where it is kept beside the record (`Cluster.code_operate_touch`).
-/

namespace RecordGate
set_option autoImplicit false

/-! ## Conditions -/

/-- Whether the conditions of options let a write pass: there is no record, or it need not be new and its
generation is as it should be. -/
def WriteOptions.Passes (options : Option WriteOptions) (existing : Option StoredRecord) : Prop :=
  ∀ o ∈ options, ∀ r ∈ existing, o.uniqueOnly = false ∧ o.generationMode.Met r.generation

section Conditions

variable {options : Option WriteOptions} {existing : Option StoredRecord} (tx : Option TransactionOptions)

theorem checkWrite_of_passes (passes : WriteOptions.Passes options existing) :
    ∃ disposition, checkWrite existing (.ofOptions tx options) = .ok disposition := by
  cases existing with
  | none =>
    refine ⟨.apply, ?_⟩
    cases options with
    | none => rfl
    | some o =>
      rw [WritePolicy.ofOptions]
      cases o.uniqueOnly <;> rfl
  | some r =>
    cases options with
    | none => exact ⟨_, rfl⟩
    | some o =>
      obtain ⟨shared, met⟩ := passes o rfl r rfl
      exact checkWrite_of_met shared tx r met

theorem checkWrite_of_fails (fails : ¬ WriteOptions.Passes options existing) :
    ∃ refusal, checkWrite existing (.ofOptions tx options) = .error refusal ∧
      (refusal.code = .keyExists ∨ refusal.code = .generationError) := by
  simp only [WriteOptions.Passes, not_forall] at fails
  obtain ⟨o, rfl, r, rfl, fails⟩ := fails
  cases unique : o.uniqueOnly with
  | true => exact ⟨_, checkWrite_of_unique unique r, .inl rfl⟩
  | false =>
    obtain ⟨g, refused⟩ := checkWrite_of_unmet unique tx r fun met => fails ⟨unique, met⟩
    exact ⟨_, refused, .inr rfl⟩

end Conditions

/-! ## Faults of bins -/

/-- An operation that does not write makes the bins that it finds. -/
theorem applyOperation_of_reads {op : Operation} (reads : op.isWrite = false) (bins : BinMap) :
    applyOperation bins op = .ok bins := by
  cases op <;> first | rfl | cases reads

theorem typeName_of_addValue {bin : Bin} {value : Option Value} {sum : Value}
    (ok : addValue bin value = .ok sum) : sum.typeName = bin.value.typeName := by
  obtain ⟨name, operand⟩ := bin
  cases value with
  | none => cases operand <;> cases ok <;> rfl
  | some value => cases value <;> cases operand <;> cases ok <;> rfl

theorem typeName_of_joined {side : End} {bin : Bin} {value : Option Value} {whole : Value}
    (ok : joinValue side bin value = .ok whole) : whole.typeName = bin.value.typeName := by
  obtain ⟨name, operand⟩ := bin
  cases value with
  | none => cases operand <;> cases ok <;> rfl
  | some value => cases value <;> cases operand <;> cases ok <;> rfl

/-- Bins are held under the same names, with the same types. -/
def SameTypes (held held' : BinMap) : Prop :=
  ∀ name, (held'.get? name).map Value.typeName = (held.get? name).map Value.typeName

theorem SameTypes.refl (held : BinMap) : SameTypes held held := fun _ => rfl

namespace Gate.WriteKind

/-- The first fault of bins that are written one after another. -/
def firstFault? (kind : WriteKind) (held : BinMap) : List Bin → Option ResultCode
  | [] => none
  | bin :: rest => (kind.fault? held bin).or (kind.firstFault? (held.insert bin.name bin.value) rest)

variable {kind : WriteKind} {held held' : BinMap}

theorem fault?_congr (same : kind = .set ∨ SameTypes held held') (bin : Bin) :
    kind.fault? held' bin = kind.fault? held bin := by
  rcases same with rfl | same
  · rfl
  · have types (held : BinMap) : (held.get? bin.name).any (·.typeName != bin.value.typeName) =
        ((held.get? bin.name).map Value.typeName).any (· != bin.value.typeName) := by
      cases held.get? bin.name <;> rfl
    rw [fault?, fault?, types, types, same bin.name]

/-- What is joined or added is held with the type of the operand. -/
theorem sameTypes_of_applied (same : SameTypes held held') (joins : kind ≠ .set) {bin : Bin} {made : BinMap}
    (applied : applyOperation held' (kind.operation bin) = .ok made) :
    SameTypes (held.insert bin.name bin.value) made := by
  have inserted : ∃ value : Value, value.typeName = bin.value.typeName ∧ held'.insert bin.name value = made := by
    cases kind with
    | set => exact absurd rfl joins
    | append | prepend =>
      obtain ⟨value, joined, here⟩ := map_eq_ok_iff.1 applied
      exact ⟨value, typeName_of_joined joined, here⟩
    | add =>
      obtain ⟨value, added, here⟩ := map_eq_ok_iff.1 applied
      exact ⟨value, typeName_of_addValue added, here⟩
  obtain ⟨value, type, rfl⟩ := inserted
  intro name
  rw [OrderedMap.get?_insert, OrderedMap.get?_insert]
  split
  · exact congrArg some type
  · exact same name

/-- **The first fault decides** why bins cannot be made, and if there is none they can. -/
theorem code_applyAll (same : kind = .set ∨ SameTypes held held') (bins : List Bin) {reads : List Operation}
    (aloof : ∀ op ∈ reads, op.isWrite = false) :
    (Refusal.of? (applyAll held' (bins.map kind.operation ++ reads))).map
        (fun refusal => .ofNative refusal.code) =
      kind.firstFault? held bins := by
  induction bins generalizing held held' with
  | nil =>
    rw [List.map_nil, List.nil_append,
      applyAll_of_still fun op member => applyOperation_of_reads (aloof op member)]
    rfl
  | cons bin rest ih =>
    have alone := kind.code_refusal? held' bin
    rw [Operation.refusal?, fault?_congr same] at alone
    rw [List.map_cons, List.cons_append, applyAll, List.foldlM_cons, firstFault?, ← alone]
    cases applied : applyOperation held' (kind.operation bin) with
    | error refusal => rfl
    | ok made =>
      refine ih ?_
      by_cases set : kind = .set
      · exact .inl set
      · exact .inr (sameTypes_of_applied (same.resolve_left set) set applied)

theorem firstFault?_cases {bins : List Bin} {code : ResultCode}
    (fault : kind.firstFault? held bins = some code) :
    code = .parameterError ∨ code = .binTypeError ∧ kind ≠ .set := by
  induction bins generalizing held with
  | nil => cases fault
  | cons bin rest ih =>
    rw [firstFault?, Option.or_eq_some_iff] at fault
    rcases fault with here | ⟨-, later⟩
    · rw [fault?] at here
      split at here
      · exact .inl (Option.some.inj here).symm
      · split at here
        · next types =>
          exact .inr ⟨(Option.some.inj here).symm, types.1⟩
        · cases here
    · exact ih later

/-- Bins that are set have no fault. -/
theorem firstFault?_set (held : BinMap) (bins : List Bin) : set.firstFault? held bins = none := by
  induction bins generalizing held with
  | nil => rfl
  | cons bin rest ih => exact ih _

end Gate.WriteKind

/-! ## Codes of writes -/

/-- How a write of bins can end. -/
inductive WriteEnds (passes : Prop) (fault? : Option ResultCode) : ResultCode → Prop
  | notNew (fails : ¬ passes) : WriteEnds passes fault? .keyExists
  | mismatch (fails : ¬ passes) : WriteEnds passes fault? .generationMismatch
  | fault {code : ResultCode} (passed : passes) (fault : fault? = some code) : WriteEnds passes fault? code
  | tooBig (passed : passes) (none : fault? = none) : WriteEnds passes fault? .recordTooBig
  | done (passed : passes) (none : fault? = none) : WriteEnds passes fault? .ok

/-- How a touch can end. -/
inductive TouchEnds (options : Option WriteOptions) : Option StoredRecord → ResultCode → Prop
  | missing : TouchEnds options none .keyNotFound
  | notNew (r : StoredRecord) : TouchEnds options (some r) .keyExists
  | mismatch (r : StoredRecord) : TouchEnds options (some r) .generationMismatch
  | tooBig {r : StoredRecord} (conflicts : options.any (·.conflicts r.generation) = true) :
      TouchEnds options (some r) .recordTooBig
  | done (r : StoredRecord) : TouchEnds options (some r) .ok

namespace Cluster

variable {c : Cluster} (admits : c.Admits) {now : UInt32} {key : Key} (tx : Option TransactionOptions)
  (options : Option WriteOptions) {f : Record → CallResult} (succeeds : ∀ r, (f r).code = .ok)
include admits succeeds

/-- **How a write of bins ends.** -/
theorem code_operate_bins (kind : Gate.WriteKind) {bins : List Bin} (nonempty : bins ≠ [])
    {reads : List Operation} (aloof : ∀ op ∈ reads, op.isWrite = false) :
    WriteEnds (WriteOptions.Passes options (c.live? now key.id))
      (kind.firstFault? (((c.live? now key.id).map (·.bins)).getD ∅) bins)
      (CallResult.ofReply f
        (c.operate now (.ofOptions tx options) key (bins.map kind.operation ++ reads)).1).code := by
  have writes : (bins.map kind.operation ++ reads).any Operation.isWrite = true := by
    obtain ⟨bin, rest, rfl⟩ := List.exists_cons_of_ne_nil nonempty
    rw [List.map_cons, List.cons_append, List.any_cons, kind.isWrite_operation, Bool.true_or]
  have untouched : (bins.map kind.operation ++ reads).any Operation.isTouch = false := by
    rw [List.any_eq_false]
    intro op member touches
    rcases List.mem_append.1 member with made | read
    · obtain ⟨bin, -, rfl⟩ := List.mem_map.1 made
      cases (kind.isTouch_operation bin).symm.trans touches
    · cases (aloof op read).symm.trans (Operation.isWrite_of_isTouch touches)
  have untouched : ((c.live? now key.id).isNone && (bins.map kind.operation ++ reads).any Operation.isTouch) =
      false := by
    rw [untouched, Bool.and_false]
  by_cases passes : WriteOptions.Passes options (c.live? now key.id)
  · obtain ⟨disposition, check⟩ := checkWrite_of_passes tx passes
    have made := writeBins_of_keeps (replaces_ofOptions tx options) check (bins.map kind.operation ++ reads)
    have code : _ = kind.firstFault? (((c.live? now key.id).map (·.bins)).getD ∅) bins :=
      Gate.WriteKind.code_applyAll (.inr (.refl _)) bins aloof
    cases applied : applyAll (((c.live? now key.id).map (·.bins)).getD ∅) (bins.map kind.operation ++ reads) with
    | error refusal =>
      rw [applied] at made code
      rw [operate_of_unmade admits writes untouched made, CallResult.ofReply, CallResult.code_ofError_toError]
      exact .fault passes code.symm
    | ok bins =>
      rw [applied] at made code
      cases replied : (c.operate now (.ofOptions tx options) key _).1 with
      | ok record => exact (succeeds record).symm ▸ .done passes code.symm
      | error e =>
        obtain ⟨size, limit, rfl⟩ := operate_of_made admits writes untouched made replied
        rw [CallResult.ofReply, CallResult.code_ofError_toError]
        exact .tooBig passes code.symm
  · obtain ⟨refusal, refused, code⟩ := checkWrite_of_fails tx passes
    rw [operate_of_unmade admits writes untouched (writeBins_of_checkWrite refused _), CallResult.ofReply,
      CallResult.code_ofError_toError]
    rcases code with code | code <;> rw [code]
    · exact .notNew passes
    · exact .mismatch passes

/-- **How a touch ends**, of a record that is no larger than records may be. -/
theorem code_operate_touch (fits : ∀ r, c.live? now key.id = some r → r.size ≤ c.recordLimit)
    {ops : List Operation} (touches : ops.any Operation.isTouch = true)
    (still : ∀ op ∈ ops, ∀ bins, applyOperation bins op = .ok bins) :
    TouchEnds options (c.live? now key.id)
      (CallResult.ofReply f (c.operate now (.ofOptions tx options) key ops).1).code := by
  have writes := any_isWrite_of_isTouch touches
  cases live : c.live? now key.id with
  | none =>
    rw [operate_of_missing admits live touches, CallResult.ofReply, CallResult.code_ofError_toError]
    exact .missing
  | some r =>
    by_cases passes : WriteOptions.Passes options (some r)
    · obtain ⟨disposition, check⟩ := checkWrite_of_passes tx passes
      have made := writeBins_of_keeps (replaces_ofOptions tx options) check ops
      rw [applyAll_of_still still] at made
      cases replied : (c.operate now (.ofOptions tx options) key ops).1 with
      | ok record => exact (succeeds record).symm ▸ .done r
      | error e =>
        have conflicts := conflicts_of_checkWrite check
        rw [conflicts_ofOptions] at conflicts
        cases disposition with
        | apply =>
          -- The bins are those that fitted before.
          obtain ⟨record, ok⟩ := operate_of_fits admits live writes made (fits r live)
          cases ok.symm.trans replied
        | duplicate =>
          have untouched : ((c.live? now key.id).isNone && ops.any Operation.isTouch) = false := by
            rw [live]
            rfl
          rw [← live] at made
          obtain ⟨size, limit, rfl⟩ := operate_of_made admits writes untouched made replied
          rw [CallResult.ofReply, CallResult.code_ofError_toError]
          exact .tooBig conflicts
    · obtain ⟨refusal, refused, code⟩ := checkWrite_of_fails tx passes
      rw [operate_of_refused admits live writes refused, CallResult.ofReply, CallResult.code_ofError_toError]
      rcases code with code | code <;> rw [code]
      · exact .notNew r
      · exact .mismatch r

end Cluster

end RecordGate
