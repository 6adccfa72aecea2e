import RecordGate.Proofs.Store.Counter
import RecordGate.Proofs.Store.Interchange

/-!
# Operations on bins of their own

Operations of which no two write one bin make of each bin what the one that writes it makes alone, or the
first of them that is refused alone is refused (`applied_of_apart`). So in any order they make the same, or
are refused, and a write made of them does the same (`Cluster.operate_perm`). Which refusal it is the order
decides.
-/

namespace RecordGate
set_option autoImplicit false

/-- The refusal in a result, if it is one. -/
def Refusal.of? {α : Type} : Except Refusal α → Option Refusal
  | .ok _ => none
  | .error refusal => some refusal

theorem Refusal.of?_map {α β : Type} (f : α → β) (result : Except Refusal α) :
    Refusal.of? (result.map f) = Refusal.of? result := by
  cases result <;> rfl

namespace Operation

/-- Operations that write no bin in common. -/
def Apart (op op' : Operation) : Prop := ∀ name, (op.writesBin name && op'.writesBin name) = false

theorem Apart.symm {op op' : Operation} (apart : op.Apart op') : op'.Apart op := by
  intro name
  rw [Bool.and_comm]
  exact apart name

/-- Why an operation is refused that runs alone. -/
def refusal? (bins : BinMap) (op : Operation) : Option Refusal := Refusal.of? (applyOperation bins op)

theorem refusal?_of_ok {bins made : BinMap} {op : Operation} (ok : applyOperation bins op = .ok made) :
    op.refusal? bins = none := by
  rw [refusal?, ok]
  rfl

theorem refusal?_of_error {bins : BinMap} {op : Operation} {refusal : Refusal}
    (refused : applyOperation bins op = .error refusal) : op.refusal? bins = some refusal := by
  rw [refusal?, refused]
  rfl

/-- An operation looks at the bins that it writes, and at no others. -/
theorem refusal?_congr {bins bins' : BinMap} {op : Operation}
    (same : ∀ name, op.writesBin name = true → bins'.get? name = bins.get? name) :
    op.refusal? bins' = op.refusal? bins := by
  cases op with
  | write _ | touch | read _ | readAll | readHeader => rfl
  | append bin | prepend bin | add bin =>
    have here : bins'.get? bin.name = bins.get? bin.name := same bin.name (beq_self_eq_true bin.name)
    rw [refusal?, refusal?, applyOperation, applyOperation, here, Refusal.of?_map, Refusal.of?_map]

/-- An operation makes the same of the same bins. -/
theorem get?_applyOperation_congr {bins bins' made made' : BinMap} {op : Operation}
    (same : ∀ name, op.writesBin name = true → bins'.get? name = bins.get? name)
    (ok : applyOperation bins op = .ok made) (ok' : applyOperation bins' op = .ok made') {name : String}
    (writes : op.writesBin name = true) : made'.get? name = made.get? name := by
  cases op with
  | write bin =>
    obtain rfl : bin.name = name := beq_iff_eq.1 writes
    cases ok
    cases ok'
    split
    · rw [OrderedMap.get?_erase, OrderedMap.get?_erase, if_pos rfl, if_pos rfl]
    · rw [OrderedMap.get?_insert, OrderedMap.get?_insert, if_pos rfl, if_pos rfl]
  | append bin | prepend bin | add bin =>
    obtain rfl : bin.name = name := beq_iff_eq.1 writes
    rw [applyOperation, same bin.name writes] at ok'
    obtain ⟨value, joined, rfl⟩ := map_eq_ok_iff.1 ok
    obtain ⟨value', joined', rfl⟩ := map_eq_ok_iff.1 ok'
    cases joined.symm.trans joined'
    rw [OrderedMap.get?_insert, OrderedMap.get?_insert, if_pos rfl, if_pos rfl]
  | touch | read _ | readAll | readHeader => cases writes

end Operation

/-! ## Lists of operations -/

/-- The bins that operations on bins of their own make. -/
structure Merged (held : BinMap) (ops : List Operation) (made : BinMap) : Prop where
  /-- What an operation writes is as it alone makes it. -/
  written : ∀ op ∈ ops, ∃ alone, applyOperation held op = .ok alone ∧
    ∀ name, op.writesBin name = true → made.get? name = alone.get? name
  others : ∀ name, ops.any (·.writesBin name) = false → made.get? name = held.get? name

theorem Merged.unique {held made made' : BinMap} {ops : List Operation} (merged : Merged held ops made)
    (merged' : Merged held ops made') : made' = made := by
  apply OrderedMap.ext_get?
  intro name
  cases writes : ops.any (·.writesBin name) with
  | false => rw [merged.others name writes, merged'.others name writes]
  | true =>
    obtain ⟨op, member, writes⟩ := List.any_eq_true.1 writes
    obtain ⟨alone, ok, same⟩ := merged.written op member
    obtain ⟨alone', ok', same'⟩ := merged'.written op member
    cases ok.symm.trans ok'
    rw [same name writes, same' name writes]

theorem Merged.unrefused {held made : BinMap} {ops : List Operation} (merged : Merged held ops made)
    {op : Operation} (member : op ∈ ops) : op.refusal? held = none := by
  obtain ⟨alone, ok, -⟩ := merged.written op member
  exact Operation.refusal?_of_ok ok

theorem Merged.perm {held made : BinMap} {ops ops' : List Operation} (merged : Merged held ops made)
    (order : ops.Perm ops') : Merged held ops' made := by
  constructor
  · intro op member
    exact merged.written op (order.mem_iff.2 member)
  · intro name spares
    exact merged.others name (order.any_eq.trans spares)

/-- What becomes of bins by operations on bins of their own. -/
inductive Applied (held : BinMap) (ops : List Operation) : Except Refusal BinMap → Prop
  | made {made : BinMap} (merged : Merged held ops made) : Applied held ops (.ok made)
  /-- The first refusal is that of an operation that runs alone. -/
  | refused {refusal : Refusal} (first : ops.findSome? (·.refusal? held) = some refusal) :
    Applied held ops (.error refusal)

/-- No bin of the operations that follow is written. -/
theorem Operation.spares_of_apart {op : Operation} {rest : List Operation}
    (apart : ∀ op' ∈ rest, op.Apart op') {name : String} (writes : op.writesBin name = true) :
    rest.any (·.writesBin name) = false := by
  rw [List.any_eq_false]
  intro op' member writes'
  have both := apart op' member name
  rw [writes, writes'] at both
  cases both

/-- Bins that an operation has no part in are as it found them. -/
theorem Operation.untouched_of_apart {held first : BinMap} {op op' : Operation} (apart : op.Apart op')
    (ok : applyOperation held op = .ok first) {name : String} (writes' : op'.writesBin name = true) :
    first.get? name = held.get? name := by
  have spares := apart name
  rw [writes', Bool.and_true] at spares
  exact get?_applyOperation spares ok

theorem Merged.cons {held first made : BinMap} {op : Operation} {rest : List Operation}
    (apart : ∀ op' ∈ rest, op.Apart op') (ok : applyOperation held op = .ok first)
    (merged : Merged first rest made) : Merged held (op :: rest) made := by
  constructor
  · rintro op' (_ | ⟨_, member⟩)
    · exact ⟨first, ok, fun name writes => merged.others name (Operation.spares_of_apart apart writes)⟩
    · obtain ⟨later, ok', same⟩ := merged.written op' member
      have kept : ∀ name, op'.writesBin name = true → first.get? name = held.get? name :=
        fun name => Operation.untouched_of_apart (apart op' member) ok
      have unrefused : op'.refusal? held = none :=
        (Operation.refusal?_congr kept).symm.trans (Operation.refusal?_of_ok ok')
      cases alone : applyOperation held op' with
      | error refusal => cases unrefused.symm.trans (Operation.refusal?_of_error alone)
      | ok made' =>
        refine ⟨made', rfl, fun name writes => (same name writes).trans ?_⟩
        exact Operation.get?_applyOperation_congr kept alone ok' writes
  · intro name spares
    obtain ⟨here, later⟩ := Bool.or_eq_false_iff.1 spares
    rw [merged.others name later, get?_applyOperation here ok]

/-- **Operations on bins of their own act alone.** -/
theorem applied_of_apart {ops : List Operation} (apart : ops.Pairwise Operation.Apart) (held : BinMap) :
    Applied held ops (applyAll held ops) := by
  induction ops generalizing held with
  | nil => exact .made ⟨nofun, fun _ _ => rfl⟩
  | cons op rest ih =>
    obtain ⟨here, later⟩ := List.pairwise_cons.1 apart
    have run : applyAll held (op :: rest) = applyOperation held op >>= (applyAll · rest) := rfl
    rw [run]
    cases applied : applyOperation held op with
    | error refusal =>
      refine .refused ?_
      rw [List.findSome?_cons, Operation.refusal?_of_error applied]
    | ok first =>
      -- The bins that the rest writes are as they were, so what it refuses it would refuse at once.
      have same : rest.findSome? (·.refusal? first) = rest.findSome? (·.refusal? held) := by
        rw [← List.head?_filterMap, ← List.head?_filterMap]
        refine congrArg _ (List.filterMap_congr fun op' member => ?_)
        exact Operation.refusal?_congr fun name => Operation.untouched_of_apart (here op' member) applied
      have rested := ih later first
      change Applied held (op :: rest) (applyAll first rest)
      generalize applyAll first rest = result at rested
      cases rested with
      | made merged => exact .made (.cons here applied merged)
      | refused found =>
        refine .refused ?_
        rw [List.findSome?_cons, Operation.refusal?_of_ok applied, ← same]
        exact found

/-- Operations on bins of their own are refused if one of them is refused alone, for the first that is. -/
theorem applyAll_eq_error_iff {ops : List Operation} (apart : ops.Pairwise Operation.Apart) {held : BinMap}
    {refusal : Refusal} :
    applyAll held ops = .error refusal ↔ ops.findSome? (·.refusal? held) = some refusal := by
  have applied := applied_of_apart apart held
  generalize applyAll held ops = result at applied
  cases applied with
  | refused first => rw [first, Except.error.injEq, Option.some.injEq]
  | made merged =>
    refine iff_of_false nofun fun first => ?_
    obtain ⟨op, member, refused⟩ := List.exists_of_findSome?_eq_some first
    cases refused.symm.trans (merged.unrefused member)

/-- A write that merges bins of their own is refused for its check, or for the first operation that is refused
alone. -/
theorem writeBins_eq_error_iff {existing : Option StoredRecord} {policy : WritePolicy}
    (merges : policy.existence.replaces = false) {ops : List Operation}
    (apart : ops.Pairwise Operation.Apart) {refusal : Refusal} :
    writeBins existing policy ops = .error refusal ↔ checkWrite existing policy = .error refusal ∨
      (∃ disposition, checkWrite existing policy = .ok disposition) ∧
        ops.findSome? (·.refusal? ((existing.map (·.bins)).getD ∅)) = some refusal := by
  rw [← applyAll_eq_error_iff apart, writeBins]
  cases checkWrite existing policy with
  | error early => simp [bind, Except.bind]
  | ok disposition =>
    simp only [bind_eq_error_iff, merges, Bool.false_eq_true, and_false, if_false]
    simp [pure, Except.pure]

/-- A write is let in and refused for its bins, with nothing done but the count. -/
structure Cluster.Unmade (c : Cluster) (now : UInt32) (policy : WritePolicy) (key : Key)
    (ops : List Operation) (refusal : Refusal) : Prop where
  admits : c.Admits
  refused : writeBins (c.live? now key.id) policy ops = .error refusal
  failed : c.operate now policy key ops = (.error refusal.toError, c.counted (.write policy))

/-- Without a touch nothing is looked at before the bins. -/
theorem Cluster.unmade_of_refused {c : Cluster} {now : UInt32} {policy : WritePolicy} {key : Key}
    {ops : List Operation} {refusal : Refusal} (admits : c.Admits)
    (writes : ops.any Operation.isWrite = true) (untouched : ops.any Operation.isTouch = false)
    (refused : writeBins (c.live? now key.id) policy ops = .error refusal) :
    c.Unmade now policy key ops refusal where
  admits := admits
  refused := refused
  failed := operate_of_unmade admits writes (by rw [untouched, Bool.and_false]) refused

section Perm

variable {ops ops' : List Operation} (apart : ops.Pairwise Operation.Apart) (order : ops.Perm ops')
include apart order

theorem apart_perm : ops'.Pairwise Operation.Apart :=
  (order.pairwise_iff fun apart => apart.symm).1 apart

/-- Operations on bins of their own make the same in any order. -/
theorem applyAll_perm {held made : BinMap} (ok : applyAll held ops = .ok made) :
    applyAll held ops' = .ok made := by
  have applied := applied_of_apart apart held
  have applied' := applied_of_apart (apart_perm apart order) held
  rw [ok] at applied
  cases applied with
  | made merged =>
    generalize applyAll held ops' = result at applied'
    cases applied' with
    | made merged' => rw [(merged.perm order).unique merged']
    | refused first =>
      -- What is refused in one order would not have been made in the other.
      obtain ⟨op, member, refused⟩ := List.exists_of_findSome?_eq_some first
      cases refused.symm.trans (merged.unrefused (order.mem_iff.2 member))

/-! ### Commands -/

section Commands

variable {existing : Option StoredRecord} {policy : WritePolicy}

theorem writeBins_perm {made : Disposition × BinMap} (ok : writeBins existing policy ops = .ok made) :
    writeBins existing policy ops' = .ok made := by
  obtain ⟨disposition, check, rest⟩ := bind_eq_ok_iff.1 ok
  obtain ⟨bins, applied, same⟩ := bind_eq_ok_iff.1 rest
  exact bind_eq_ok_iff.2 ⟨disposition, check, bind_eq_ok_iff.2 ⟨bins, applyAll_perm apart order applied, same⟩⟩

variable (existing policy) in
/-- What becomes of the bins that a command makes does not depend on the order, unless they are refused, and
then they are in any order. -/
theorem writeBins_cases :
    Interchangeable existing policy ops ops' ∨
      ∃ refusal refusal', writeBins existing policy ops = .error refusal ∧
        writeBins existing policy ops' = .error refusal' := by
  have symm {result : Disposition × BinMap} (ok : writeBins existing policy ops' = .ok result) :
      writeBins existing policy ops = .ok result :=
    writeBins_perm (apart_perm apart order) order.symm ok
  cases run : writeBins existing policy ops with
  | ok made =>
    have same := (writeBins_perm apart order run).trans run.symm
    exact .inl ⟨order.any_eq.symm, order.any_eq.symm, fun _ => order.any_eq.symm, same⟩
  | error refusal =>
    right
    cases run' : writeBins existing policy ops' with
    | ok made => cases run.symm.trans (symm run')
    | error refusal' => exact ⟨refusal, refusal', rfl, rfl⟩

theorem asksTime_perm : asksTime existing policy ops' = asksTime existing policy ops := by
  rcases writeBins_cases apart order existing policy with
    same | ⟨refusal, refusal', refused, refused'⟩
  · exact same.asksTime
  · rw [asksTime, asksTime, refused, refused', order.any_eq, order.any_eq]
    rfl

variable (policy) in
/-- **A write made of operations on bins of their own does the same in any order**, unless its bins are refused;
then it is refused for them in any order. -/
theorem Cluster.operate_perm {c : Cluster} {now : UInt32} {key : Key}
    (writes : ops.any Operation.isWrite = true) (untouched : ops.any Operation.isTouch = false) :
    c.operate now policy key ops' = c.operate now policy key ops ∨
      ∃ refusal refusal', c.Unmade now policy key ops refusal ∧ c.Unmade now policy key ops' refusal' := by
  rcases writeBins_cases apart order (c.live? now key.id) policy with
    same | ⟨refusal, refusal', refused, refused'⟩
  · exact .inl same.operate
  · by_cases admits : c.Admits
    · have writes' : ops'.any Operation.isWrite = true := order.any_eq.symm.trans writes
      have untouched' : ops'.any Operation.isTouch = false := order.any_eq.symm.trans untouched
      exact .inr ⟨refusal, refusal', unmade_of_refused admits writes untouched refused,
        unmade_of_refused admits writes' untouched' refused'⟩
    · exact .inl (operate_of_not_admits admits policy key ops ops')

end Commands

end Perm

end RecordGate
