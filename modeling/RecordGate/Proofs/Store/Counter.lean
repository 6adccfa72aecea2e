import RecordGate.Proofs.Store.Presence
import RecordGate.Proofs.Store.Versions

/-!
# A bin that counts

An addition to a bin that holds an integer makes it hold the sum, in as many octets as before, so it fits
(`operate_of_add`). A write that is not about a bin leaves what the bin holds (`Written.spared`).
-/

namespace RecordGate
set_option autoImplicit false

/-! ## Sizes -/

/-- An entry of the same weight over another leaves the weight of the entries. -/
theorem total_insert {f : String × Value → Nat} {name : String} {old new : Value}
    (same : f (name, new) = f (name, old)) {es : List (String × Value)}
    (ascending : es.Pairwise fun a b => a.1 < b.1) (member : (name, old) ∈ es) :
    total ((Entries.insert name new es).map f) = total (es.map f) := by
  induction es with
  | nil => cases member
  | cons e rest ih =>
    obtain ⟨first, others⟩ := List.pairwise_cons.1 ascending
    rw [Entries.insert]
    rcases List.mem_cons.1 member with rfl | member
    · rw [if_neg (KeyOrder.irrefl name), if_neg (KeyOrder.irrefl name)]
      exact congrArg (· + total (rest.map f)) same
    · have after : e.1 < name := first _ member
      have not_before : ¬ name < e.1 := fun before => KeyOrder.irrefl _ (KeyOrder.trans after before)
      rw [if_neg not_before, if_pos after]
      exact congrArg (f e + ·) (ih others member)

/-- A value of the same size over another leaves the size of the bins. -/
theorem BinMap.size_insert {bins : BinMap} {name : String} {old new : Value}
    (held : bins.get? name = some old) (same : new.size = old.size) :
    BinMap.size (bins.insert name new) = bins.size :=
  total_insert (congrArg (name.utf8ByteSize + ·) same) bins.ascending (OrderedMap.get?_eq_some_iff.1 held)

/-! ## Writes that are not about a bin -/

/-- Whether an operation makes a value of a bin, or removes it. -/
def Operation.writesBin (name : String) : Operation → Bool
  | write bin | append bin | prepend bin | add bin => bin.name == name
  | touch | read _ | readAll | readHeader => false

/-- Whether a command, once it succeeds, has a say in a bin of a record of a generation: it writes the bin or
drops those that it does not write, and is not kept beside the record. -/
def Command.writesBin (name : String) (stored : UInt32) : Command → Bool
  | .operate policy _ ops =>
    !policy.conflicts stored && (policy.existence.replaces || ops.any (·.writesBin name))
  | _ => false

theorem get?_applyOperation {bins made : BinMap} {op : Operation} {name : String}
    (spares : op.writesBin name = false) (ok : applyOperation bins op = .ok made) :
    made.get? name = bins.get? name := by
  cases op with
  | write bin =>
    have other : name ≠ bin.name := Ne.symm (beq_eq_false_iff_ne.1 spares)
    cases ok
    split
    · rw [OrderedMap.get?_erase, if_neg other]
    · rw [OrderedMap.get?_insert, if_neg other]
  | append bin | prepend bin | add bin =>
    have other : name ≠ bin.name := Ne.symm (beq_eq_false_iff_ne.1 spares)
    obtain ⟨value, -, rfl⟩ := map_eq_ok_iff.1 ok
    rw [OrderedMap.get?_insert, if_neg other]
  | touch | read _ | readAll | readHeader =>
    cases ok
    rfl

theorem get?_applyAll {bins made : BinMap} {ops : List Operation} {name : String}
    (spares : ops.any (·.writesBin name) = false) (ok : applyAll bins ops = .ok made) :
    made.get? name = bins.get? name := by
  induction ops generalizing bins with
  | nil =>
    cases ok
    rfl
  | cons op rest ih =>
    obtain ⟨first, applied, others⟩ := bind_eq_ok_iff.1 ok
    obtain ⟨here, later⟩ := Bool.or_eq_false_iff.1 spares
    rw [ih later others, get?_applyOperation here applied]

/-- **A write that is not about a bin leaves it.** -/
theorem Written.spared {r next : StoredRecord} {setName : String} {policy : WritePolicy} {key : Key}
    {ops : List Operation} {limit : Nat} {now : UInt32}
    (written : Written (some r) setName policy ops limit now next) {name : String}
    (spares : (Command.operate policy key ops).writesBin name r.generation = false) :
    next.bins.get? name = r.bins.get? name := by
  obtain ⟨made, ⟨ok, bins, -⟩ | ⟨-, bins, -⟩⟩ := written.bins
  · obtain ⟨check, applied⟩ := checkWrite_of_writeBins ok
    rw [Command.writesBin, conflicts_of_checkWrite check] at spares
    obtain ⟨merges, others⟩ := Bool.or_eq_false_iff.1 spares
    rw [if_neg fun replaced => Bool.noConfusion (merges.symm.trans replaced.2)] at applied
    rw [bins, get?_applyAll others applied]
    rfl
  · rw [bins]
    rfl

/-! ## Additions -/

/-- The operations by which a gate adds to a bin. -/
def additionOf (name : String) (delta : Int64) : List Operation := [.add ⟨name, .int delta⟩, .readHeader]

section Addition

variable {r : StoredRecord} {name : String} {count : Int64} (held : r.bins.get? name = some (.int count))
  (delta : Int64) {policy : WritePolicy} (merges : policy.existence = .update)
  (unchecked : policy.generationCheck = .unchecked)
include held merges unchecked

theorem writeBins_of_add :
    writeBins (some r) policy (additionOf name delta) =
      .ok (.apply, r.bins.insert name (.int (count + delta))) := by
  have added : applyOperation r.bins (.add ⟨name, .int delta⟩) =
      .ok (r.bins.insert name (.int (count + delta))) := by
    rw [applyOperation, held]
    rfl
  rw [writeBins_of_merge merges unchecked]
  exact map_eq_ok_iff.2 ⟨_, bind_eq_ok_iff.2 ⟨_, added, rfl⟩, rfl⟩

/-- An addition leaves the sum. -/
theorem Written.added {next : StoredRecord} {setName : String} {limit : Nat} {now : UInt32}
    (written : Written (some r) setName policy (additionOf name delta) limit now next) :
    next.bins.get? name = some (.int (count + delta)) := by
  obtain ⟨made, ⟨ok, bins, -⟩ | ⟨ok, -, -⟩⟩ := written.bins
  · cases (writeBins_of_add held delta merges unchecked).symm.trans ok
    rw [bins, OrderedMap.get?_insert, if_pos rfl]
  · cases (writeBins_of_add held delta merges unchecked).symm.trans ok

/-- **An addition succeeds** where an integer is held: its sum takes no more room. -/
theorem Cluster.operate_of_add {c : Cluster} (admits : c.Admits) {now : UInt32} {key : Key}
    (live : c.live? now key.id = some r) (fits : r.size ≤ c.recordLimit) :
    ∃ record, (c.operate now policy key (additionOf name delta)).1 = .ok record := by
  apply operate_of_fits admits live rfl (writeBins_of_add held delta merges unchecked)
  have size : BinMap.size (r.bins.insert name (.int (count + delta))) = r.bins.size :=
    BinMap.size_insert held rfl
  rw [StoredRecord.size, size]
  exact fits

end Addition

end RecordGate
