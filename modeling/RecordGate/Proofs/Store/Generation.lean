import Mathlib.Logic.Function.Iterate
import RecordGate.Options.Policies
import RecordGate.Proofs.Store.Effect

/-!
# Generations

The generation of a record counts its writes, around the circle of the numbers of 32 bits without zero
(`toNat_iterate`). It does not come back to where it was before it has gone all the way round, so a write
that expects a generation is refused once the record has been written since.
-/

namespace RecordGate
set_option autoImplicit false

/-- The number of generations: all numbers of 32 bits but zero. -/
def generations : Nat := UInt32.size - 1

theorem toNat_nextGeneration (g : UInt32) :
    (nextGeneration g).toNat = g.toNat % generations + 1 := by
  have bound := g.toNat_lt_size
  have sum : (g + 1).toNat = (g.toNat + 1) % UInt32.size := UInt32.toNat_add g 1
  rw [nextGeneration]
  simp only [generations, UInt32.size] at bound sum ⊢
  split
  · next zero =>
    rw [zero] at sum
    have : (0 : UInt32).toNat = 0 := rfl
    have : (1 : UInt32).toNat = 1 := rfl
    omega
  · next nonzero =>
    have positive : (g + 1).toNat ≠ 0 := by
      intro zero
      exact nonzero (UInt32.toNat_inj.1 zero)
    omega

/-- The generation after some more writes. -/
theorem toNat_iterate (g : UInt32) (writes : Nat) :
    (nextGeneration^[writes + 1] g).toNat = (g.toNat + writes) % generations + 1 := by
  induction writes with
  | zero => exact toNat_nextGeneration g
  | succ writes ih =>
    rw [Function.iterate_succ_apply', toNat_nextGeneration, ih]
    simp only [generations, UInt32.size]
    omega

/-- A generation does not come back before it has gone all the way round. -/
theorem iterate_nextGeneration_ne {writes : Nat} (some : 0 < writes) (few : writes < generations)
    (g : UInt32) : nextGeneration^[writes] g ≠ g := by
  intro back
  have round := congrArg UInt32.toNat back
  obtain ⟨writes, rfl⟩ := Nat.exists_eq_add_of_lt some
  rw [Nat.zero_add, toNat_iterate] at round
  have bound := g.toNat_lt_size
  simp only [generations, UInt32.size] at bound round few
  omega

/-! ## Conditions -/

section Conditions

variable {tx : Option TransactionOptions} {options : WriteOptions}

/-- The policy of options that are not unique is that of their mode. -/
theorem ofOptions_of_shared (shared : options.uniqueOnly = false) (tx : Option TransactionOptions) :
    WritePolicy.ofOptions tx (some options) =
      { base := .ofOptions tx, expiration := options.expiration,
        generationCheck := options.generationMode.check.1, generation := options.generationMode.check.2 } := by
  rw [WritePolicy.ofOptions, shared]
  rfl

/-- What expects a generation is refused where another is stored. -/
theorem checkWrite_of_expectEqual {g : UInt32} (shared : options.uniqueOnly = false)
    (expects : options.generationMode = .expectEqual g) {r : StoredRecord}
    (moved : r.generation ≠ g) :
    checkWrite (some r) (.ofOptions tx (some options)) =
      .error (.generationMismatch g r.generation) := by
  rw [ofOptions_of_shared shared, expects]
  exact if_neg moved

/-- What wants to be unique is refused where a record is stored. -/
theorem checkWrite_of_unique (unique : options.uniqueOnly = true) (r : StoredRecord) :
    checkWrite (some r) (.ofOptions tx (some options)) = .error .recordExists := by
  have policy : (WritePolicy.ofOptions tx (some options)).existence = .createOnly := by
    rw [WritePolicy.ofOptions, unique]
    rfl
  simp only [checkWrite, checkExistence, policy]
  rfl

end Conditions

namespace Cluster

/-- A successful write stores what it leaves behind of the live record, or of none, and returns it. -/
theorem Effect.stored {c d : Cluster} {now : UInt32} {command : Command} {reply : CommandReply}
    (effect : Effect c now command reply d) {id : RecordId} (writes : command.writes id = true)
    (ok : reply.isOk = true) :
    ∃ policy key ops next, command = .operate policy key ops ∧ d.find? id = some next ∧
      Written (c.live? now id) (key.setName.getD "") policy ops c.recordLimit now next ∧
      reply = .written (.ok (next.view (Operation.selection ops))) := by
  rw [Command.writes, Bool.and_eq_true] at writes
  cases effect with
  | kept nodes idle =>
    rw [idle ok] at writes
    cases writes.1
  | erased admits nodes => cases writes.1
  | @wrote policy key ops _ next admits _ written nodes =>
    have here : key.id = id := beq_iff_eq.1 writes.2
    subst here
    refine ⟨policy, key, ops, next, rfl, ?_, written, rfl⟩
    rw [find?_congr nodes, find?_put, if_pos rfl]

/-- Its generation is the next one, or the first. -/
theorem Effect.written {c d : Cluster} {now : UInt32} {command : Command} {reply : CommandReply}
    (effect : Effect c now command reply d) {id : RecordId} (writes : command.writes id = true)
    (ok : reply.isOk = true) :
    ∃ next selection, d.find? id = some next ∧
      next.generation = nextGeneration (((c.live? now id).map (·.generation)).getD 0) ∧
      reply = .written (.ok (next.view selection)) := by
  obtain ⟨_, _, ops, next, -, found, written, replied⟩ := effect.stored writes ok
  exact ⟨next, Operation.selection ops, found, written.generation, replied⟩

/-- What does not write a record leaves it alone, or deletes it and reports whether it was live. -/
theorem Effect.unwritten {c d : Cluster} {now : UInt32} {command : Command} {reply : CommandReply}
    (effect : Effect c now command reply d) {id : RecordId}
    (unwritten : (command.writes id && reply.isOk) = false) :
    d.find? id = c.find? id ∨ ∃ policy key, command = .delete policy key ∧ key.id = id ∧
      reply = .flag (.ok (c.isLive now key)) ∧ d.find? id = none := by
  cases effect with
  | kept nodes idle => exact .inl (find?_congr nodes id)
  | @erased policy key _ admits nodes =>
    have find := (find?_congr nodes id).trans (c.find?_erase key.id id)
    by_cases here : id = key.id
    · rw [if_pos here] at find
      exact .inr ⟨policy, key, rfl, here.symm, rfl, find⟩
    · rw [if_neg here] at find
      exact .inl find
  | @wrote policy key ops _ next admits writes written nodes =>
    have other : id ≠ key.id := by
      rintro rfl
      simp [Command.writes, Command.isWrite, writes, Command.target?, CommandReply.isOk,
        Except.toBool] at unwritten
    rw [find?_congr nodes, find?_put, if_neg other]
    exact .inl rfl

/-- What a command makes of a live record, by whether the record is written. -/
inductive Sequel (d : Cluster) (id : RecordId) (r : StoredRecord) : Bool → Prop
  | kept (found : d.find? id = some r) : Sequel d id r false
  | gone (missing : d.find? id = none) : Sequel d id r false
  | written (next : StoredRecord) (found : d.find? id = some next)
      (generation : next.generation = nextGeneration r.generation) : Sequel d id r true

/-- A write moves the generation of its record on, and nothing else does. -/
theorem Effect.sequel {c d : Cluster} {now : UInt32} {command : Command} {reply : CommandReply}
    (effect : Effect c now command reply d) {id : RecordId} {r : StoredRecord}
    (live : c.live? now id = some r) : Sequel d id r (command.writes id && reply.isOk) := by
  have found : c.find? id = some r := (Option.filter_eq_some_iff.1 live).1
  cases wrote : command.writes id && reply.isOk with
  | true =>
    obtain ⟨writes, ok⟩ := Bool.and_eq_true_iff.1 wrote
    obtain ⟨next, -, stored, generation, -⟩ := effect.written writes ok
    rw [live] at generation
    exact .written next stored generation
  | false =>
    rcases effect.unwritten wrote with same | ⟨-, -, -, -, -, gone⟩
    · exact .kept (same.trans found)
    · exact .gone gone

/-- Damage leaves alone whatever does not look at it. -/
theorem map_find?_corrupt {α : Type} {f : StoredRecord → α}
    (unseen : ∀ r, f { r with corrupted := true } = f r) (c : Cluster) (key : Key) (id : RecordId) :
    ((c.corrupt key).2.find? id).map f = (c.find? id).map f := by
  rw [corrupt]
  cases found : c.find? key.id with
  | none => rfl
  | some r =>
    rw [find?_put]
    split
    · next here =>
      rw [here, found]
      exact congrArg some (unseen r)
    · rfl

/-- What a delete reports to have been there is gone. -/
theorem find?_of_deleted {c : Cluster} {now : UInt32} {policy : WritePolicy} {key : Key}
    (reported : (c.delete now policy key).1 = .ok true) :
    (c.delete now policy key).2.find? key.id = none := by
  obtain ⟨effect, -⟩ := c.delete_effect now policy key
  cases effect with
  | kept nodes missing => exact absurd reported missing
  | erased admits nodes reply => rw [find?_congr nodes, find?_erase, if_pos rfl]

/-- What a command does to another record is nothing. -/
theorem Effect.find?_of_other {c d : Cluster} {now : UInt32} {command : Command} {reply : CommandReply}
    (effect : Effect c now command reply d) {key : Key} (target : command.target? = some key)
    {id : RecordId} (other : key.id ≠ id) : d.find? id = c.find? id := by
  cases effect with
  | kept nodes idle => exact find?_congr nodes id
  | erased admits nodes =>
    cases target
    rw [find?_congr nodes, find?_erase, if_neg (Ne.symm other)]
  | wrote next admits writes written nodes =>
    cases target
    rw [find?_congr nodes, find?_put, if_neg (Ne.symm other)]

end Cluster

end RecordGate
