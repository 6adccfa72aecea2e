import RecordGate.Proofs.Store.Effect

/-!
# Conflicting versions

A write under a policy that keeps duplicates conflicts with a record of another generation than it expects.
Its outcome is kept as one more version, made of the bins that the record has, and the bins stay. Every
other write leaves the versions alone (`Written.revised`).
-/

namespace RecordGate
set_option autoImplicit false

/-- Whether the outcome of a write is kept beside a record of a generation. -/
def WritePolicy.conflicts (policy : WritePolicy) (stored : UInt32) : Bool :=
  policy.generationCheck == .duplicateUnlessEqual && policy.generation != stored

/-- A check that passes sets a write aside if it conflicts. -/
theorem conflicts_of_checkWrite {r : StoredRecord} {policy : WritePolicy} {disposition : Disposition}
    (ok : checkWrite (some r) policy = .ok disposition) :
    policy.conflicts r.generation = (disposition == .duplicate) := by
  obtain ⟨-, -, checked⟩ := bind_eq_ok_iff.1 ok
  simp only [checkGeneration] at checked
  rw [WritePolicy.conflicts]
  cases check : policy.generationCheck with
  | unchecked =>
    rw [check] at checked
    cases checked
    rfl
  | equal | atLeast =>
    simp only [check] at checked
    split at checked <;> cases checked
    rfl
  | duplicateUnlessEqual =>
    rw [check] at checked
    cases checked
    by_cases same : r.generation = policy.generation
    · simp [same]
    · simp [same, Ne.symm same]

/-- What a write makes of the versions of a record. -/
inductive Revised (policy : WritePolicy) (ops : List Operation) (r next : StoredRecord) : Prop
  | conflict (conflicts : policy.conflicts r.generation = true) (bins : next.bins = r.bins)
      (version : BinMap) (made : applyAll r.bins (ops.filter Operation.isWrite) = .ok version)
      (duplicates : next.duplicates = r.duplicates ++ [version])
  | plain (agrees : policy.conflicts r.generation = false) (duplicates : next.duplicates = r.duplicates)

/-- **A write adds one version if it conflicts**, and none otherwise. -/
theorem Written.revised {r next : StoredRecord} {setName : String} {policy : WritePolicy}
    {ops : List Operation} {limit : Nat} {now : UInt32}
    (written : Written (some r) setName policy ops limit now next) : Revised policy ops r next := by
  obtain ⟨made, ⟨ok, -, duplicates⟩ | ⟨ok, bins, duplicates⟩⟩ := written.bins
  · obtain ⟨check, -⟩ := checkWrite_of_writeBins ok
    exact .plain (conflicts_of_checkWrite check) duplicates
  · obtain ⟨check, applied⟩ := checkWrite_of_writeBins ok
    refine .conflict (conflicts_of_checkWrite check) bins made ?_ duplicates
    rw [applyAll_filter_isWrite]
    exact applied

/-- A record that is created has no other versions. -/
theorem Written.unversioned {next : StoredRecord} {setName : String} {policy : WritePolicy}
    {ops : List Operation} {limit : Nat} {now : UInt32}
    (written : Written none setName policy ops limit now next) : next.duplicates = [] := by
  obtain ⟨made, ⟨-, -, duplicates⟩ | ⟨ok, -, -⟩⟩ := written.bins
  · exact duplicates
  · obtain ⟨check, -⟩ := checkWrite_of_writeBins ok
    obtain ⟨-, -, apply⟩ := bind_eq_ok_iff.1 check
    cases apply

namespace Cluster

/-- What a command makes of a live record that is there afterwards. -/
inductive Revision (id : RecordId) (r next : StoredRecord) : Command → CommandReply → Prop
  | kept {command : Command} {reply : CommandReply} (same : next = r)
      (idle : (command.writes id && reply.isOk) = false) : Revision id r next command reply
  | written {policy : WritePolicy} {key : Key} {ops : List Operation} {reply : CommandReply}
      (here : key.id = id) (writes : ops.any Operation.isWrite = true) (ok : reply.isOk = true)
      (revised : Revised policy ops r next) : Revision id r next (.operate policy key ops) reply

theorem Effect.revision {c d : Cluster} {now : UInt32} {command : Command} {reply : CommandReply}
    (effect : Effect c now command reply d) {id : RecordId} {r next : StoredRecord}
    (live : c.live? now id = some r) (found : d.find? id = some next) : Revision id r next command reply := by
  have held : c.find? id = some r := (Option.filter_eq_some_iff.1 live).1
  cases effect with
  | kept nodes idle =>
    rw [find?_congr nodes, held] at found
    refine .kept (Option.some.inj found).symm ?_
    cases ok : reply.isOk with
    | false => exact Bool.and_false _
    | true => rw [Command.writes, idle ok, Bool.false_and, Bool.false_and]
  | @erased policy key _ admits nodes =>
    rw [find?_congr nodes, find?_erase] at found
    split at found
    · cases found
    · rw [held] at found
      exact .kept (Option.some.inj found).symm rfl
  | @wrote policy key ops _ after admits writes written nodes =>
    rw [find?_congr nodes, find?_put] at found
    split at found
    · next here =>
      subst here
      cases found
      rw [live] at written
      exact .written rfl writes rfl written.revised
    · next other =>
      rw [held] at found
      refine .kept (Option.some.inj found).symm ?_
      simp [Command.writes, Command.target?, Ne.symm other]

end Cluster

end RecordGate
