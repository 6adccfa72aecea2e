import RecordGate.Proofs.Store.Served

/-!
# What a reader is shown

A command that reads shows a record that is stored afterwards, sound and not expired, through its selection
(`shown_of_readLive`, `shown_of_operate`). The only record that is shown and may be gone at once is one
written in the last second that can be told.
-/

namespace RecordGate
set_option autoImplicit false

/-! ## Selections -/

/-- A selection is what it includes. -/
theorem StoredRecord.view_congr {selection selection' : BinSelection}
    (same : ∀ name, selection'.includes name = selection.includes name) (r : StoredRecord) :
    r.view selection' = r.view selection := by
  have project : selection'.project = selection.project := by
    funext bins
    apply OrderedMap.ext_get?
    intro name
    rw [BinSelection.get?_project, BinSelection.get?_project, same]
  rw [view, view, project]

/-- Whether an operation asks for a bin. -/
def Operation.readsBin (name : String) : Operation → Bool
  | readAll => true
  | read asked => asked == name
  | _ => false

/-- A selection includes what some operation asks for. -/
theorem includes_selection (ops : List Operation) (name : String) :
    (Operation.selection ops).includes name = ops.any (·.readsBin name) := by
  rw [Bool.eq_iff_iff, List.any_eq_true, Operation.selection]
  split
  · next all =>
    refine iff_of_true rfl ?_
    obtain ⟨op, member, reads⟩ := List.any_eq_true.1 all
    cases op with
    | readAll => exact ⟨.readAll, member, rfl⟩
    | _ => cases reads
  · next notAll =>
    have asked : (∃ op ∈ ops, op.readsBin name = true) ↔ .read name ∈ ops := by
      constructor
      · rintro ⟨op, member, reads⟩
        cases op with
        | readAll => exact absurd (List.any_eq_true.2 ⟨.readAll, member, rfl⟩) notAll
        | read other => exact beq_iff_eq.1 reads ▸ member
        | _ => cases reads
      · exact fun member => ⟨.read name, member, beq_self_eq_true name⟩
    rw [asked]
    split
    · next none =>
      refine iff_of_false Bool.false_ne_true fun member => ?_
      cases List.filterMap_eq_nil_iff.1 none _ member
    · change List.contains _ name = true ↔ _
      rw [List.contains_iff_mem, List.mem_filterMap]
      constructor
      · rintro ⟨op, member, made⟩
        cases op with
        | read other =>
          cases made
          exact member
        | _ => cases made
      · exact fun member => ⟨.read name, member, rfl⟩

/-- Operations that write, and then read the named bins. -/
theorem includes_selection_reads {writes : List Operation} (all : ∀ op ∈ writes, op.isWrite = true)
    (names : List String) (name : String) :
    (Operation.selection (writes ++ names.map .read)).includes name =
      (BinSelection.named names).includes name := by
  have silent : writes.any (·.readsBin name) = false := by
    rw [List.any_eq_false]
    intro op member reads
    have write := all op member
    cases op with
    | read _ | readAll | readHeader => cases write
    | write _ | append _ | prepend _ | add _ | touch => cases reads
  have asked : (BinSelection.named names).includes name = names.any (· == name) := by
    have included : (BinSelection.named names).includes name = names.contains name := rfl
    rw [included, List.contains_eq_any_beq]
    exact congrArg names.any (funext fun _ => Bool.beq_comm)
  rw [includes_selection, List.any_append, silent, Bool.false_or, List.any_map, asked]
  rfl

theorem selection_readAll (writes : List Operation) :
    Operation.selection (writes ++ [.readAll]) = .all := by
  rw [Operation.selection, List.any_append]
  exact if_pos (Bool.or_true _)

/-! ## Records -/

/-- What is written lives on, but in the last second that can be told. -/
theorem StoredRecord.expiredAt_of_written {r : StoredRecord} {now ttl : UInt32}
    (written : r.expiration = expiryAt now ttl) (early : now.toNat < UInt32.size - 1) :
    r.expiredAt now = false := by
  rw [expiredAt, written, expiryAt]
  split
  · rfl
  · next some =>
    have positive : ttl.toNat ≠ 0 := by
      intro zero
      exact some (UInt32.toNat_inj.1 zero)
    rw [Bool.and_eq_false_iff, decide_eq_false_iff_not, UInt32.le_iff_toNat_le, UInt32.toNat_ofNat']
    simp only [UInt32.size] at early ⊢
    omega

namespace Cluster

/-- A record that a reader may be shown: it is stored and sound, and it lives or was just written. -/
structure Shown (d : Cluster) (now : UInt32) (id : RecordId) (r : StoredRecord) : Prop where
  found : d.find? id = some r
  sound : r.corrupted = false
  lives : r.expiredAt now = false ∨ ∃ ttl, r.expiration = expiryAt now ttl

variable {c d : Cluster} {now : UInt32} {key : Key}

theorem Shown.congr {id : RecordId} {r : StoredRecord} (shown : c.Shown now id r)
    (nodes : d.nodes = c.nodes) : d.Shown now id r :=
  ⟨(find?_congr nodes id).trans shown.found, shown.sound, shown.lives⟩

theorem shown_of_live {id : RecordId} {r : StoredRecord} (live : c.live? now id = some r)
    (sound : r.corrupted = false) : c.Shown now id r := by
  obtain ⟨found, unexpired⟩ := Option.filter_eq_some_iff.1 live
  exact ⟨found, sound, .inl (by simpa using unexpired)⟩

/-- What was shown is there for the next reader. -/
theorem Shown.readLive {r : StoredRecord} (shown : d.Shown now key.id r)
    (early : now.toNat < UInt32.size - 1) (selection : BinSelection) :
    d.readLive now key selection = .ok (some (r.view selection)) := by
  have unexpired : r.expiredAt now = false := by
    rcases shown.lives with lives | ⟨ttl, written⟩
    · exact lives
    · exact StoredRecord.expiredAt_of_written written early
  have live : d.live? now key.id = some r := by
    rw [live?, shown.found, Option.filter_some, unexpired]
    rfl
  simp only [Cluster.readLive, live, shown.sound, Bool.false_eq_true, if_false]

theorem shown_of_readLive {selection : BinSelection} {record : Record}
    (read : c.readLive now key selection = .ok (some record)) :
    ∃ r, c.Shown now key.id r ∧ record = r.view selection := by
  obtain ⟨r, live, sound, same⟩ := live_of_readLive c now key read
  exact ⟨r, shown_of_live live sound, same⟩

/-- Operations show the record that they leave behind. -/
theorem shown_of_operate {policy : WritePolicy} {ops : List Operation} {record : Record}
    (ok : (c.operate now policy key ops).1 = .ok record) :
    ∃ r, (c.operate now policy key ops).2.Shown now key.id r ∧
      record = r.view (Operation.selection ops) := by
  obtain ⟨effect, -⟩ := c.operate_effect now policy key ops
  cases effect with
  | kept nodes idle =>
    obtain ⟨r, live, sound, same⟩ := live_of_operate c now policy key (idle (by rw [ok]; rfl)) ok
    exact ⟨r, (shown_of_live live sound).congr nodes, same⟩
  | wrote next admits writes written nodes reply =>
    refine ⟨next, ⟨?_, written.sound, .inr ⟨_, written.expiration⟩⟩, Except.ok.inj (ok.symm.trans reply)⟩
    rw [find?_congr nodes, find?_put, if_pos rfl]

/-- A command that succeeds was let in. -/
theorem admits_of_serve {α : Type} {policy : CommandPolicy} {body : Cluster → Except Refusal α × Cluster}
    {a : α} (ok : (c.serve policy body).1 = .ok a) : c.Admits := by
  by_contra not
  have turnedAway : ∃ e d, c.serve policy body = (.error e, d) ∧ _ := serve_of_not_admits not
  obtain ⟨e, d, refused, -⟩ := turnedAway
  rw [refused] at ok
  cases ok

/-- Without a fault, a command that fails is refused. -/
theorem refusal_of_serve {α : Type} (faults : c.faults = []) (policy : CommandPolicy)
    (body : Cluster → Except Refusal α × Cluster) :
    ∃ outcome : Except Refusal α, (c.serve policy body).1 = outcome.mapError Refusal.toError := by
  cases connected : c.connected with
  | true => exact ⟨_, congrArg Prod.fst (serve_of_admits ⟨connected, faults⟩)⟩
  | false =>
    refine ⟨.error .notConnected, ?_⟩
    rw [serve, accept_of_closed connected]
    rfl

/-- A command fails on the oldest fault, or it is refused. -/
theorem error_of_serve {α : Type} {policy : CommandPolicy} {body : Cluster → Except Refusal α × Cluster}
    {e : ClientError} (failed : (c.serve policy body).1 = .error e) :
    (c.connected = true ∧ ∃ rest, c.faults = e :: rest) ∨ ∃ refusal : Refusal, e = refusal.toError := by
  by_cases faulted : c.connected = true ∧ c.faults ≠ []
  · obtain ⟨connected, some⟩ := faulted
    obtain ⟨fault, rest, faults⟩ := List.exists_cons_of_ne_nil some
    rw [serve, accept_of_fault connected faults] at failed
    cases failed
    exact .inl ⟨connected, rest, faults⟩
  · have refused : ∃ outcome : Except Refusal α, (c.serve policy body).1 = outcome.mapError Refusal.toError := by
      cases connected : c.connected with
      | true => exact refusal_of_serve (not_not.1 fun some => faulted ⟨connected, some⟩) policy body
      | false =>
        refine ⟨.error .notConnected, ?_⟩
        rw [serve, accept_of_closed connected]
        rfl
    obtain ⟨outcome, replied⟩ := refused
    rw [replied] at failed
    cases outcome with
    | ok a => cases failed
    | error refusal => exact .inr ⟨refusal, (Except.error.inj failed).symm⟩

end Cluster

end RecordGate
