import RecordGate.Proofs.Session.Course
import RecordGate.Proofs.Store.Generation

/-!
# What leaves a generation alone

Failed calls, reads, damage and calls for other records leave the generation of a record alone
(`generation_of_idle`), and so does a scan whose handler makes no other calls.
-/

namespace RecordGate
set_option autoImplicit false

/-- Whether a call, for what it is, leaves the generation of a record alone: it is a command that reads or
that is about another record, or no command. -/
def StoreCall.spares (id : RecordId) : StoreCall → Bool
  | command c _ => c.isRead || c.target?.any (·.id != id)
  | _ => true

/-- The call spares the record, or it failed. -/
def Moment.Idle (id : RecordId) (m : Moment) : Prop := m.call.spares id = true ∨ m.answer.isOk = false

/-- The calls that a handler makes spare a record, or fail. -/
def RowHandler.Spares (id : RecordId) (handle : RowHandler Session) : Prop :=
  ∀ row u, Session.Leads (·.Idle id) u ((handle row).run u).2

namespace Session

/-- A call that is no command leaves alone whatever does not look at damage. -/
theorem map_find?_of_uncommanded {call : StoreCall}
    (uncommanded : ∀ command handle, call ≠ .command command handle) {α : Type} {f : StoredRecord → α}
    (unseen : ∀ r, f { r with corrupted := true } = f r) (s : Session) (id : RecordId) :
    ((call.run s).2.cluster.find? id).map f = (s.cluster.find? id).map f := by
  rcases StoreCall.nodes_or_corrupt uncommanded s with nodes | ⟨key, damaged⟩
  · rw [Cluster.find?_congr nodes]
  · rw [damaged]
    exact Cluster.map_find?_corrupt unseen s.cluster key id

variable {id : RecordId}

/-- A call that is no scan and is idle leaves the generation of a record alone. -/
theorem generation_of_noScan {s : Session} {call : StoreCall} (noScan : call.isScan = false)
    (idle : call.spares id = true ∨ (call.run s).1.isOk = false) :
    ((call.run s).2.cluster.find? id).map (·.generation) =
      (s.cluster.find? id).map (·.generation) := by
  cases call with
  | command command handle =>
    simp only [StoreCall.run, Prod.map_fst, Prod.map_snd, id_eq] at idle ⊢
    obtain ⟨obeyed, -⟩ := obey_effect handle noScan s
    generalize (direct.obey handle command).run s = ran at obeyed idle ⊢
    cases obeyed with
    | crashed nodes timeless => exact congrArg _ (Cluster.find?_congr nodes id)
    | replied effect =>
      apply congrArg
      rcases idle with spares | failed
      · rw [StoreCall.spares, Bool.or_eq_true, Option.any_eq_true] at spares
        rcases spares with reads | ⟨key, target, other⟩
        · exact Cluster.find?_congr (effect.nodes_of_idle (.inr reads)) id
        · exact effect.find?_of_other target (bne_iff_ne.1 other)
      · exact Cluster.find?_congr (effect.nodes_of_idle (.inl failed)) id
  | _ => exact map_find?_of_uncommanded (fun _ _ => StoreCall.noConfusion) (fun _ => rfl) s id

theorem Leads.generation {s t : Session} (leads : Leads (·.Idle id) s t) :
    (t.cluster.find? id).map (·.generation) = (s.cluster.find? id).map (·.generation) := by
  obtain ⟨moments, course, idle⟩ := leads
  induction course with
  | done t => rfl
  | call call noScan course ih =>
    obtain ⟨here, rest⟩ := List.forall_mem_cons.1 idle
    exact (ih rest).trans (generation_of_noScan noScan here)
  | aside nodes course ih => exact (ih idle).trans (congrArg _ (Cluster.find?_congr nodes id))

/-- **Failed calls, reads, damage and calls for other records** leave a generation alone. -/
theorem generation_of_idle {s : Session} {call : StoreCall}
    (spares : call.isScan = true → call.handle.Spares id)
    (idle : call.spares id = true ∨ (call.run s).1.isOk = false) :
    ((call.run s).2.cluster.find? id).map (·.generation) =
      (s.cluster.find? id).map (·.generation) := by
  cases scan : call.isScan with
  | false => exact generation_of_noScan scan idle
  | true =>
    cases call with
    | command command handle => exact (Leads.scan (spares scan) scan s).generation
    | _ => cases scan

end Session

end RecordGate
