import RecordGate.Proofs.Session.Obeyed

/-!
# A command changes all it should, or nothing

A command that does not succeed leaves every record as it was, however far its operations had come, and so
does one that only reads. A command that deletes or writes a record leaves every other place alone. Scans
are held to this as far as their handlers are.
-/

namespace RecordGate
set_option autoImplicit false

namespace Session

/-- A scan whose handler changes no record changes none. -/
theorem nodes_of_scan {handle : RowHandler Session} {command : Command}
    (scan : command.isScan = true)
    (aloof : ∀ row t, ((handle row).run t).2.cluster.nodes = t.cluster.nodes) (s : Session) :
    ((direct.obey handle command).run s).2.cluster.nodes = s.cluster.nodes := by
  have keeps : ∀ row t, t.cluster.nodes = s.cluster.nodes →
      ((handle row).run t).2.cluster.nodes = s.cluster.nodes := by
    intro row t same
    rw [aloof, same]
  exact scan_keeps keeps scan fun t steady => steady.nodes

/-- **All or nothing, and nowhere else.** -/
theorem obey_atomic (handle : RowHandler Session) (command : Command) (s : Session)
    (aloof : command.isScan = true →
      ∀ row t, ((handle row).run t).2.cluster.nodes = t.cluster.nodes) :
    let (reply, t) := (direct.obey handle command).run s
    ((∀ r, reply = some r → r.isOk = false) ∨ command.isRead = true →
        t.cluster.nodes = s.cluster.nodes) ∧
      (∀ key, command.target? = some key → t.cluster.nodeNames = s.cluster.nodeNames ∧
        ∀ place id, ¬ (place = s.cluster.home key.digest ∧ id = key.id) →
          t.cluster.storedAt place id = s.cluster.storedAt place id) := by
  cases scan : command.isScan with
  | true =>
    constructor
    · intro _
      exact nodes_of_scan scan (aloof scan) s
    · intro key target
      rw [command.target?_of_isScan scan] at target
      cases target
  | false =>
    obtain ⟨obeyed, -⟩ := obey_effect handle scan s
    generalize (direct.obey handle command).run s = run at obeyed ⊢
    cases obeyed with
    | crashed nodes timeless =>
      refine ⟨fun _ => nodes, ?_⟩
      intro key target
      constructor
      · rw [Cluster.nodeNames, nodes, Cluster.nodeNames]
      · intro place id other
        exact Cluster.storedAt_congr nodes place id
    | replied effect =>
      constructor
      · intro idle
        apply effect.nodes_of_idle
        rcases idle with failed | reads
        · exact .inl (failed _ rfl)
        · exact .inr reads
      · intro key target
        refine ⟨effect.names, ?_⟩
        intro place id other
        exact effect.elsewhere target other

/-- A scan of one record whose handler keeps the row. -/
theorem obey_atomic_of_scan :
    let c := (Cluster.ofSize 2 100).put ⟨"test", default⟩ { generation := 1 }
    let s : Session := { cluster := c, clock := 10, seeds := [] }
    let (_, t) := (direct.obey (fun row => do keepRow row; return .ok ()) (.scanAll {} "test" "")).run s
    t.rows.length = 1 ∧ t.cluster.nodes = s.cluster.nodes := by
  refine ⟨by decide +kernel, ?_⟩
  exact (obey_atomic (fun row => do keepRow row; return .ok ()) (.scanAll {} "test" "")
    { cluster := (Cluster.ofSize 2 100).put ⟨"test", default⟩ { generation := 1 }, clock := 10, seeds := [] }
    fun _ _ _ => rfl).1 (.inr rfl)

end Session

end RecordGate
