import RecordGate.Proofs.Session.StoreCall

/-!
# Invariants of the store

What no command ends and no damage ends, no call of the store ends, and no number of calls: neither what a
scan does before it hands out rows nor what its handler calls can end it (`Reaches.keeps`).
-/

namespace RecordGate
set_option autoImplicit false

/-- A property of the records of a cluster and of their limit that no command and no damage ends. -/
structure Cluster.Invariant (Kept : Cluster → Prop) : Prop where
  congr : ∀ {c d : Cluster}, Kept c → d.nodes = c.nodes → d.recordLimit = c.recordLimit → Kept d
  effect : ∀ {c d : Cluster} {now : UInt32} {command : Command} {reply : CommandReply},
    Effect c now command reply d → Spared c d → Kept c → Kept d
  corrupt : ∀ {c : Cluster} (key : Key), Kept c → Kept (c.corrupt key).2

namespace Session

variable {Kept : Cluster → Prop} (invariant : Cluster.Invariant Kept)
include invariant

theorem keeps_obey {handle : RowHandler Session}
    {command : Command} (handled : command.isScan = true → ∀ row s, Kept s.cluster →
      Kept ((handle row).run s).2.cluster) {s : Session} (start : Kept s.cluster) :
    Kept ((direct.obey handle command).run s).2.cluster := by
  cases scan : command.isScan with
  | true =>
    apply scan_keeps (handled scan) scan
    intro t steady
    exact invariant.congr start steady.nodes steady.spared.recordLimit
  | false =>
    obtain ⟨obeyed, spared⟩ := obey_effect handle scan s
    generalize (direct.obey handle command).run s = run at obeyed spared ⊢
    cases obeyed with
    | crashed nodes timeless => exact invariant.congr start nodes spared.recordLimit
    | replied effect => exact invariant.effect effect spared start

/-- One call keeps an invariant, if the handler that it hands rows to does. -/
theorem keeps_run (call : StoreCall)
    (handled : call.isScan = true → ∀ row s, Kept s.cluster → Kept ((call.handle row).run s).2.cluster)
    {s : Session} (start : Kept s.cluster) : Kept (call.run s).2.cluster := by
  cases call with
  | command command handle => exact keeps_obey invariant handled start
  | corrupt key => exact invariant.corrupt key start
  | failNext e => exact invariant.congr start rfl rfl
  | close => exact invariant.congr start rfl rfl
  | connect seeds hosts =>
    obtain ⟨lines, reached⟩ := reach_eq seeds hosts s
    rw [StoreCall.run, reached]
    change Kept (s.cluster.connect seeds hosts).2
    rcases s.cluster.connect_eq seeds hosts with same | same <;> rw [same]
    · exact start
    · exact invariant.congr start rfl rfl
  | clock seconds => exact start
  | recordCount => exact start

/-- **An invariant that holds at first holds ever after.** -/
theorem Reaches.keeps {s t : Session} (reaches : Reaches s t) (start : Kept s.cluster) :
    Kept t.cluster := by
  induction reaches with
  | refl s => exact start
  | call before call handled ih handledKeeps => exact keeps_run invariant call (fun _ => handledKeeps) (ih start)
  | aside before cluster ih => exact cluster ▸ ih start

end Session

end RecordGate
