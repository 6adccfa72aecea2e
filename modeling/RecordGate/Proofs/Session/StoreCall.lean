import RecordGate.Proofs.Session.Obeyed

/-!
# Calls of the store

What can be done with the in-memory cluster of a session: commands of its client, the hooks for faults and
damage, closing and connecting, and moving the clock. `Reaches` is what any number of such calls lead to;
the handlers of scans may make such calls themselves.
-/

namespace RecordGate
set_option autoImplicit false

/-- A call of the store. The rows of a scan go to the handler. -/
inductive StoreCall where
  | command (command : Command) (handle : RowHandler Session)
  | corrupt (key : Key)
  | failNext (e : ClientError)
  | close
  | connect (seeds hosts : List Host)
  | clock (seconds : Int)
  | recordCount

/-- The answer to a call of the store. -/
inductive StoreAnswer where
  /-- There is no reply after a crash. -/
  | reply (reply : Option CommandReply)
  | corrupted (found : Bool)
  | connected (reply : Reply Unit)
  | count (n : Nat)
  | silent

namespace StoreCall

/-- What the call hands rows to. -/
def handle : StoreCall → RowHandler Session
  | command _ handle => handle
  | _ => fun _ => return .ok ()

/-- Whether the call hands rows to its handler. -/
def isScan : StoreCall → Bool
  | command c _ => c.isScan
  | _ => false

/-- Make a call. -/
def run : StoreCall → Session → StoreAnswer × Session
  | command c handle, s => ((Session.direct.obey handle c).run s).map .reply id
  | corrupt key, s => (Session.corrupt key s).map .corrupted id
  | failNext e, s => (.silent, { s with cluster := s.cluster.failNext e })
  | close, s => (Session.direct.close s).map (fun _ => .silent) id
  | connect seeds hosts, s => (Session.reach seeds hosts s).map .connected id
  | clock seconds, s => (.silent, { s with clock := seconds })
  | recordCount, s => (.count s.cluster.recordCount, s)

end StoreCall

namespace Session

/-- A session over a new cluster. -/
def opened (nodes limit : Nat) (seconds : Int) : Session where
  cluster := .ofSize nodes limit
  clock := seconds
  seeds := []

/-- Calls of the store lead from `s` to `t`. A handler of rows may do all that calls can do. -/
inductive Reaches : Session → Session → Prop
  | refl (s : Session) : Reaches s s
  | call {s t : Session} (before : Reaches s t) (call : StoreCall)
      (handled : ∀ row u, Reaches u ((call.handle row).run u).2) : Reaches s (call.run t).2
  /-- What stands beside the store may change, as when a handler keeps rows or the clock moves. -/
  | aside {s t u : Session} (before : Reaches s t) (cluster : u.cluster = t.cluster) : Reaches s u

/-- Connecting changes the cluster and leaves lines in the log. -/
theorem reach_eq (seeds hosts : List Host) (s : Session) :
    ∃ lines, reach seeds hosts s =
      (((s.cluster.connect seeds hosts).1.map fun _ => ()).mapError Refusal.toError,
        { s with cluster := (s.cluster.connect seeds hosts).2, lines }) := by
  rw [reach, Program.step_bind, onCluster]
  rcases s.cluster.connect seeds hosts with ⟨refusal | seed, c⟩
  · dsimp only
    by_cases missed : refusal = .noSeedReachable
    · rw [if_pos missed]
      exact ⟨_, rfl⟩
    · rw [if_neg missed]
      exact ⟨_, rfl⟩
  · exact ⟨_, rfl⟩

end Session

namespace Cluster

theorem nodes_connect (c : Cluster) (seeds hosts : List Host) : (c.connect seeds hosts).2.nodes = c.nodes := by
  rw [connect]
  split
  · rfl
  · split <;> rfl

theorem connect_eq (c : Cluster) (seeds hosts : List Host) :
    (c.connect seeds hosts).2 = c ∨ (c.connect seeds hosts).2 = c.setConnected true := by
  rw [connect]
  split
  · exact .inl rfl
  · split
    · exact .inr rfl
    · exact .inl rfl

end Cluster

/-- A call that is no command changes no record, or damages one. -/
theorem StoreCall.nodes_or_corrupt {call : StoreCall}
    (uncommanded : ∀ command handle, call ≠ .command command handle) (s : Session) :
    (call.run s).2.cluster.nodes = s.cluster.nodes ∨
      ∃ key, (call.run s).2.cluster = (s.cluster.corrupt key).2 := by
  cases call with
  | command command handle => exact absurd rfl (uncommanded command handle)
  | corrupt key => exact .inr ⟨key, rfl⟩
  | connect seeds hosts =>
    obtain ⟨lines, reached⟩ := Session.reach_eq seeds hosts s
    rw [run, reached]
    exact .inl (s.cluster.nodes_connect seeds hosts)
  | _ => exact .inl rfl

end RecordGate
