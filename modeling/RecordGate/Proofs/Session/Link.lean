import RecordGate.Proofs.Session.StoreCall
import RecordGate.Session.Gates

/-!
# Linking gates to the cluster

What it does to make a gate, to give it a host and to close it, as one equation for each: the answer, the
gate that is kept under the name, and whether the cluster was reached.
-/

namespace RecordGate
set_option autoImplicit false

namespace Cluster

variable {c : Cluster} {seeds hosts : List Host}

/-- A cluster is reached through a host that is a seed, and connected then. -/
theorem connect_of_reached (reached : hosts.any (seeds.contains ·) = true) :
    ∃ seed, c.connect seeds hosts = (.ok seed, c.setConnected true) := by
  obtain ⟨host, member, seed⟩ := List.any_eq_true.1 reached
  have some : (hosts.find? (seeds.contains ·)).isSome = true := List.find?_isSome.2 ⟨host, member, seed⟩
  obtain ⟨first, found⟩ := Option.isSome_iff_exists.1 some
  have nonempty : hosts.isEmpty = false := List.isEmpty_eq_false_iff.2 (List.ne_nil_of_mem member)
  refine ⟨first, ?_⟩
  rw [connect, nonempty, if_neg Bool.false_ne_true, found]

/-- Through other hosts it is not reached, and stays as it is. -/
theorem connect_of_missed (missed : hosts.any (seeds.contains ·) = false) :
    ∃ refusal, c.connect seeds hosts = (.error refusal, c) := by
  have none : hosts.find? (seeds.contains ·) = none := by
    rw [List.find?_eq_none]
    intro host member seed
    exact Bool.noConfusion (missed.symm.trans (List.any_eq_true.2 ⟨host, member, seed⟩))
  rw [connect]
  split
  · exact ⟨_, rfl⟩
  · rw [none]
    exact ⟨_, rfl⟩

theorem setConnected_of_connected (connected : c.connected = true) : c.setConnected true = c := by
  obtain ⟨nodes, nonempty, _, limit, faults, policy, calls⟩ := c
  cases connected
  rfl

end Cluster

/-- A gate with a host listed. -/
def Gate.listing (gate : Gate) (host : Host) : Gate :=
  if gate.hosts.contains host then gate else { gate with hosts := gate.hosts ++ [host] }

theorem Gate.hosts_listing (gate : Gate) (host : Host) :
    (gate.listing host).hosts = if gate.hosts.contains host then gate.hosts else gate.hosts ++ [host] := by
  rw [listing]
  split <;> rfl

@[simp] theorem Gate.attached_listing (gate : Gate) (host : Host) :
    (gate.listing host).attached = gate.attached := by
  rw [listing]
  split <;> rfl

namespace Session

/-- The session after the cluster was reached, or not. -/
def linked (s : Session) (reached : Bool) (lines : List (LogLevel × String)) : Session :=
  { s with cluster := if reached then s.cluster.setConnected true else s.cluster, lines }

/-- A gate that tries to reach the cluster holds a client if it succeeds, and none otherwise. -/
theorem reconnect_eq (seeds : List Host) (gate : Gate) (s : Session) :
    ∃ reached lines, reached = gate.hosts.any (seeds.contains ·) ∧
      Gate.reconnect (surroundings seeds) gate s =
        ((reached, { gate with attached := reached }), s.linked reached lines) := by
  obtain ⟨lines, reach⟩ := reach_eq seeds gate.hosts s
  have env : (surroundings seeds).connect gate.hosts s = _ := reach
  rw [Gate.reconnect, Program.step_bind, env]
  cases reached : gate.hosts.any (seeds.contains ·) with
  | true =>
    obtain ⟨seed, connect⟩ := Cluster.connect_of_reached (c := s.cluster) reached
    rw [connect]
    exact ⟨true, _, rfl, rfl⟩
  | false =>
    obtain ⟨refusal, connect⟩ := Cluster.connect_of_missed (c := s.cluster) reached
    rw [connect]
    exact ⟨false, _, rfl, rfl⟩

/-- A gate to hosts is made connected if one of them is a seed. -/
theorem made_eq (seeds hosts : List Host) (s : Session) :
    ∃ reached lines, reached = hosts.any (seeds.contains ·) ∧
      Gate.connect (surroundings seeds) hosts s =
        ({ hosts, attached := reached }, s.linked reached lines) := by
  obtain ⟨reached, lines, seeded, made⟩ := reconnect_eq seeds { hosts } s
  exact ⟨reached, lines, seeded, congrArg (Prod.map Prod.snd id) made⟩

theorem connect_eq (name : String) (hosts : List Host) (s : Session) :
    ∃ reached lines, reached = hosts.any (s.seeds.contains ·) ∧ Session.connect name hosts s = (reached,
      { s.linked reached lines with
        gates := s.gates.insert name ⟨s.seeds, { hosts, attached := reached }⟩ }) := by
  obtain ⟨reached, lines, seeded, made⟩ := made_eq s.seeds hosts s
  refine ⟨reached, lines, seeded, ?_⟩
  rw [Session.connect, Program.step_get, Program.step_bind, made]
  cases reached <;> rfl

/-- A configuration makes a gate to its hosts, or none. -/
theorem connectConfigured_eq (name text : String) (s : Session) :
    (∃ e log, connectConfigured name text s = (.error e, { s with log })) ∨
      ∃ hosts reached lines log, reached = hosts.any (s.seeds.contains ·) ∧
        connectConfigured name text s = (.ok reached,
          { s.linked reached lines with
            log, gates := s.gates.insert name ⟨s.seeds, { hosts, attached := reached }⟩ }) := by
  rw [connectConfigured]
  cases Config.parse text with
  | error problem => exact .inl ⟨_, s.log, rfl⟩
  | ok config =>
    dsimp only
    rw [Program.step_get, Program.step_bind, Gate.ofConfig, Program.step_bind]
    cases config.seedHosts with
    | error problem => exact .inl ⟨_, _, rfl⟩
    | ok hosts =>
      obtain ⟨reached, lines, seeded, made⟩ := made_eq s.seeds hosts (setLogLevel config.logLevel s).2
      have level : (surroundings s.seeds).setLogLevel config.logLevel s =
        ((), (setLogLevel config.logLevel s).2) := rfl
      have given : (Except.ok (ε := GateError) <$> Gate.connect (surroundings s.seeds) hosts)
          (setLogLevel config.logLevel s).2 = _ := congrArg (Prod.map Except.ok id) made
      refine .inr ⟨hosts, reached, lines, (setLogLevel config.logLevel s).2.log, seeded, ?_⟩
      rw [level]
      dsimp only
      rw [given]
      cases reached <;> rfl

/-- A gate that does not exist is not changed. -/
theorem changeGate_of_none {α : Type} {s : Session} {name : String} (none : s.gates.get? name = none)
    (change : Surroundings Session → Gate → StateM Session (α × Gate)) :
    changeGate name change s = (Option.none, s) := by
  rw [changeGate, Program.step_get, none]
  rfl

section Gate

variable {s : Session} {name : String} {g : SeededGate} (found : s.gates.get? name = some g)
include found

/-- A change of a gate that exists. -/
theorem changeGate_eq {α : Type} (change : Surroundings Session → Gate → StateM Session (α × Gate)) :
    changeGate name change s =
      (some (change (surroundings g.seeds) g.gate s).1.1,
        { (change (surroundings g.seeds) g.gate s).2 with
          gates := (change (surroundings g.seeds) g.gate s).2.gates.insert name
            ⟨g.seeds, (change (surroundings g.seeds) g.gate s).1.2⟩ }) := by
  rw [changeGate, Program.step_get, found]
  rfl

/-- A host is listed once, and a gate that is not connected tries to reach the cluster. -/
theorem addHost_eq (host : Host) :
    ∃ told lines,
      told = (isConnected s g || (g.gate.listing host).hosts.any (g.seeds.contains ·)) ∧
      Session.addHost name host s = (some told,
        { s.linked told lines with
          gates := s.gates.insert name ⟨g.seeds, { g.gate.listing host with attached := told }⟩ }) := by
  have still : (g.gate.listing host).isConnected (surroundings g.seeds) s = isConnected s g :=
    congrArg (· && s.cluster.connected) (g.gate.attached_listing host)
  have added : Gate.addHost (surroundings g.seeds) g.gate host s =
      if isConnected s g then ((true, g.gate.listing host), s)
      else Gate.reconnect (surroundings g.seeds) (g.gate.listing host) s := by
    have opened : Gate.addHost (surroundings g.seeds) g.gate host s =
        (if (g.gate.listing host).isConnected (surroundings g.seeds) s then
          (return (true, g.gate.listing host) : StateM Session (Bool × Gate))
        else Gate.reconnect (surroundings g.seeds) (g.gate.listing host)) s := rfl
    rw [opened, still]
    split <;> rfl
  rw [Session.addHost, changeGate_eq found, added]
  cases connected : isConnected s g with
  | true =>
    obtain ⟨attached, reached⟩ := Bool.and_eq_true_iff.1 connected
    have whole : s.linked true s.lines = s := by
      rw [linked, if_pos rfl, Cluster.setConnected_of_connected reached]
    have holds : { g.gate.listing host with attached := true } = g.gate.listing host := by
      rw [← attached, ← g.gate.attached_listing host]
    refine ⟨true, s.lines, rfl, ?_⟩
    rw [if_pos rfl, whole, holds]
  | false =>
    obtain ⟨reached, lines, seeded, made⟩ := reconnect_eq g.seeds (g.gate.listing host) s
    rw [if_neg Bool.false_ne_true, made]
    exact ⟨reached, lines, seeded, rfl⟩

/-- A gate lets go of its client, and closes the connection if it had one. -/
theorem closeGate_eq :
    ∃ lines, closeGate name s = (some (),
      { s with
        cluster := if g.gate.attached then s.cluster.close else s.cluster
        lines
        gates := s.gates.insert name ⟨g.seeds, { g.gate with attached := false }⟩ }) := by
  have closed : ∃ lines, Gate.close (surroundings g.seeds) g.gate s = ({ g.gate with attached := false },
      { s with cluster := if g.gate.attached then s.cluster.close else s.cluster, lines }) := by
    rw [Gate.close]
    cases g.gate.attached with
    | true => exact ⟨_, rfl⟩
    | false => exact ⟨_, rfl⟩
  obtain ⟨lines, closed⟩ := closed
  have change : (do return ((), ← g.gate.close (surroundings g.seeds)) : StateM Session (Unit × Gate)) s =
      (((), (Gate.close (surroundings g.seeds) g.gate s).1),
        (Gate.close (surroundings g.seeds) g.gate s).2) := rfl
  rw [closeGate, changeGate_eq found, change, closed]
  exact ⟨lines, rfl⟩

end Gate

end Session

end RecordGate
