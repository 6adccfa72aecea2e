import RecordGate.Gate.Call
import RecordGate.Gate.Configured
import RecordGate.Gate.Description
import RecordGate.Gate.Scan
import RecordGate.Session

/-!
# The gates of a session

Gates are used by their names; for a name that no gate has there is no answer, and nothing happens.
-/

namespace RecordGate.Session
set_option autoImplicit false

/-- Put a gate under a name. -/
def keepGate (name : String) (seeds : List Host) (gate : Gate) : StateM Session Unit := modify fun s =>
  { s with gates := s.gates.insert name { seeds, gate } }

/-- Use the gate of a name. -/
def withGate {α : Type} (name : String) (use : Surroundings Session → Gate → Program Session α) :
    Program Session (Option α) := do
  match (← get).gates.get? name with
  | some g => some <$> use (surroundings g.seeds) g.gate
  | none => return none

/-! ## Connection -/

/-- Whether the gate of a name is connected. -/
def isConnected (s : Session) (gate : SeededGate) : Bool :=
  gate.gate.isConnected (surroundings gate.seeds) s

/-- Make a gate that can reach the present seeds, and put it under a name. Tells whether it is
connected. -/
def connect (name : String) (hosts : List Host) : StateM Session Bool := do
  let seeds := (← get).seeds
  let gate ← Gate.connect (surroundings seeds) hosts
  keepGate name seeds gate
  return isConnected (← get) ⟨seeds, gate⟩

/-- Make a gate from the text of a configuration, and put it under a name. Tells whether it is
connected. -/
def connectConfigured (name text : String) : StateM Session (Except GateError Bool) := do
  match Config.parse text with
  | .error problem => return .error (.config problem)
  | .ok config =>
    let seeds := (← get).seeds
    match ← Gate.ofConfig (surroundings seeds) config with
    | .error e => return .error e
    | .ok gate =>
      keepGate name seeds gate
      return .ok (isConnected (← get) ⟨seeds, gate⟩)

/-- Change the gate of a name, and answer what the change tells. -/
def changeGate {α : Type} (name : String)
    (change : Surroundings Session → Gate → StateM Session (α × Gate)) : StateM Session (Option α) := do
  match (← get).gates.get? name with
  | some g =>
    let (told, gate) ← change (surroundings g.seeds) g.gate
    keepGate name g.seeds gate
    return some told
  | none => return none

/-- Add a host to the gate of a name. -/
def addHost (name : String) (host : Host) : StateM Session (Option Bool) :=
  changeGate name fun env gate => gate.addHost env host

/-- Close the gate of a name. -/
def closeGate (name : String) : StateM Session (Option Unit) :=
  changeGate name fun env gate => return ((), ← gate.close env)

/-- What is known of a gate. -/
structure GateStatus where
  connected : Bool
  nodes : List String
  hosts : List Host

/-- What is known of the gate of a name. -/
def status (name : String) : Program Session (Option GateStatus) :=
  withGate name fun env gate => do
    let s ← get
    return { connected := gate.isConnected env s, nodes := gate.nodeNames env s, hosts := gate.hosts }

/-- The description of the gate of a name. -/
def description (name : String) : Program Session (Option String) :=
  withGate name fun env gate => return gate.description env (← get)

/-! ## Calls -/

/-- Make a call of the gate of a name. -/
def call (name : String) (c : GateCall) : Program Session (Option GateAnswer) :=
  withGate name fun env gate => gate.run env c

/-- A callback that keeps every row. Given the name of a bin, it then counts the record there. -/
def counting (env : Surroundings Session) (gate : Gate) (counter : Option String) (row : ScanRow) :
    Program Session Unit := do
  keepRow row
  if let some bin := counter then
    let _ ← gate.write env .add (.ofDigest row.ns row.digest) [⟨bin, .int 1⟩] none none

/-- Make a scan through the gate of a name. -/
def scan (name : String) (s : GateScan) (counter : Option String) :
    Program Session (Option CallResult) :=
  withGate name fun env gate => gate.runScan env s (counting env gate counter)

/-- Write the integers from zero below a number to a bin, each in the record that has the integer as its
user key. -/
def fill (name ns setName bin : String) (count : Nat) (tx : Option TransactionOptions)
    (options : Option WriteOptions) : Program Session (Option Unit) :=
  withGate name fun env gate => do
    for n in List.range count do
      let number := Int64.ofNat n
      let key := Key.ofUserKey ns setName (.int number)
      let _ ← gate.write env .set key [⟨bin, .int number⟩] tx options

end RecordGate.Session
