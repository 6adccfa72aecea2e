import RecordGate.Gate

/-!
# Scans through the gate

The caller's callback receives every row and returns nothing, so that it cannot end a scan.
-/

namespace RecordGate
set_option autoImplicit false

namespace Gate

variable {σ : Type} (env : Surroundings σ)

/-- The result of a scan; its end is noted. -/
def settleScan (reply : Reply ScanSummary) : StateM σ CallResult := do
  if let .ok summary := reply then env.note (.scanComplete summary)
  settle env CallResult.ofSummary reply

/-- A callback as a client calls it. -/
def handler (callback : ScanRow → Program σ Unit) : RowHandler σ := fun row => do
  callback row
  return .ok ()

/-- Give the client a scan, if the gate holds a client. -/
def scanWith (gate : Gate) (command : RecordClient σ → Program σ (Reply ScanSummary)) :
    Program σ CallResult := do
  if gate.attached then settleScan env (← command env.client)
  else settle env CallResult.ofSummary (.error notConnected)

/-- Scan a namespace and set; without a set name, every set. -/
def scan (gate : Gate) (ns setName : String) (options : Option ScanOptions)
    (callback : ScanRow → Program σ Unit) : Program σ CallResult :=
  gate.scanWith env (·.scanAll (.ofOptions options) ns setName (handler callback))

/-- Scan one node. -/
def scanNode (gate : Gate) (node ns setName : String) (options : Option ScanOptions)
    (callback : ScanRow → Program σ Unit) : Program σ CallResult :=
  gate.scanWith env (·.scanNode (.ofOptions options) node ns setName (handler callback))

/-- Scan all nodes at once, whatever the options say of it. -/
def scanAllNodes (gate : Gate) (ns setName : String) (options : Option ScanOptions)
    (callback : ScanRow → Program σ Unit) : Program σ CallResult :=
  gate.scanWith env
    (·.scanAll { ScanPolicy.ofOptions options with concurrent := true } ns setName (handler callback))

end Gate

/-- What a scan through a gate covers. -/
inductive ScanTarget where
  | cluster
  | node (name : String)
  /-- Every node, all at once. -/
  | allNodes

/-- A scan through a gate, with what it is given beside the callback. -/
structure GateScan where
  target : ScanTarget
  ns : String
  setName : String
  options : Option ScanOptions

/-- Make a scan. -/
def Gate.runScan {σ : Type} (env : Surroundings σ) (gate : Gate) (s : GateScan)
    (callback : ScanRow → Program σ Unit) : Program σ CallResult :=
  match s.target with
  | .cluster => gate.scan env s.ns s.setName s.options callback
  | .node name => gate.scanNode env name s.ns s.setName s.options callback
  | .allNodes => gate.scanAllNodes env s.ns s.setName s.options callback

end RecordGate
