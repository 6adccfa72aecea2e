import RecordGate.Options.Policies
import RecordGate.RecordClient
import RecordGate.Gate.Event

/-!
# The gate

A gate answers calls in three steps: the options become a policy, the client is given one command, and
its reply becomes a `CallResult`. A gate that holds no client answers every call as a client would that
is not connected. Bins that are needed and not given are a parameter error, and no command is given.
-/

namespace RecordGate
set_option autoImplicit false

/-- A gate: the hosts that it knows, and whether it holds a client. -/
structure Gate where
  hosts : List Host
  attached : Bool := false
  deriving DecidableEq, Inhabited

namespace Gate

variable {σ : Type} (env : Surroundings σ)

/-! ## Connection -/

/-- Try to reach the cluster through the hosts of a gate. Tells whether it was reached. -/
def reconnect (gate : Gate) : StateM σ (Bool × Gate) := do
  match ← env.connect gate.hosts with
  | .ok () =>
    env.note (.connectionEstablished gate.hosts.length)
    return (true, { gate with attached := true })
  | .error e =>
    env.note (.clusterUnreachable e)
    return (false, { gate with attached := false })

/-- A gate to the cluster behind the given hosts. It is made even if none can be reached. -/
def connect (hosts : List Host) : StateM σ Gate := return (← reconnect env { hosts }).2

/-- Whether a gate holds a client that is connected. -/
def isConnected (gate : Gate) (s : σ) : Bool := gate.attached && env.client.isConnected s

/-- Add a host, and try to connect unless the gate is connected. Tells whether it was connected, or the
cluster was reached. -/
def addHost (gate : Gate) (host : Host) : StateM σ (Bool × Gate) := do
  let gate := if gate.hosts.contains host then gate else { gate with hosts := gate.hosts ++ [host] }
  if gate.isConnected env (← get) then return (true, gate) else reconnect env gate

def nodeNames (gate : Gate) (s : σ) : List String :=
  if gate.attached then env.client.nodeNames s else []

/-- Close the connection and let go of the client. -/
def close (gate : Gate) : StateM σ Gate := do
  if gate.attached then
    env.client.close
    env.note .connectionClosed
  return { gate with attached := false }

/-! ## One command for one call -/

/-- The failure of a client that a gate does not hold. -/
def notConnected : ClientError := Refusal.notConnected.toError

/-- The result of a reply; a failure is noted. -/
def settle {α : Type} (f : α → CallResult) (reply : Reply α) : StateM σ CallResult := do
  if let .error e := reply then env.note (.callFailed e)
  return CallResult.ofReply f reply

/-- Give the client one command, if the gate holds a client. -/
def call {α : Type} (gate : Gate) (f : α → CallResult)
    (command : RecordClient σ → Program σ (Reply α)) : Program σ CallResult := do
  if gate.attached then settle env f (← command env.client)
  else settle env f (.error notConnected)

/-! ## Writes -/

/-- The ways to write bins. -/
inductive WriteKind where
  | set
  | append
  | prepend
  | add
  deriving DecidableEq

/-- The operation that writes a bin. -/
def WriteKind.operation : WriteKind → Bin → Operation
  | set => .write
  | append => .append
  | prepend => .prepend
  | add => .add

/-- Write bins in their order. The result carries the new generation. -/
def write (gate : Gate) (kind : WriteKind) (key : Key) (bins : List Bin)
    (tx : Option TransactionOptions) (options : Option WriteOptions) : Program σ CallResult := do
  if bins.isEmpty then return .ofCode .parameterError
  let ops := bins.map kind.operation ++ [.readHeader]
  env.note (.writing key ops.length)
  gate.call env CallResult.ofHeader (·.operate (.ofOptions tx options) key ops)

/-- The bins of a map, in ascending order of names. -/
def binsOfMap (bins : BinMap) : List Bin := bins.entries.map fun e => ⟨e.1, e.2⟩

/-- Add to bins, and read the whole record back. -/
def addAndGet (gate : Gate) (key : Key) (bins : List Bin) (tx : Option TransactionOptions)
    (options : Option WriteOptions) : Program σ CallResult := do
  if bins.isEmpty then return .ofCode .parameterError
  env.note (.adding key)
  gate.call env CallResult.ofRecord
    (·.operate (.ofOptions tx options) key (bins.map .add ++ [.readAll]))

/-- Delete a record. -/
def delete (gate : Gate) (key : Key) (tx : Option TransactionOptions)
    (options : Option WriteOptions) : Program σ CallResult := do
  env.note (.deleting key)
  gate.call env CallResult.ofPresence (·.delete (.ofOptions tx options) key)

/-! ## Reads -/

/-- Read the bins of a selection. -/
def read (gate : Gate) (key : Key) (selection : BinSelection) (tx : Option TransactionOptions) :
    Program σ CallResult := do
  env.note (.reading key)
  gate.call env CallResult.ofFoundRecord (·.get (.ofOptions tx) key selection)

/-- Read one bin, and name its value in the result. -/
def getBin (gate : Gate) (key : Key) (name : String) (tx : Option TransactionOptions) :
    Program σ CallResult := do
  return (← gate.read env key (.named [name]) tx).withSingle name

def getBins (gate : Gate) (key : Key) (names : List String) (tx : Option TransactionOptions) :
    Program σ CallResult :=
  gate.read env key (.named names) tx

def getAll (gate : Gate) (key : Key) (tx : Option TransactionOptions) : Program σ CallResult :=
  gate.read env key .all tx

/-- Give a record a new expiration and read the named bins, or all of them without names. -/
def getWithTouch (gate : Gate) (key : Key) (names : Option (List String))
    (tx : Option TransactionOptions) (options : Option WriteOptions) : Program σ CallResult := do
  let reads := match names with
    | some names => names.map .read
    | none => [.readAll]
  env.note (.touching key)
  gate.call env CallResult.ofRecord (·.operate (.ofOptions tx options) key (.touch :: reads))

/-- Whether a record exists. -/
def contains (gate : Gate) (key : Key) (tx : Option TransactionOptions) : Program σ CallResult :=
  gate.call env CallResult.ofPresence (·.contains (.ofOptions tx) key)

/-- Write bins, then read bins of the record as it is after that. Without names to read the result
carries only the new generation. -/
def operate (gate : Gate) (key : Key) (reads : List String) (writes : List Bin)
    (tx : Option TransactionOptions) (options : Option WriteOptions) : Program σ CallResult := do
  let readOps := if reads.isEmpty then [.readHeader] else reads.map .read
  env.note (.operating key reads.length writes.length)
  gate.call env (if reads.isEmpty then CallResult.ofHeader else CallResult.ofRecord)
    (·.operate (.ofOptions tx options) key (writes.map .write ++ readOps))

end Gate

end RecordGate
