import RecordGate.Host
import RecordGate.Log.Event
import RecordGate.Policy
import RecordGate.Program
import RecordGate.Store.Scan

/-!
# The contract of a record client

A gate works with any client that acts on a state `σ`: the one of the in-memory cluster, one that
answers from a script, or one of which nothing is known. `Surroundings` adds the rest of what a gate
needs: a way to connect, and the log. A command of a client may crash, and so may the handler of a scan's
rows; nothing else does.
-/

namespace RecordGate
set_option autoImplicit false

/-- Handles one row of a client's scan; a failure ends the scan. -/
abbrev RowHandler (σ : Type) := ScanRow → Program σ (Reply Unit)

/-- A client of record commands that acts on a state. -/
structure RecordClient (σ : Type) where
  isConnected : σ → Bool
  nodeNames : σ → List String
  /-- Read a record, which may be missing. -/
  get : Policy → Key → BinSelection → Program σ (Reply (Option Record))
  contains : Policy → Key → Program σ (Reply Bool)
  /-- Delete a record; tells whether there was one. -/
  delete : WritePolicy → Key → Program σ (Reply Bool)
  /-- Write, then read what the reads ask for. -/
  operate : WritePolicy → Key → List Operation → Program σ (Reply Record)
  /-- Read many records; the answers stand in the order of keys. -/
  batchGet : Policy → List Key → BinSelection → Program σ (Reply (List (Reply (Option Record))))
  batchContains : Policy → List Key → Program σ (Reply (List Bool))
  /-- Scan a namespace and set on every node. -/
  scanAll : ScanPolicy → String → String → RowHandler σ → Program σ (Reply ScanSummary)
  /-- Scan a namespace and set on the node of a name. -/
  scanNode : ScanPolicy → String → String → String → RowHandler σ → Program σ (Reply ScanSummary)
  close : StateM σ Unit

/-- What a gate works with. -/
structure Surroundings (σ : Type) where
  client : RecordClient σ
  /-- Reach the client through one of the given hosts. -/
  connect : List Host → StateM σ (Reply Unit)
  note : LogEvent → StateM σ Unit
  setLogLevel : LogLevel → StateM σ Unit

/-- A command that a gate gives to a client. -/
inductive Command where
  | get (policy : Policy) (key : Key) (selection : BinSelection)
  | contains (policy : Policy) (key : Key)
  | delete (policy : WritePolicy) (key : Key)
  | operate (policy : WritePolicy) (key : Key) (ops : List Operation)
  | batchGet (policy : Policy) (keys : List Key) (selection : BinSelection)
  | batchContains (policy : Policy) (keys : List Key)
  | scanAll (policy : ScanPolicy) (ns setName : String)
  | scanNode (policy : ScanPolicy) (node ns setName : String)

end RecordGate
