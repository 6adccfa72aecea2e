import RecordGate.CallResult
import RecordGate.Host
import RecordGate.Key
import RecordGate.Log.Event

/-!
# Events of the gate and of the cluster

Every event that calls leave in the log, with its fields in the order in which they are written.
-/

namespace RecordGate.LogEvent
set_option autoImplicit false

/-- The field of a count. -/
def count (name : String) (n : Nat) : String × FieldValue := (name, .number n)

def text (name value : String) : String × FieldValue := (name, .text value)

def code (name : String) (c : Int32) : String × FieldValue := (name, .number c.toInt)

/-! ## Connection -/

def seedReached (seed : Host) : LogEvent :=
  { severity := .info, message := "connected to cluster", fields := [text "seed" seed.display] }

def noSeedReachable (hosts : Nat) : LogEvent :=
  { severity := .debug, message := "no reachable seed host", fields := [count "hosts" hosts] }

def connectionEstablished (hosts : Nat) : LogEvent :=
  { severity := .info, message := "cluster connection established", fields := [count "hosts" hosts] }

def clusterUnreachable (e : ClientError) : LogEvent :=
  { severity := .warn, message := "cluster unreachable, client not connected"
    fields := [code "native" e.code, text "error" e.message] }

def connectionClosed : LogEvent := { severity := .info, message := "cluster connection closed" }

/-! ## Calls -/

def writing (key : Key) (ops : Nat) : LogEvent :=
  { severity := .debug, message := "write", fields := [text "key" key.display, count "ops" ops] }

def adding (key : Key) : LogEvent :=
  { severity := .debug, message := "add and get", fields := [text "key" key.display] }

def deleting (key : Key) : LogEvent :=
  { severity := .debug, message := "delete", fields := [text "key" key.display] }

def reading (key : Key) : LogEvent :=
  { severity := .debug, message := "read", fields := [text "key" key.display] }

def touching (key : Key) : LogEvent :=
  { severity := .debug, message := "get with touch", fields := [text "key" key.display] }

def operating (key : Key) (reads writes : Nat) : LogEvent :=
  { severity := .debug, message := "operate"
    fields := [text "key" key.display, count "reads" reads, count "writes" writes] }

def callFailed (e : ClientError) : LogEvent :=
  { severity := .debug, message := "client call failed"
    fields := [code "native" e.code, text "result" (ResultCode.ofCode e.code).name,
      text "error" e.message] }

/-! ## Batches and scans -/

def batchReading (keys : Nat) : LogEvent :=
  { severity := .debug, message := "batch get", fields := [count "keys" keys] }

def batchChecking (keys : Nat) : LogEvent :=
  { severity := .debug, message := "batch exists", fields := [count "keys" keys] }

def batchFailed (e : ClientError) (keys : Nat) : LogEvent :=
  { severity := .warn, message := "batch call failed"
    fields := [code "native" e.code, count "keys" keys] }

def scanStarted (ns setName : String) (nodes : Nat) (concurrent : Bool) : LogEvent :=
  { severity := .debug, message := "scan started"
    fields := [text "namespace" ns, text "set_name" setName, count "nodes" nodes,
      ("concurrent", .flag concurrent)] }

def nodeScanStarted (node ns setName : String) : LogEvent :=
  { severity := .debug, message := "node scan started"
    fields := [text "node" node, text "namespace" ns, text "set_name" setName] }

def scanComplete (s : ScanSummary) : LogEvent :=
  { severity := .debug, message := "scan complete"
    fields := [count "records" s.records, ("corrupted", .flag s.corrupted)] }

end RecordGate.LogEvent
