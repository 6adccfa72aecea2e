import RecordGate.Failure
import RecordGate.Key

/-!
# Why the store refuses a command

Each cause has its failure code and its wording.
-/

namespace RecordGate
set_option autoImplicit false

/-- A reason to refuse a command. -/
inductive Refusal where
  | recordExists
  | recordMissing
  | touchMissing
  | generationMismatch (expected stored : UInt32)
  /-- Only text and octets can be put before or behind a bin. -/
  | notJoinable (operand : String)
  /-- Only numbers can be added. -/
  | notAddable (operand : String)
  /-- A bin of one type and an operand of another. -/
  | typeMismatch (bin held operand : String)
  | tooBig (size limit : Nat)
  | corrupted (key : Key)
  | notConnected
  | unknownNode (name : String)
  /-- A thread of a scan came to grief. -/
  | workerCrashed
  | noSeeds
  | noSeedReachable
  deriving DecidableEq

namespace Refusal

def code : Refusal → NativeCode
  | recordExists => .keyExists
  | recordMissing => .keyNotFound
  | touchMissing => .keyNotFound
  | generationMismatch .. => .generationError
  | notJoinable _ => .parameterError
  | notAddable _ => .parameterError
  | typeMismatch .. => .binTypeError
  | tooBig .. => .recordTooBig
  | corrupted _ => .parseError
  | notConnected => .serverNotAvailable
  | unknownNode _ => .invalidNode
  | workerCrashed => .serverError
  | noSeeds => .parameterError
  | noSeedReachable => .invalidNode

def message : Refusal → String
  | recordExists => "record already exists"
  | recordMissing => "record does not exist"
  | touchMissing => "cannot touch a missing record"
  | generationMismatch expected stored => s!"generation mismatch: expected {expected}, stored {stored}"
  | notJoinable operand => s!"cannot append {operand} value"
  | notAddable operand => s!"cannot add {operand} value"
  | typeMismatch bin held operand => s!"bin '{bin}' holds {held}, operand is {operand}"
  | tooBig size limit => s!"record size {size} exceeds limit {limit}"
  | corrupted key => s!"record {key} failed integrity check"
  | notConnected => "client is not connected"
  | unknownNode name => s!"unknown node {name}"
  | workerCrashed => "scan worker panicked"
  | noSeeds => "no seed hosts given"
  | noSeedReachable => "no seed host reachable"

/-- The failure that a client reports. -/
def toError (r : Refusal) : ClientError := ClientError.ofNative r.code r.message

end Refusal

end RecordGate
