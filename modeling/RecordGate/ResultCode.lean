import RecordGate.Failure

/-!
# Result codes

The codes that callers of the gate see. Every failure code of a client has one of them, and a number
without a name counts as a server failure.
-/

namespace RecordGate
set_option autoImplicit false

/-- The outcome of a call. -/
inductive ResultCode where
  | ok
  /-- No call has filled the result in. -/
  | notSet
  | serverError
  | timeout
  /-- A failure inside the client. -/
  | clientError
  | keyNotFound
  | generationMismatch
  | parameterError
  | keyExists
  | binExists
  | serializeError
  | clusterKeyMismatch
  | serverMemError
  | featureUnavailable
  /-- No server could be reached, or it was overloaded. -/
  | serverNotAvailable
  | binTypeError
  | recordTooBig
  | keyBusy
  deriving DecidableEq

namespace ResultCode

instance : Inhabited ResultCode := ⟨notSet⟩

def all : List ResultCode := [ok, notSet, serverError, timeout, clientError, keyNotFound,
  generationMismatch, parameterError, keyExists, binExists, serializeError, clusterKeyMismatch,
  serverMemError, featureUnavailable, serverNotAvailable, binTypeError, recordTooBig, keyBusy]

def name : ResultCode → String
  | ok => "Ok"
  | notSet => "NotSet"
  | serverError => "ServerError"
  | timeout => "Timeout"
  | clientError => "ClientError"
  | keyNotFound => "KeyNotFound"
  | generationMismatch => "GenerationMismatch"
  | parameterError => "ParameterError"
  | keyExists => "KeyExists"
  | binExists => "BinExists"
  | serializeError => "SerializeError"
  | clusterKeyMismatch => "ClusterKeyMismatch"
  | serverMemError => "ServerMemError"
  | featureUnavailable => "FeatureUnavailable"
  | serverNotAvailable => "ServerNotAvailable"
  | binTypeError => "BinTypeError"
  | recordTooBig => "RecordTooBig"
  | keyBusy => "KeyBusy"

/-- The code of a name. -/
def ofName? (name : String) : Option ResultCode := all.find? fun c => c.name == name

def isOk (c : ResultCode) : Bool := c == ok

/-- What callers see of a named failure code. -/
def ofNative : NativeCode → ResultCode
  | .invalidNode | .parseError => clientError
  | .serializeError => serializeError
  | .serverNotAvailable | .deviceOverload => serverNotAvailable
  | .ok => ok
  | .serverError => serverError
  | .keyNotFound => keyNotFound
  | .generationError => generationMismatch
  | .parameterError => parameterError
  | .keyExists => keyExists
  | .binExists => binExists
  | .clusterKeyMismatch => clusterKeyMismatch
  | .serverMemError => serverMemError
  | .timeout => timeout
  | .noXdr => featureUnavailable
  | .binTypeError => binTypeError
  | .recordTooBig => recordTooBig
  | .keyBusy => keyBusy

/-- What callers see of a failure code; one without a name is a server failure. -/
def ofCode (code : Int32) : ResultCode :=
  match NativeCode.ofCode? code with
  | some c => ofNative c
  | none => serverError

end ResultCode

end RecordGate
