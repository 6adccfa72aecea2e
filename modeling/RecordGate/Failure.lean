/-!
# Failures of a record client

A client reports a failure as a number and a text. Some numbers have a name; the others are passed
on unchanged.
-/

namespace RecordGate
set_option autoImplicit false

/-- The failure codes that have a name. Negative codes come from the client, others from a server. -/
inductive NativeCode where
  | serializeError
  | serverNotAvailable
  | invalidNode
  | parseError
  | ok
  | serverError
  | keyNotFound
  | generationError
  | parameterError
  | keyExists
  | binExists
  | clusterKeyMismatch
  | serverMemError
  | timeout
  | noXdr
  | deviceOverload
  | binTypeError
  | recordTooBig
  | keyBusy
  deriving DecidableEq, Inhabited

namespace NativeCode

/-- The number of a code. -/
def code : NativeCode → Int32
  | serializeError => -10
  | serverNotAvailable => -8
  | invalidNode => -3
  | parseError => -2
  | ok => 0
  | serverError => 1
  | keyNotFound => 2
  | generationError => 3
  | parameterError => 4
  | keyExists => 5
  | binExists => 6
  | clusterKeyMismatch => 7
  | serverMemError => 8
  | timeout => 9
  | noXdr => 10
  | deviceOverload => 11
  | binTypeError => 12
  | recordTooBig => 13
  | keyBusy => 14

/-- Every named code, by ascending number. -/
def all : List NativeCode := [serializeError, serverNotAvailable, invalidNode, parseError, ok,
  serverError, keyNotFound, generationError, parameterError, keyExists, binExists,
  clusterKeyMismatch, serverMemError, timeout, noXdr, deviceOverload, binTypeError, recordTooBig,
  keyBusy]

/-- The named code of a number. -/
def ofCode? (code : Int32) : Option NativeCode := all.find? fun c => c.code == code

def name : NativeCode → String
  | serializeError => "SerializeError"
  | serverNotAvailable => "ServerNotAvailable"
  | invalidNode => "InvalidNode"
  | parseError => "ParseError"
  | ok => "Ok"
  | serverError => "ServerError"
  | keyNotFound => "KeyNotFound"
  | generationError => "GenerationError"
  | parameterError => "ParameterError"
  | keyExists => "KeyExists"
  | binExists => "BinExists"
  | clusterKeyMismatch => "ClusterKeyMismatch"
  | serverMemError => "ServerMemError"
  | timeout => "Timeout"
  | noXdr => "NoXdr"
  | deviceOverload => "DeviceOverload"
  | binTypeError => "BinTypeError"
  | recordTooBig => "RecordTooBig"
  | keyBusy => "KeyBusy"

theorem mem_all (c : NativeCode) : c ∈ all := by cases c <;> decide

theorem ofCode?_code (c : NativeCode) : ofCode? c.code = some c := by cases c <;> decide

end NativeCode

/-- A failure that a client reports. -/
structure ClientError where
  code : Int32
  message : String
  deriving DecidableEq, Inhabited

namespace ClientError

/-- A failure with a named code. -/
def ofNative (code : NativeCode) (message : String) : ClientError := ⟨code.code, message⟩

/-- The name of a failure's code, if it has one. -/
def native? (e : ClientError) : Option NativeCode := NativeCode.ofCode? e.code

def display (e : ClientError) : String := s!"client error {e.code}: {e.message}"

end ClientError

/-- What a client answers to a command. -/
abbrev Reply (α : Type) := Except ClientError α

end RecordGate
