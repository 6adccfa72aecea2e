import RecordGate.Log.Level

/-!
# Log events

An event has a severity, a message and fields. Its line is the message followed by ` name=value` for
each other field in order.
-/

namespace RecordGate
set_option autoImplicit false

/-- The severity of an event; traces are below all levels of the log. -/
inductive Severity where
  | error
  | warn
  | info
  | debug
  | trace
  deriving DecidableEq, Inhabited

/-- The level at which an event is logged. -/
def Severity.level : Severity → LogLevel
  | error => .error
  | warn => .warn
  | info => .info
  | debug | trace => .debug

/-- The value of an event's field. -/
inductive FieldValue where
  | text (s : String)
  | number (n : Int)
  | flag (b : Bool)
  | numbers (ns : List Int)
  deriving DecidableEq

/-- Lists stand in brackets. -/
def FieldValue.display : FieldValue → String
  | text s => s
  | number n => toString n
  | flag b => if b then "true" else "false"
  | numbers ns => "[" ++ ", ".intercalate (ns.map toString) ++ "]"

structure LogEvent where
  severity : Severity
  message : String
  fields : List (String × FieldValue) := []
  deriving DecidableEq

/-- What is collected of the fields of an event. -/
structure LineParts where
  message : String := ""
  /-- The texts of the fields other than the message. -/
  fields : String := ""

namespace LineParts

/-- The text of one field in a line. -/
def fieldText (field : String × FieldValue) : String := s!" {field.1}={field.2.display}"

/-- Whether a field is the message of its event. -/
def isMessage (field : String × FieldValue) : Bool := field.1 == "message"

/-- Collect a field. -/
def record (parts : LineParts) (field : String × FieldValue) : LineParts :=
  if isMessage field then { parts with message := parts.message ++ field.2.display }
  else { parts with fields := parts.fields ++ fieldText field }

/-- The line of what was collected. -/
def finish (parts : LineParts) : String := parts.message ++ parts.fields

end LineParts

namespace LogEvent

def level (e : LogEvent) : LogLevel := e.severity.level

/-- The fields as they are recorded, the message first. -/
def recorded (e : LogEvent) : List (String × FieldValue) := ("message", .text e.message) :: e.fields

/-- The line of an event. -/
def line (e : LogEvent) : String := (e.recorded.foldl LineParts.record {}).finish

end LogEvent

end RecordGate
