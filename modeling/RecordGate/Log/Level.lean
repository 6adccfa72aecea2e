/-!
# Log levels

Levels are ordered by severity, the most severe first. A threshold admits its own level and every more
severe one.
-/

namespace RecordGate
set_option autoImplicit false

inductive LogLevel where
  | error
  | warn
  | info
  | debug
  deriving DecidableEq

namespace LogLevel

instance : Inhabited LogLevel := ⟨info⟩

def all : List LogLevel := [error, warn, info, debug]

/-- The place of a level, from the most severe. -/
def rank : LogLevel → Nat
  | error => 0
  | warn => 1
  | info => 2
  | debug => 3

instance : LE LogLevel := ⟨fun a b => a.rank ≤ b.rank⟩

instance : DecidableLE LogLevel := fun a b => inferInstanceAs (Decidable (a.rank ≤ b.rank))

/-- The name of a level in a log line. -/
def display : LogLevel → String
  | error => "ERROR"
  | warn => "WARN"
  | info => "INFO"
  | debug => "DEBUG"

instance : ToString LogLevel := ⟨display⟩

/-- Read the name of a level, in letters of either case. A warning may be spelled out, and `trace`
counts as `debug`. -/
def parse? (text : String) : Option LogLevel :=
  match String.ofList (text.toList.map Char.toLower) with
  | "error" => some error
  | "warn" | "warning" => some warn
  | "info" => some info
  | "debug" | "trace" => some debug
  | _ => none

/-- What is said of a name that is not a level's. -/
def unknownMessage (text : String) : String := s!"unknown log level: {text}"

end LogLevel

end RecordGate
