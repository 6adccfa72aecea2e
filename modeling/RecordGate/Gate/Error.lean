import RecordGate.Key
import RecordGate.ResultCode

/-!
# Inputs that the gate rejects

Failures of a client become result codes. Only an input that no command can be made of, or a
configuration that cannot be used, is an error.
-/

namespace RecordGate
set_option autoImplicit false

/-- What is wrong with a configuration. -/
inductive ConfigProblem where
  /-- The file could not be read. -/
  | unreadable (path cause : String)
  /-- The file could not be written. -/
  | unwritable (path cause : String)
  /-- The text is no configuration. -/
  | malformed
  | invalidPort (entry : String)
  /-- A bracket that is not closed. -/
  | openBracket (entry : String)
  /-- An address with several colons outside brackets. -/
  | bareAddress (entry : String)
  | emptyName (entry : String)
  /-- A problem given in words. -/
  | stated (text : String)
  deriving DecidableEq

def ConfigProblem.message : ConfigProblem → String
  | unreadable path cause => s!"failed to read '{path}': {cause}"
  | unwritable path cause => s!"failed to write '{path}': {cause}"
  | malformed => "failed to parse config"
  | invalidPort entry => s!"invalid port in host '{entry}'"
  | openBracket entry => s!"unclosed '[' in host '{entry}'"
  | bareAddress entry => s!"IPv6 host '{entry}' must be written as [address]:port"
  | emptyName entry => s!"empty host name in '{entry}'"
  | stated text => text

/-- An input that the gate rejects. -/
inductive GateError where
  /-- A collection that must be given was not. -/
  | missingParameter (name : String)
  | invalidKey (problem : KeyProblem)
  | config (problem : ConfigProblem)
  deriving DecidableEq

namespace GateError

def message : GateError → String
  | missingParameter name => s!"missing parameter: {name}"
  | invalidKey problem => s!"invalid key: {problem.message}"
  | config problem => s!"config error: {problem.message}"

/-- The result code of a rejected input. -/
def resultCode : GateError → ResultCode
  | missingParameter _ | invalidKey _ | config _ => .parameterError

end GateError

end RecordGate
