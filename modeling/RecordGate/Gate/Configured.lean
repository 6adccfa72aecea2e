import RecordGate.Config
import RecordGate.Gate

/-!
# Gates from configurations
-/

namespace RecordGate.Gate
set_option autoImplicit false

/-- A gate to the hosts of a configuration. Its log level is in force from then on, also when a host
entry turns out to be none and there is no gate. -/
def ofConfig {σ : Type} (env : Surroundings σ) (config : Config) :
    StateM σ (Except GateError Gate) := do
  env.setLogLevel config.logLevel
  match config.seedHosts with
  | .ok hosts => .ok <$> connect env hosts
  | .error problem => return .error (.config problem)

end RecordGate.Gate
