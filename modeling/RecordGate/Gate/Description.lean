import RecordGate.Gate
import RecordGate.Text.Literal

/-!
# The description of a gate

The text tells the known hosts and whether the gate is connected.
-/

namespace RecordGate
set_option autoImplicit false

/-- A host with its fields named. -/
def Host.description (h : Host) : String :=
  s!"Host \x7b name: {Text.literal h.name}, port: {h.port} \x7d"

/-- A gate with its fields named. -/
def Gate.description {σ : Type} (env : Surroundings σ) (gate : Gate) (s : σ) : String :=
  let hosts := ", ".intercalate (gate.hosts.map Host.description)
  s!"CompatClient \x7b hosts: [{hosts}], connected: {gate.isConnected env s} \x7d"

end RecordGate
