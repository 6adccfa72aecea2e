/-!
# Hosts
-/

namespace RecordGate
set_option autoImplicit false

/-- A seed host. -/
structure Host where
  name : String
  port : UInt16
  deriving DecidableEq, Inhabited

namespace Host

def display (h : Host) : String := s!"{h.name}:{h.port}"

instance : ToString Host := ⟨display⟩

end Host

end RecordGate
