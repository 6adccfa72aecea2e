/-!
# Programs on a state

A program acts on a state and answers, or it crashes. A crash keeps what was done to the state before.
-/

namespace RecordGate
set_option autoImplicit false

/-- Acts on a state; `failure` is a crash. -/
abbrev Program (σ : Type) := OptionT (StateM σ)

end RecordGate
