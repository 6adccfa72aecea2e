import RecordGate.Log.Event

/-!
# Where log lines go

The router holds the threshold and at most one callback. A line that the threshold admits is delivered
once, to the callback if there is one and else to the standard sink; every other line is dropped.
Callbacks are of any type `κ`.
-/

namespace RecordGate
set_option autoImplicit false

universe u

structure LogRouter (κ : Type u) where
  level : LogLevel := .info
  callback : Option κ := none

/-- A line on its way: to a callback, or without one to the standard sink. -/
structure LogDelivery (κ : Type u) where
  callback : Option κ
  level : LogLevel
  line : String

namespace LogRouter

variable {κ : Type u}

def setLevel (r : LogRouter κ) (level : LogLevel) : LogRouter κ := { r with level }

def setCallback (r : LogRouter κ) (callback : κ) : LogRouter κ := { r with callback := some callback }

/-- Send lines to the standard sink again. -/
def clearCallback (r : LogRouter κ) : LogRouter κ := { r with callback := none }

/-- Set threshold and callback together. -/
def configure (_ : LogRouter κ) (level : LogLevel) (callback : Option κ) : LogRouter κ :=
  { level, callback }

/-- Whether a line at a level would be delivered. -/
def enabled (r : LogRouter κ) (level : LogLevel) : Bool := level ≤ r.level

/-- Deliver a line, if the threshold admits its level. -/
def emit (r : LogRouter κ) (level : LogLevel) (line : String) : Option (LogDelivery κ) :=
  if r.enabled level then some { callback := r.callback, level, line } else none

/-- Deliver the line of an event, which is put together only where the threshold admits its level. -/
def event (r : LogRouter κ) (e : LogEvent) : Option (LogDelivery κ) :=
  if r.enabled e.level then r.emit e.level e.line else none

theorem enabled_iff {r : LogRouter κ} {level : LogLevel} : r.enabled level = true ↔ level ≤ r.level := by
  simp [enabled]

/-- A step of a program that logs. -/
inductive Step (κ : Type u) where
  | configure (level : LogLevel) (callback : Option κ)
  | setLevel (level : LogLevel)
  | setCallback (callback : κ)
  | clearCallback
  | emit (level : LogLevel) (line : String)
  | event (e : LogEvent)

/-- The router after a step. -/
def after (r : LogRouter κ) : Step κ → LogRouter κ
  | .configure level callback => r.configure level callback
  | .setLevel level => r.setLevel level
  | .setCallback callback => r.setCallback callback
  | .clearCallback => r.clearCallback
  | .emit .. | .event _ => r

/-- What a step delivers. -/
def delivers (r : LogRouter κ) : Step κ → Option (LogDelivery κ)
  | .emit level line => r.emit level line
  | .event e => r.event e
  | .configure .. | .setLevel _ | .setCallback _ | .clearCallback => none

/-- Everything that a sequence of steps delivers, in order. -/
def run : LogRouter κ → List (Step κ) → List (LogDelivery κ)
  | _, [] => []
  | r, s :: rest => (r.delivers s).toList ++ (r.after s).run rest

end LogRouter

end RecordGate
