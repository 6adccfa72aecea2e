import RecordGate.Policy

/-!
# Options of a call

The plain values that callers hand to a call: a timeout with a retry mode, conditions on a write, and
the way a scan runs. Each has builder functions that set one thing.
-/

namespace RecordGate
set_option autoImplicit false

/-- The timeout of a call without one of its own, in milliseconds. -/
def defaultTimeout : UInt32 := 5000

inductive RetryMode where
  /-- Try again within the timeout. -/
  | retry
  /-- A single attempt. -/
  | oneShot
  deriving DecidableEq, Inhabited

/-- Timeout and retry mode of one call. -/
structure TransactionOptions where
  /-- Milliseconds, zero for no timeout. -/
  timeout : UInt32 := defaultTimeout
  retryMode : RetryMode := .retry
  deriving DecidableEq, Inhabited

namespace TransactionOptions

def withTimeout (o : TransactionOptions) (ms : UInt32) : TransactionOptions :=
  { o with timeout := ms }

def withRetryMode (o : TransactionOptions) (mode : RetryMode) : TransactionOptions :=
  { o with retryMode := mode }

def oneShot (o : TransactionOptions) : TransactionOptions := o.withRetryMode .oneShot

end TransactionOptions

/-- What a write expects of the stored generation, from the strongest mode to the weakest. -/
inductive GenerationMode where
  | expectEqual (generation : UInt32)
  | expectAtLeast (generation : UInt32)
  /-- Where the generation differs, keep both versions. -/
  | keepDuplicate (generation : UInt32)
  | unchecked
  deriving DecidableEq

namespace GenerationMode

instance : Inhabited GenerationMode := ⟨unchecked⟩

/-- The strength of a mode. -/
def precedence : GenerationMode → Nat
  | expectEqual _ => 3
  | expectAtLeast _ => 2
  | keepDuplicate _ => 1
  | unchecked => 0

def name : GenerationMode → String
  | expectEqual _ => "ExpectEqual"
  | expectAtLeast _ => "ExpectGreaterOrEqual"
  | keepDuplicate _ => "OnMismatchKeepDuplicate"
  | unchecked => "None"

def generation? : GenerationMode → Option UInt32
  | expectEqual g | expectAtLeast g | keepDuplicate g => some g
  | unchecked => none

/-- The same mode with another generation. -/
def withGeneration (generation : UInt32) : GenerationMode → GenerationMode
  | expectEqual _ => expectEqual generation
  | expectAtLeast _ => expectAtLeast generation
  | keepDuplicate _ => keepDuplicate generation
  | unchecked => unchecked

/-- Ask for a mode on top of another. The stronger mode stays; the generation is the one asked for
last, whichever mode named it. -/
def request (current asked : GenerationMode) : GenerationMode :=
  if current.precedence ≤ asked.precedence then asked
  else match asked.generation? with
    | some g => current.withGeneration g
    | none => current

end GenerationMode

/-- Conditions on one write. -/
structure WriteOptions where
  /-- Seconds to live, zero for ever. -/
  expiration : UInt32 := 0
  /-- Fail if the record exists. -/
  uniqueOnly : Bool := false
  generationMode : GenerationMode := .unchecked
  deriving DecidableEq, Inhabited

namespace WriteOptions

def withExpiration (o : WriteOptions) (seconds : UInt32) : WriteOptions :=
  { o with expiration := seconds }

def unique (o : WriteOptions) : WriteOptions := { o with uniqueOnly := true }

/-- Ask for a generation mode on top of those asked for before. -/
def requestMode (o : WriteOptions) (mode : GenerationMode) : WriteOptions :=
  { o with generationMode := o.generationMode.request mode }

def expectGeneration (o : WriteOptions) (g : UInt32) : WriteOptions := o.requestMode (.expectEqual g)

def expectAtLeast (o : WriteOptions) (g : UInt32) : WriteOptions := o.requestMode (.expectAtLeast g)

def keepDuplicate (o : WriteOptions) (g : UInt32) : WriteOptions := o.requestMode (.keepDuplicate g)

/-- Drop any generation mode. -/
def clearMode (o : WriteOptions) : WriteOptions := { o with generationMode := .unchecked }

/-- A builder call. -/
inductive Setting where
  | expiration (seconds : UInt32)
  | unique
  | expectGeneration (g : UInt32)
  | expectAtLeast (g : UInt32)
  | keepDuplicate (g : UInt32)
  | mode (mode : GenerationMode)
  | clear
  deriving DecidableEq

def set (o : WriteOptions) : Setting → WriteOptions
  | .expiration seconds => o.withExpiration seconds
  | .unique => o.unique
  | .expectGeneration g => o.expectGeneration g
  | .expectAtLeast g => o.expectAtLeast g
  | .keepDuplicate g => o.keepDuplicate g
  | .mode mode => o.requestMode mode
  | .clear => o.clearMode

/-- The options that builder calls make, in order, from the default. -/
def ofSettings (settings : List Setting) : WriteOptions := settings.foldl set {}

end WriteOptions

/-- How a scan runs. -/
structure ScanOptions where
  /-- Scan all nodes at once. -/
  concurrent : Bool := true
  /-- Advised number of threads for each node. -/
  threads : UInt32 := 1
  priority : Priority := .automatic
  /-- Give up when a node joins or leaves during the scan. -/
  failOnChange : Bool := false
  /-- Deliver bins; otherwise digests and what the store knows about the record. -/
  includeBins : Bool := true
  deriving DecidableEq, Inhabited

namespace ScanOptions

/-- A builder call. -/
inductive Setting where
  | sequential
  | threads (n : UInt32)
  | priority (p : Priority)
  | failOnChange
  | digestsOnly
  deriving DecidableEq

def set (o : ScanOptions) : Setting → ScanOptions
  | .sequential => { o with concurrent := false }
  | .threads n => { o with threads := n }
  | .priority p => { o with priority := p }
  | .failOnChange => { o with failOnChange := true }
  | .digestsOnly => { o with includeBins := false }

/-- The options that builder calls make, in order, from the default. -/
def ofSettings (settings : List Setting) : ScanOptions := settings.foldl set {}

end ScanOptions

end RecordGate
