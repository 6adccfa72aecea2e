/-!
# Policies

What a record client is told beside a command: how long to try, which checks guard a write, and how
a scan runs. Durations are in milliseconds.
-/

namespace RecordGate
set_option autoImplicit false

/-- Timeout and retries of any command. -/
structure Policy where
  /-- Zero for no timeout. -/
  timeout : Nat := 0
  /-- Attempts after the first one. -/
  retries : UInt32 := 2
  /-- Pause between attempts. -/
  sleep : Nat := 500
  deriving DecidableEq, Inhabited

/-- How a write treats a record that exists, or does not. -/
inductive ExistencePolicy where
  /-- Create the record, or merge the written bins into it. -/
  | update
  /-- Merge the written bins into the record, which must exist. -/
  | updateOnly
  /-- Create the record, or replace its bins. -/
  | replace
  /-- Replace the bins of the record, which must exist. -/
  | replaceOnly
  /-- Create the record, which must not exist. -/
  | createOnly
  deriving DecidableEq, Inhabited

/-- What a write expects of the stored generation. -/
inductive GenerationPolicy where
  | unchecked
  | equal
  | atLeast
  /-- Equal; otherwise the write is kept as a version of its own. -/
  | duplicateUnlessEqual
  deriving DecidableEq, Inhabited

/-- The policy of a command that writes. -/
structure WritePolicy where
  base : Policy := {}
  existence : ExistencePolicy := .update
  generationCheck : GenerationPolicy := .unchecked
  /-- The generation that the check compares with. -/
  generation : UInt32 := 0
  /-- Seconds to live, zero for ever. -/
  expiration : UInt32 := 0
  deriving DecidableEq, Inhabited

/-- How urgent a scan is to the servers. -/
inductive Priority where
  /-- The servers decide. -/
  | automatic
  | low
  | medium
  | high
  deriving DecidableEq, Inhabited

/-- The policy of a scan. -/
structure ScanPolicy where
  base : Policy := {}
  /-- Scan all nodes at once. -/
  concurrent : Bool := true
  /-- Advised number of threads for each node. -/
  threads : UInt32 := 1
  priority : Priority := .automatic
  /-- Give up when a node joins or leaves during the scan. -/
  failOnChange : Bool := false
  /-- Deliver bins; otherwise digests and what the store knows about the record. -/
  includeBins : Bool := true
  deriving DecidableEq, Inhabited

end RecordGate
