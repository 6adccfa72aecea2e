import RecordGate.Store.Apply
import RecordGate.Store.Node
import RecordGate.Host

/-!
# The cluster

Records are spread over a fixed row of nodes by the first octet of their digest. Every command is
accepted first: it is counted, its policy is noted, and a closed connection or the oldest queued fault
turns it away. What is left of a command is a look-up, or a change of the one entry of its key.
-/

namespace RecordGate
set_option autoImplicit false

/-- The policy of a command, by the kind of command. -/
inductive CommandPolicy where
  | read (policy : Policy)
  | write (policy : WritePolicy)
  | scan (policy : ScanPolicy)
  deriving DecidableEq

structure Cluster where
  nodes : List Node
  nodes_ne_nil : nodes ≠ []
  connected : Bool := true
  /-- The largest size of a stored record. -/
  recordLimit : Nat := 1024 * 1024
  /-- Failures of the next commands, the oldest first. -/
  faults : List ClientError := []
  /-- The policy of the latest command. -/
  lastPolicy : Option CommandPolicy := none
  /-- Number of commands so far. -/
  calls : Nat := 0

namespace Cluster

/-- A connected cluster without records; there is at least one node. -/
def ofSize (n : Nat) (recordLimit : Nat) : Cluster where
  nodes := (List.range (max n 1)).map Node.numbered
  nodes_ne_nil := by
    rw [ne_eq, List.map_eq_nil_iff, List.range_eq_nil]
    omega
  recordLimit := recordLimit

instance : Inhabited Cluster := ⟨ofSize 3 (1024 * 1024)⟩

def nodeNames (c : Cluster) : List String := c.nodes.map (·.name)

/-- Number of stored records, expired ones included. -/
def recordCount (c : Cluster) : Nat := total (c.nodes.map (·.records.size))

/-! ## Records by identity -/

/-- The place of the node that holds a digest. -/
def home (c : Cluster) (d : Digest) : Nat := d.first.toNat % c.nodes.length

theorem home_lt (c : Cluster) (d : Digest) : c.home d < c.nodes.length :=
  Nat.mod_lt _ (List.length_pos_iff.2 c.nodes_ne_nil)

/-- The node that holds a digest. -/
def nodeOf (c : Cluster) (d : Digest) : Node := c.nodes.get ⟨c.home d, c.home_lt d⟩

/-- Change the node that holds a digest. -/
def updateNode (c : Cluster) (d : Digest) (f : Node → Node) : Cluster where
  nodes := c.nodes.modify (c.home d) f
  nodes_ne_nil := by
    rw [← List.length_pos_iff, List.length_modify, List.length_pos_iff]
    exact c.nodes_ne_nil
  connected := c.connected
  recordLimit := c.recordLimit
  faults := c.faults
  lastPolicy := c.lastPolicy
  calls := c.calls

def find? (c : Cluster) (id : RecordId) : Option StoredRecord := (c.nodeOf id.digest).find? id

def put (c : Cluster) (id : RecordId) (r : StoredRecord) : Cluster :=
  c.updateNode id.digest (·.put id r)

def erase (c : Cluster) (id : RecordId) : Cluster := c.updateNode id.digest (·.erase id)

/-- The record of an identity, unless it has expired. -/
def live? (c : Cluster) (now : UInt32) (id : RecordId) : Option StoredRecord :=
  (c.find? id).filter fun r => !r.expiredAt now

/-- Whether a record is stored under a key; time tells whether it is live. -/
def holds (c : Cluster) (key : Key) : Bool := (c.find? key.id).isSome

/-! ## Connection and faults -/

def setConnected (c : Cluster) (connected : Bool) : Cluster := { c with connected }

/-- Release the connection; every client of the cluster loses it. -/
def close (c : Cluster) : Cluster := c.setConnected false

/-- Queue a failure for a later command. -/
def failNext (c : Cluster) (e : ClientError) : Cluster := { c with faults := c.faults ++ [e] }

/-- Make a record fail its integrity check. Tells whether there is one, expired or not. -/
def corrupt (c : Cluster) (key : Key) : Bool × Cluster :=
  match c.find? key.id with
  | some r => (true, c.put key.id { r with corrupted := true })
  | none => (false, c)

/-- Count a command and turn it away, or not. -/
def accept (c : Cluster) (policy : CommandPolicy) : Reply Unit × Cluster :=
  let c := { c with calls := c.calls + 1, lastPolicy := some policy }
  if c.connected then
    match c.faults with
    | [] => (.ok (), c)
    | e :: rest => (.error e, { c with faults := rest })
  else (.error Refusal.notConnected.toError, c)

/-- Run the body of a command that was accepted. -/
def serve {α : Type} (c : Cluster) (policy : CommandPolicy)
    (body : Cluster → Except Refusal α × Cluster) : Reply α × Cluster :=
  match c.accept policy with
  | (.error e, c) => (.error e, c)
  | (.ok (), c) =>
    match body c with
    | (.ok a, c) => (.ok a, c)
    | (.error r, c) => (.error r.toError, c)

/-! ## Commands -/

/-- The record of a key as a reader sees it; a record that is corrupted cannot be read. -/
def readLive (c : Cluster) (now : UInt32) (key : Key) (selection : BinSelection) :
    Except Refusal (Option Record) :=
  match c.live? now key.id with
  | none => .ok none
  | some r => if r.corrupted then .error (.corrupted key) else .ok (some (r.view selection))

/-- Whether a key has a live record. -/
def isLive (c : Cluster) (now : UInt32) (key : Key) : Bool := (c.live? now key.id).isSome

def get (c : Cluster) (now : UInt32) (policy : Policy) (key : Key) (selection : BinSelection) :
    Reply (Option Record) × Cluster :=
  c.serve (.read policy) fun c => (c.readLive now key selection, c)

def contains (c : Cluster) (now : UInt32) (policy : Policy) (key : Key) : Reply Bool × Cluster :=
  c.serve (.read policy) fun c => (.ok (c.isLive now key), c)

/-- Remove a record. Of the generation checks only equality is made; a record that has expired is
removed and not reported. -/
def delete (c : Cluster) (now : UInt32) (policy : WritePolicy) (key : Key) : Reply Bool × Cluster :=
  c.serve (.write policy) fun c =>
    match c.find? key.id with
    | none => (.ok false, c)
    | some r =>
      if r.expiredAt now then (.ok false, c.erase key.id)
      else if policy.generationCheck = .equal ∧ r.generation ≠ policy.generation then
        (.error (.generationMismatch policy.generation r.generation), c)
      else (.ok true, c.erase key.id)

/-- Write, then read. A record that is corrupted can be written and not merely read. -/
def operate (c : Cluster) (now : UInt32) (policy : WritePolicy) (key : Key) (ops : List Operation) :
    Reply Record × Cluster :=
  c.serve (.write policy) fun c =>
    let existing := c.live? now key.id
    if existing.any (·.corrupted) && !ops.any Operation.isWrite then (.error (.corrupted key), c)
    else
      match execute existing (key.setName.getD "") policy ops c.recordLimit now with
      | .error r => (.error r, c)
      | .ok outcome =>
        (.ok outcome.record,
          match outcome.state with
          | some r => c.put key.id r
          | none => c)

/-- Whether operations on a key ask for the time. -/
def operateAsksTime (c : Cluster) (policy : WritePolicy) (key : Key) (ops : List Operation) : Bool :=
  c.holds key || asksTime none policy ops

/-- Read many records; each has an answer of its own. -/
def batchGet (c : Cluster) (now : UInt32) (policy : Policy) (keys : List Key)
    (selection : BinSelection) : Reply (List (Reply (Option Record))) × Cluster :=
  c.serve (.read policy) fun c =>
    (.ok (keys.map fun key => (c.readLive now key selection).mapError Refusal.toError), c)

def batchContains (c : Cluster) (now : UInt32) (policy : Policy) (keys : List Key) :
    Reply (List Bool) × Cluster :=
  c.serve (.read policy) fun c => (.ok (keys.map (c.isLive now)), c)

/-- Reach the cluster through the first of the hosts that is a seed, and connect. -/
def connect (c : Cluster) (seeds hosts : List Host) : Except Refusal Host × Cluster :=
  if hosts.isEmpty then (.error .noSeeds, c)
  else
    match hosts.find? (seeds.contains ·) with
    | some host => (.ok host, c.setConnected true)
    | none => (.error .noSeedReachable, c)

end Cluster

end RecordGate
