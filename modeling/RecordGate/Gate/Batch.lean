import RecordGate.Gate
import RecordGate.Gate.Address

/-!
# Batches

One command asks for many keys, and the results stand in the order of keys. A failure of one record
stays in its place; a failure of the command, or an answer of the wrong length, takes every place. A
batch without keys gives no command.
-/

namespace RecordGate
set_option autoImplicit false

namespace Batch

/-- An answer with a wrong number of entries. -/
def misaligned (expected got : Nat) : ClientError :=
  .ofNative .parseError s!"batch returned {got} results for {expected} keys"

variable {σ : Type} (env : Surroundings σ)

/-- A failure of the command, in every place. -/
def replicate (e : ClientError) (n : Nat) : StateM σ (List CallResult) := do
  env.note (.batchFailed e n)
  return List.replicate n (← Gate.settle env (fun r : CallResult => r) (.error e))

/-- The results of a batch's answer. -/
def results {α : Type} (n : Nat) (each : α → StateM σ CallResult) :
    Reply (List α) → StateM σ (List CallResult)
  | .ok answers =>
    if answers.length = n then answers.mapM each else replicate env (misaligned n answers.length) n
  | .error e => replicate env e n

/-- Read many records in one command. -/
def get (policy : Policy) (keys : List Key) (selection : BinSelection) :
    Program σ (List CallResult) := do
  if keys.isEmpty then return []
  env.note (.batchReading keys.length)
  results env keys.length (Gate.settle env CallResult.ofFoundRecord)
    (← env.client.batchGet policy keys selection)

/-- Ask in one command which records exist. -/
def contains (policy : Policy) (keys : List Key) : Program σ (List CallResult) := do
  if keys.isEmpty then return []
  env.note (.batchChecking keys.length)
  results env keys.length (fun found => return CallResult.ofPresence found)
    (← env.client.batchContains policy keys)

end Batch

namespace Gate

variable {σ : Type} (env : Surroundings σ)

/-- Run a batch, if the gate holds a client. -/
def batch (gate : Gate) (keys : List Key) (run : Program σ (List CallResult)) :
    Program σ (List CallResult) := do
  if gate.attached then run
  else return List.replicate keys.length (← settle env (fun r : CallResult => r) (.error notConnected))

/-- Which of the keys have records. -/
def batchContainsKeys (gate : Gate) (keys : List Key) (tx : Option TransactionOptions) :
    Program σ (List CallResult) :=
  gate.batch env keys (Batch.contains env (.ofOptions tx) keys)

/-- Read the named bins of many keys, or all bins without names. -/
def batchGetKeys (gate : Gate) (keys : List Key) (names : Option (List String))
    (tx : Option TransactionOptions) : Program σ (List CallResult) :=
  gate.batch env keys (Batch.get env (.ofOptions tx) keys (.ofNames names))

/-- Run a batch on keys that may have been rejected. -/
def onKeys (keys : Except GateError (List Key)) (run : List Key → Program σ (List CallResult)) :
    Program σ (Except GateError (List CallResult)) :=
  match keys with
  | .ok keys => .ok <$> run keys
  | .error e => return .error e

def batchContains (gate : Gate) (ns setName : String) (userKeys : Option (List Value))
    (tx : Option TransactionOptions) : Program σ (Except GateError (List CallResult)) :=
  onKeys (keysOf ns setName userKeys) fun keys => gate.batchContainsKeys env keys tx

def batchContainsDigests (gate : Gate) (ns : String) (digests : Option (List Digest))
    (tx : Option TransactionOptions) : Program σ (Except GateError (List CallResult)) :=
  onKeys (keysOfDigests ns digests) fun keys => gate.batchContainsKeys env keys tx

def batchGet (gate : Gate) (ns setName : String) (userKeys : Option (List Value))
    (names : List String) (tx : Option TransactionOptions) :
    Program σ (Except GateError (List CallResult)) :=
  onKeys (keysOf ns setName userKeys) fun keys => gate.batchGetKeys env keys (some names) tx

def batchGetAll (gate : Gate) (ns setName : String) (userKeys : Option (List Value))
    (tx : Option TransactionOptions) : Program σ (Except GateError (List CallResult)) :=
  onKeys (keysOf ns setName userKeys) fun keys => gate.batchGetKeys env keys none tx

def batchGetDigests (gate : Gate) (ns : String) (digests : Option (List Digest))
    (names : Option (List String)) (tx : Option TransactionOptions) :
    Program σ (Except GateError (List CallResult)) :=
  onKeys (keysOfDigests ns digests) fun keys => gate.batchGetKeys env keys names tx

end Gate

end RecordGate
