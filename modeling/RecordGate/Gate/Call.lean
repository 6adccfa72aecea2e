import RecordGate.Gate.Batch

/-!
# Calls of a gate as data

A call that needs no callback, with what it is given, and the answer to it.
-/

namespace RecordGate
set_option autoImplicit false

/-- A call of a gate. -/
inductive GateCall where
  | write (kind : Gate.WriteKind) (key : Key) (bins : List Bin) (tx : Option TransactionOptions)
      (options : Option WriteOptions)
  | addAndGet (key : Key) (bins : List Bin) (tx : Option TransactionOptions)
      (options : Option WriteOptions)
  | delete (key : Key) (tx : Option TransactionOptions) (options : Option WriteOptions)
  | getBin (key : Key) (name : String) (tx : Option TransactionOptions)
  | getBins (key : Key) (names : List String) (tx : Option TransactionOptions)
  | getAll (key : Key) (tx : Option TransactionOptions)
  | getWithTouch (key : Key) (names : Option (List String)) (tx : Option TransactionOptions)
      (options : Option WriteOptions)
  | contains (key : Key) (tx : Option TransactionOptions)
  | operate (key : Key) (reads : List String) (writes : List Bin) (tx : Option TransactionOptions)
      (options : Option WriteOptions)
  | batchContains (ns setName : String) (userKeys : Option (List Value))
      (tx : Option TransactionOptions)
  | batchGet (ns setName : String) (userKeys : Option (List Value)) (names : List String)
      (tx : Option TransactionOptions)
  | batchGetAll (ns setName : String) (userKeys : Option (List Value))
      (tx : Option TransactionOptions)
  | batchContainsDigests (ns : String) (digests : Option (List Digest))
      (tx : Option TransactionOptions)
  | batchGetDigests (ns : String) (digests : Option (List Digest)) (names : Option (List String))
      (tx : Option TransactionOptions)
  | batchContainsKeys (keys : List Key) (tx : Option TransactionOptions)
  | batchGetKeys (keys : List Key) (names : Option (List String)) (tx : Option TransactionOptions)

/-- The answer to a call. -/
inductive GateAnswer where
  | result (r : CallResult)
  | results (rs : List CallResult)
  /-- The call was given something that no command can be made of. -/
  | rejected (e : GateError)

namespace GateAnswer

/-- The answer of a batch. -/
def ofBatch : Except GateError (List CallResult) → GateAnswer
  | .ok rs => results rs
  | .error e => rejected e

end GateAnswer

/-- Make a call. -/
def Gate.run {σ : Type} (env : Surroundings σ) (gate : Gate) : GateCall → Program σ GateAnswer
  | .write kind key bins tx options => .result <$> gate.write env kind key bins tx options
  | .addAndGet key bins tx options => .result <$> gate.addAndGet env key bins tx options
  | .delete key tx options => .result <$> gate.delete env key tx options
  | .getBin key name tx => .result <$> gate.getBin env key name tx
  | .getBins key names tx => .result <$> gate.getBins env key names tx
  | .getAll key tx => .result <$> gate.getAll env key tx
  | .getWithTouch key names tx options => .result <$> gate.getWithTouch env key names tx options
  | .contains key tx => .result <$> gate.contains env key tx
  | .operate key reads writes tx options => .result <$> gate.operate env key reads writes tx options
  | .batchContains ns setName keys tx => .ofBatch <$> gate.batchContains env ns setName keys tx
  | .batchGet ns setName keys names tx => .ofBatch <$> gate.batchGet env ns setName keys names tx
  | .batchGetAll ns setName keys tx => .ofBatch <$> gate.batchGetAll env ns setName keys tx
  | .batchContainsDigests ns digests tx => .ofBatch <$> gate.batchContainsDigests env ns digests tx
  | .batchGetDigests ns digests names tx => .ofBatch <$> gate.batchGetDigests env ns digests names tx
  | .batchContainsKeys keys tx => .results <$> gate.batchContainsKeys env keys tx
  | .batchGetKeys keys names tx => .results <$> gate.batchGetKeys env keys names tx

end RecordGate
