import RecordGate.Proofs.Store.Effect
import RecordGate.Proofs.Store.MapRecords

/-!
# What the store makes of set names

A set name is kept with its record and says which scans look at the record. Nothing else in the store hangs
on it: a cluster without set names answers the keys of digests as the cluster with them answers the keys
themselves, but for the wording of failures, and is then the other cluster without its set names
(`answer_setless`). A scan of every set delivers the same rows, without their set names
(`delivery_setless`).
-/

namespace RecordGate
set_option autoImplicit false

/-! ## Records, nodes and keys -/

/-- The record without its set name. -/
def StoredRecord.setless (r : StoredRecord) : StoredRecord := { r with setName := "" }

/-- The key of the digest of a key. -/
def Key.setless (key : Key) : Key := .ofDigest key.ns key.digest

def Node.setless (n : Node) : Node := { n with records := n.records.mapValues StoredRecord.setless }

/-! ## What a command makes of a record -/

section Execute

variable (existing : Option StoredRecord) (setName : String) (policy : WritePolicy) (ops : List Operation)
  (limit : Nat) (now : UInt32)

theorem checkWrite_setless :
    checkWrite (existing.map StoredRecord.setless) policy = checkWrite existing policy := by
  cases existing with
  | none => rfl
  | some r =>
    unfold checkWrite checkExistence
    cases policy.existence <;> rfl

theorem writeBins_setless :
    writeBins (existing.map StoredRecord.setless) policy ops = writeBins existing policy ops := by
  rw [writeBins, writeBins, checkWrite_setless]
  cases existing <;> rfl

theorem writeRecord_setless :
    writeRecord (existing.map StoredRecord.setless) "" policy ops limit now =
      (writeRecord existing setName policy ops limit now).map StoredRecord.setless := by
  have bare : (existing.map StoredRecord.setless).getD { setName := "" } =
      (existing.getD { setName }).setless := by
    cases existing <;> rfl
  rw [writeRecord, writeRecord, writeBins_setless, bare]
  cases writeBins existing policy ops with
  | error e => rfl
  | ok made =>
    dsimp only [bind, Except.bind]
    rw [apply_ite (Except.map StoredRecord.setless)]
    rfl

/-- A command makes the same of a record without its set name. -/
theorem execute_setless :
    execute (existing.map StoredRecord.setless) "" policy ops limit now =
      (execute existing setName policy ops limit now).map fun outcome =>
        { outcome with state := outcome.state.map StoredRecord.setless } := by
  cases writes : ops.any Operation.isWrite with
  | false =>
    rw [execute_of_reads writes, execute_of_reads writes]
    cases existing <;> rfl
  | true =>
    rw [execute_of_writes writes, execute_of_writes writes, Option.isNone_map, writeRecord_setless _ setName]
    split
    · rfl
    · cases writeRecord existing setName policy ops limit now <;> rfl

end Execute

/-! ## Wording -/

/-- The failure without its text. -/
def ClientError.unworded (e : ClientError) : ClientError := { e with message := "" }

/-- The reply without the texts of failures. -/
def CommandReply.unworded : CommandReply → CommandReply
  | record reply => record (reply.mapError ClientError.unworded)
  | flag reply => flag (reply.mapError ClientError.unworded)
  | written reply => written (reply.mapError ClientError.unworded)
  | records reply =>
    records ((reply.map (List.map (Except.mapError ClientError.unworded))).mapError ClientError.unworded)
  | flags reply => flags (reply.mapError ClientError.unworded)
  | summary reply => summary (reply.mapError ClientError.unworded)

namespace Command

/-- The command by digests in place of keys. -/
def setless : Command → Command
  | .get policy key selection => .get policy key.setless selection
  | .contains policy key => .contains policy key.setless
  | .delete policy key => .delete policy key.setless
  | .operate policy key ops => .operate policy key.setless ops
  | .batchGet policy keys selection => .batchGet policy (keys.map Key.setless) selection
  | .batchContains policy keys => .batchContains policy (keys.map Key.setless)
  | .scanAll policy ns setName => .scanAll policy ns setName
  | .scanNode policy node ns setName => .scanNode policy node ns setName

theorem policy_setless (command : Command) : command.setless.policy = command.policy := by
  cases command <;> rfl

end Command

/-! ## Commands -/

namespace Cluster

variable (c : Cluster)

/-- The cluster without set names. -/
def setless : Cluster where
  nodes := c.nodes.map Node.setless
  nodes_ne_nil := mt List.map_eq_nil_iff.1 c.nodes_ne_nil
  connected := c.connected
  recordLimit := c.recordLimit
  faults := c.faults
  lastPolicy := c.lastPolicy
  calls := c.calls

theorem storedAt_setless (place : Nat) (id : RecordId) :
    c.setless.storedAt place id = (c.storedAt place id).map StoredRecord.setless :=
  c.storedAt_mapRecords StoredRecord.setless place id

theorem find?_setless (id : RecordId) : c.setless.find? id = (c.find? id).map StoredRecord.setless :=
  c.find?_mapRecords StoredRecord.setless id

theorem live?_setless (now : UInt32) (id : RecordId) :
    c.setless.live? now id = (c.live? now id).map StoredRecord.setless := by
  rw [live?, live?, find?_setless, Option.filter_map]
  rfl

theorem holds_setless (key : Key) : c.setless.holds key.setless = c.holds key := by
  have found := c.find?_setless key.id
  exact (congrArg Option.isSome found).trans Option.isSome_map

theorem isLive_setless (now : UInt32) (key : Key) :
    c.setless.isLive now key.setless = c.isLive now key := by
  have found := c.live?_setless now key.id
  exact (congrArg Option.isSome found).trans Option.isSome_map

theorem setless_put (id : RecordId) (r : StoredRecord) :
    (c.put id r).setless = c.setless.put id r.setless :=
  c.mapRecords_put StoredRecord.setless id r

theorem setless_erase (id : RecordId) : (c.erase id).setless = c.setless.erase id :=
  c.mapRecords_erase StoredRecord.setless id

theorem accept_setless (policy : CommandPolicy) :
    c.setless.accept policy = (c.accept policy).map id setless :=
  c.accept_mapRecords StoredRecord.setless policy

/-- Runs that reply the same but for wording, the first over the second's cluster without set names. -/
structure Unnamed (x y : CommandReply × Cluster) : Prop where
  reply : x.1.unworded = y.1.unworded
  cluster : x.2 = y.2.setless

/-- Bodies whose results reply the same but for wording are served so. -/
theorem serve_setless {α : Type} (kind : Reply α → CommandReply) (policy : CommandPolicy)
    {body body' : Cluster → Except Refusal α × Cluster}
    (bodies : ∀ c, Unnamed ((body' c.setless).map (fun result => kind (result.mapError Refusal.toError)) id)
      ((body c).map (fun result => kind (result.mapError Refusal.toError)) id)) :
    Unnamed ((c.setless.serve policy body').map kind id) ((c.serve policy body).map kind id) := by
  rw [serve, serve, accept_setless]
  rcases c.accept policy with ⟨e | _, d⟩
  · exact ⟨rfl, rfl⟩
  · have run := bodies d
    dsimp only [Prod.map_apply, id_eq] at run ⊢
    generalize body d = here at run ⊢
    generalize body' d.setless = there at run ⊢
    obtain ⟨_ | _, _⟩ := here <;> obtain ⟨_ | _, _⟩ := there <;> exact run

theorem readLive_setless (now : UInt32) (key : Key) (selection : BinSelection) :
    ((c.setless.readLive now key.setless selection).mapError Refusal.toError).mapError ClientError.unworded =
      ((c.readLive now key selection).mapError Refusal.toError).mapError ClientError.unworded := by
  have same : key.setless.id = key.id := rfl
  rw [readLive, readLive, same, live?_setless]
  cases c.live? now key.id with
  | none => rfl
  | some r =>
    have corrupted : r.setless.corrupted = r.corrupted := rfl
    dsimp only [Option.map_some]
    rw [corrupted]
    split <;> rfl

theorem get_setless (now : UInt32) (policy : Policy) (key : Key) (selection : BinSelection) :
    Unnamed ((c.setless.get now policy key.setless selection).map .record id)
      ((c.get now policy key selection).map .record id) := by
  apply serve_setless
  intro c
  exact ⟨congrArg CommandReply.record (c.readLive_setless now key selection), rfl⟩

theorem contains_setless (now : UInt32) (policy : Policy) (key : Key) :
    Unnamed ((c.setless.contains now policy key.setless).map .flag id)
      ((c.contains now policy key).map .flag id) := by
  apply serve_setless
  intro c
  rw [isLive_setless]
  exact ⟨rfl, rfl⟩

theorem delete_setless (now : UInt32) (policy : WritePolicy) (key : Key) :
    Unnamed ((c.setless.delete now policy key.setless).map .flag id)
      ((c.delete now policy key).map .flag id) := by
  apply serve_setless
  intro c
  have same : key.setless.id = key.id := rfl
  rw [same, find?_setless, ← setless_erase]
  cases c.find? key.id with
  | none => exact ⟨rfl, rfl⟩
  | some r =>
    have expired : r.setless.expiredAt now = r.expiredAt now := rfl
    have generation : r.setless.generation = r.generation := rfl
    dsimp only [Option.map_some]
    rw [expired, generation]
    split
    · exact ⟨rfl, rfl⟩
    · split <;> exact ⟨rfl, rfl⟩

theorem operate_setless (now : UInt32) (policy : WritePolicy) (key : Key) (ops : List Operation) :
    Unnamed ((c.setless.operate now policy key.setless ops).map .written id)
      ((c.operate now policy key ops).map .written id) := by
  apply serve_setless
  intro c
  have same : key.setless.id = key.id := rfl
  have set : key.setless.setName.getD "" = "" := rfl
  have limit : c.setless.recordLimit = c.recordLimit := rfl
  have corrupted : ((c.live? now key.id).map StoredRecord.setless).any (·.corrupted) =
      (c.live? now key.id).any (·.corrupted) := by
    cases c.live? now key.id <;> rfl
  dsimp only
  rw [same, set, limit, live?_setless, corrupted, execute_setless _ (key.setName.getD "")]
  split
  · exact ⟨rfl, rfl⟩
  · cases execute (c.live? now key.id) (key.setName.getD "") policy ops c.recordLimit now with
    | error refusal => exact ⟨rfl, rfl⟩
    | ok outcome =>
      obtain ⟨state, record⟩ := outcome
      cases state with
      | none => exact ⟨rfl, rfl⟩
      | some r => exact ⟨rfl, (c.setless_put key.id r).symm⟩

theorem batchGet_setless (now : UInt32) (policy : Policy) (keys : List Key) (selection : BinSelection) :
    Unnamed ((c.setless.batchGet now policy (keys.map Key.setless) selection).map .records id)
      ((c.batchGet now policy keys selection).map .records id) := by
  apply serve_setless
  intro c
  have each := List.map_congr_left fun key (_ : key ∈ keys) => c.readLive_setless now key selection
  refine ⟨?_, rfl⟩
  simp only [Prod.map_fst, Except.mapError, CommandReply.unworded, Except.map, List.map_map]
  exact congrArg (fun replies => CommandReply.records (.ok replies)) each

theorem batchContains_setless (now : UInt32) (policy : Policy) (keys : List Key) :
    Unnamed ((c.setless.batchContains now policy (keys.map Key.setless)).map .flags id)
      ((c.batchContains now policy keys).map .flags id) := by
  apply serve_setless
  intro c
  have each : (keys.map Key.setless).map (c.setless.isLive now) = keys.map (c.isLive now) := by
    rw [List.map_map]
    exact List.map_congr_left fun key _ => c.isLive_setless now key
  rw [each]
  exact ⟨rfl, rfl⟩

/-- **Without set names a cluster answers the keys of digests as it answers keys**, and is then still the
cluster without its set names. -/
theorem answer_setless (now : UInt32) (command : Command) :
    Unnamed (c.setless.answer now command.setless) (c.answer now command) := by
  cases command with
  | get policy key selection => exact c.get_setless now policy key selection
  | contains policy key => exact c.contains_setless now policy key
  | delete policy key => exact c.delete_setless now policy key
  | operate policy key ops => exact c.operate_setless now policy key ops
  | batchGet policy keys selection => exact c.batchGet_setless now policy keys selection
  | batchContains policy keys => exact c.batchContains_setless now policy keys
  | scanAll policy _ _ | scanNode policy _ _ _ =>
    rw [Command.setless, answer, answer]
    apply serve_setless
    intro c
    exact ⟨rfl, rfl⟩

theorem asksTime_setless (command : Command) : c.setless.asksTime command.setless = c.asksTime command := by
  cases command with
  | get _ key _ | contains _ key | delete _ key => exact c.holds_setless key
  | operate policy key ops => exact congrArg (· || _) (c.holds_setless key)
  | batchGet _ keys _ | batchContains _ keys =>
    exact List.any_map.trans (congrArg keys.any (funext c.holds_setless))
  | scanAll _ _ _ | scanNode _ _ _ _ => rfl

end Cluster

/-! ## Scans of every set -/

/-- The row without its set name. -/
def ScanRow.setless (row : ScanRow) : ScanRow := { row with setName := "" }

/-- Every set is scanned. -/
def Command.everySet : Command → Bool
  | .scanAll _ _ setName | .scanNode _ _ _ setName => setName.isEmpty
  | _ => true

theorem Node.snapshot_setless (n : Node) (ns : String) (now : UInt32) :
    n.setless.snapshot ns "" now = (n.snapshot ns "" now).map (Prod.map id StoredRecord.setless) :=
  n.snapshot_mapRecords fun _ _ => rfl

theorem ScanScope.ended_setless (scope : ScanScope) (records : List (Digest × StoredRecord)) :
    scope.ended (records.map (Prod.map id StoredRecord.setless)) =
      (scope.ended records).map id (List.map ScanRow.setless) := by
  simp only [ended, ScanSummary.ofRecords, rows, List.filter_map, List.any_map, List.length_map,
    List.map_map, Prod.map_apply, id_eq]
  rfl

namespace Cluster

variable (c : Cluster)

theorem snapshot_setless (ns : String) (now : UInt32) :
    c.setless.snapshot ns "" now = (c.snapshot ns "" now).map (Prod.map id StoredRecord.setless) :=
  c.snapshot_mapRecords fun _ _ => rfl

theorem node?_setless (name : String) : c.setless.node? name = (c.node? name).map Node.setless :=
  c.node?_mapRecords StoredRecord.setless name

/-- A scan of every set delivers the same rows without their set names. -/
theorem delivery_setless (now : UInt32) {command : Command} (everySet : command.everySet = true) :
    c.setless.delivery now command = (c.delivery now command).map id (List.map ScanRow.setless) := by
  cases command with
  | scanAll policy ns setName =>
    obtain rfl := String.isEmpty_iff.1 everySet
    rw [delivery, delivery, snapshot_setless, ScanScope.ended_setless]
  | scanNode policy node ns setName =>
    obtain rfl := String.isEmpty_iff.1 everySet
    rw [delivery, delivery, node?_setless]
    cases c.node? node with
    | none => rfl
    | some n =>
      dsimp only [Option.map_some]
      rw [Node.snapshot_setless, ScanScope.ended_setless]
  | _ => rfl

theorem attempt_setless (now? : Option UInt32) {command : Command} (everySet : command.everySet = true) :
    c.setless.attempt now? command = (c.attempt now? command).map id (List.map ScanRow.setless) := by
  cases now? with
  | some now =>
    rw [attempt_of_told, attempt_of_told, delivery_setless c now everySet]
    rfl
  | none =>
    cases command with
    | scanNode policy node ns setName =>
      rw [attempt, attempt, node?_setless]
      cases c.node? node <;> rfl
    | _ => rfl

theorem attempted_setless (now? : Option UInt32) {command : Command} (everySet : command.everySet = true) :
    c.setless.attempted now? command =
      (c.attempted now? command).map (Prod.map id (List.map ScanRow.setless)) setless := by
  rw [attempted, attempted, accept_setless]
  rcases c.accept command.policy with ⟨e | _, d⟩
  · rfl
  · exact congrArg (·, d.setless) (d.attempt_setless now? everySet)

end Cluster

end RecordGate
