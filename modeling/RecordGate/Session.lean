import RecordGate.Gate
import RecordGate.Log.Router
import RecordGate.OrderedMap

/-!
# Sessions

A session is what gates share: the cluster, the clock and the log, beside the gates themselves, which
have names. The commands that gates give are kept in order, and replies from a script may stand in for
those of the cluster; a scripted reply leaves the cluster alone.
-/

namespace RecordGate
set_option autoImplicit false

/-- What a scripted reply says to a command, by the kind of its answer. To a kind of which it says nothing
there is no answer. -/
structure ScriptedAnswer where
  record : Option (Option Record) := none
  flag : Option Bool := none
  records : Option (List (Reply (Option Record))) := none
  flags : Option (List Bool) := none
  summary : Option ScanSummary := none

/-- A reply that stands in for one of the cluster. -/
structure ScriptedReply where
  answer : Reply ScriptedAnswer
  /-- What a scan delivers before the answer; a reply without it answers no scan. -/
  rows : Option (List ScanRow) := none

/-- A gate, and the hosts through which its cluster can be reached. -/
structure SeededGate where
  seeds : List Host
  gate : Gate

structure Session where
  cluster : Cluster
  /-- Epoch seconds. -/
  clock : Int
  /-- The hosts through which the gates to come can reach the cluster. -/
  seeds : List Host
  gates : OrderedMap String SeededGate := ∅
  log : LogRouter Unit := { callback := some () }
  /-- The lines that the log delivered, in order. -/
  lines : List (LogLevel × String) := []
  /-- The commands that gates gave, in order. -/
  commands : List Command := []
  /-- The rows of scans that were kept, in order. -/
  rows : List ScanRow := []
  /-- Replies to the next commands, in order. -/
  script : List ScriptedReply := []

namespace Session

/-- The time that the cluster sees, if the clock tells one. -/
def now? (s : Session) : Option UInt32 := timeOf? s.clock

/-- Leave an event in the log. -/
def note (e : LogEvent) : StateM Session Unit := modify fun s =>
  { s with lines := s.lines ++ ((s.log.event e).map fun d => (d.level, d.line)).toList }

def setLogLevel (level : LogLevel) : StateM Session Unit := modify fun s =>
  { s with log := s.log.setLevel level }

/-- Keep the row of a scan. -/
def keepRow (row : ScanRow) : StateM Session Unit := modify fun s => { s with rows := s.rows ++ [row] }

/-- Do something with the cluster. -/
def onCluster {α : Type} (f : Cluster → α × Cluster) : StateM Session α := fun s =>
  let (a, cluster) := f s.cluster
  (a, { s with cluster })

/-- Make a record fail its integrity check. Tells whether there is one. -/
def corrupt (key : Key) : StateM Session Bool := onCluster (·.corrupt key)

/-- Run a command of the cluster at the present time. Where the clock tells none, a command that is accepted
and asks for the time crashes, and the others are given any time. -/
def timed {α : Type} (policy : CommandPolicy) (asks : Cluster → Bool)
    (f : Cluster → UInt32 → Reply α × Cluster) : Program Session (Reply α) := do
  let s ← get
  let (reply, accepted) := s.cluster.accept policy
  if s.now?.isNone && reply.toBool && asks s.cluster then
    set { s with cluster := accepted }
    failure
  (onCluster fun c => f c (s.now?.getD 0) : StateM Session (Reply α))

/-! ## Scans of the cluster -/

/-- Run a scan that the cluster accepts. -/
def acceptScan (policy : ScanPolicy) (scan : StateM Session (Except ScanStop ScanSummary)) :
    StateM Session (Except ScanStop ScanSummary) := do
  match ← onCluster (·.accept (.scan policy)) with
  | .ok () => scan
  | .error e => return .error (.failed e)

/-- Scan every node. -/
def scanAll (policy : ScanPolicy) (ns setName : String) (visit : Visitor Session) :
    StateM Session (Except ScanStop ScanSummary) :=
  acceptScan policy do
    let s ← get
    let nodes := Cluster.nodesIn cluster s
    let scope : ScanScope := { ns, setName, includeBins := policy.includeBins, now? := s.now? }
    note (.scanStarted ns setName nodes.length policy.concurrent)
    scope.overNodes policy.concurrent visit nodes

/-- Scan the node of a name. -/
def scanNode (policy : ScanPolicy) (node ns setName : String) (visit : Visitor Session) :
    StateM Session (Except ScanStop ScanSummary) :=
  acceptScan policy do
    let s ← get
    let scope : ScanScope := { ns, setName, includeBins := policy.includeBins, now? := s.now? }
    match Cluster.nodeNamed? cluster s node with
    | some found =>
      note (.nodeScanStarted node ns setName)
      scope.overNode visit found
    | none => return .error (.failed (Refusal.unknownNode node).toError)

/-- A handler as a scan of the cluster calls it. -/
def visitor (handle : RowHandler Session) : Visitor Session := fun row s =>
  match (handle row).run s with
  | (some reply, s) => (reply.mapError .failed, s)
  | (none, s) => (.error .crashed, s)

/-- A visitor that keeps every row, up to one on which it stops. -/
def collector (stop? : ScanRow → Option ScanStop) : Visitor Session := fun row s =>
  match stop? row with
  | none => (.ok (), (keepRow row s).2)
  | some stop => (.error stop, s)

/-- The reply to a scan; one that has stopped on a crash crashes. -/
def settled (scan : StateM Session (Except ScanStop ScanSummary)) :
    Program Session (Reply ScanSummary) := do
  match ← scan with
  | .ok summary => return .ok summary
  | .error (.failed e) => return .error e
  | .error .crashed => failure

/-! ## The clients of a session -/

/-- The client whose commands go to the cluster. -/
def direct : RecordClient Session where
  isConnected s := s.cluster.connected
  nodeNames s := s.cluster.nodeNames
  get policy key selection :=
    timed (.read policy) (·.holds key) fun c now => c.get now policy key selection
  contains policy key := timed (.read policy) (·.holds key) fun c now => c.contains now policy key
  delete policy key := timed (.write policy) (·.holds key) fun c now => c.delete now policy key
  operate policy key ops :=
    timed (.write policy) (·.operateAsksTime policy key ops) fun c now => c.operate now policy key ops
  batchGet policy keys selection :=
    timed (.read policy) (keys.any ·.holds) fun c now => c.batchGet now policy keys selection
  batchContains policy keys :=
    timed (.read policy) (keys.any ·.holds) fun c now => c.batchContains now policy keys
  scanAll policy ns setName handle := settled (scanAll policy ns setName (visitor handle))
  scanNode policy node ns setName handle := settled (scanNode policy node ns setName (visitor handle))
  close := onCluster fun c => ((), c.close)

/-- Keep a command, and answer it from the script if that has a reply left. -/
def command {α : Type} (c : Command) (scripted : ScriptedReply → Program Session (Reply α))
    (serve : Program Session (Reply α)) : Program Session (Reply α) := do
  modify fun s => { s with commands := s.commands ++ [c] }
  match (← get).script with
  | [] => serve
  | reply :: rest =>
    modify fun s => { s with script := rest }
    scripted reply

/-- The part of a scripted reply that answers a command. A command that it does not answer crashes. -/
def answer {α : Type} (f : ScriptedAnswer → Option α) (reply : ScriptedReply) :
    Program Session (Reply α) := do
  match reply.answer with
  | .error e => return .error e
  | .ok a =>
    match f a with
    | some a => return .ok a
    | none => failure

/-- Deliver the rows of a scripted scan, up to the first that fails. -/
def deliver (handle : RowHandler Session) : List ScanRow → Program Session (Reply Unit)
  | [] => return .ok ()
  | row :: rest => do
    match ← handle row with
    | .ok () => deliver handle rest
    | .error e => return .error e

/-- A scripted reply to a scan. -/
def answerScan (handle : RowHandler Session) (reply : ScriptedReply) :
    Program Session (Reply ScanSummary) := do
  match reply.rows with
  | none => failure
  | some rows =>
    match ← deliver handle rows with
    | .ok () => answer (·.summary) reply
    | .error e => return .error e

/-- The client that gates hold: the script answers first, and then the cluster. -/
def client : RecordClient Session where
  isConnected := direct.isConnected
  nodeNames := direct.nodeNames
  get policy key selection :=
    command (.get policy key selection) (answer (·.record)) (direct.get policy key selection)
  contains policy key := command (.contains policy key) (answer (·.flag)) (direct.contains policy key)
  delete policy key := command (.delete policy key) (answer (·.flag)) (direct.delete policy key)
  operate policy key ops :=
    command (.operate policy key ops) (answer (·.record.join)) (direct.operate policy key ops)
  batchGet policy keys selection :=
    command (.batchGet policy keys selection) (answer (·.records))
      (direct.batchGet policy keys selection)
  batchContains policy keys :=
    command (.batchContains policy keys) (answer (·.flags)) (direct.batchContains policy keys)
  scanAll policy ns setName handle :=
    command (.scanAll policy ns setName) (answerScan handle) (direct.scanAll policy ns setName handle)
  scanNode policy node ns setName handle :=
    command (.scanNode policy node ns setName) (answerScan handle)
      (direct.scanNode policy node ns setName handle)
  close := direct.close

/-- Reach the cluster through one of the hosts that is a seed. -/
def reach (seeds hosts : List Host) : StateM Session (Reply Unit) := do
  match ← onCluster (·.connect seeds hosts) with
  | .ok seed =>
    note (.seedReached seed)
    return .ok ()
  | .error refusal =>
    if refusal = .noSeedReachable then note (.noSeedReachable hosts.length)
    return .error refusal.toError

/-- What a gate of the session works with. -/
def surroundings (seeds : List Host) : Surroundings Session where
  client := client
  connect := reach seeds
  note := note
  setLogLevel := setLogLevel

/-- Forget the lines, commands and rows so far. -/
def turnPage : StateM Session Unit := modify fun s => { s with lines := [], commands := [], rows := [] }

end Session

end RecordGate
