import RecordGate.CallResult
import RecordGate.Store.Cluster

/-!
# Scans

A scan hands every live record of a namespace and set to a visitor, node by node. The visitor works on
a state of its own and may stop the scan, or crash. A node's records are copied when its turn comes, so
that a visitor may write to the cluster while the scan goes on.

A scan in turn ends at the first node that stops. A scan at once runs every node to its own end, a crash
there becomes a failure, and the first failure in the order of nodes is the result.
-/

namespace RecordGate
set_option autoImplicit false

/-- A record as a scan delivers it. -/
structure ScanRow where
  ns : String
  setName : String
  digest : Digest
  bins : BinMap
  generation : UInt32
  expiration : UInt32
  deriving Inhabited

/-- Why a scan stopped. -/
inductive ScanStop where
  | failed (e : ClientError)
  /-- The visitor crashed, or the clock told no time. -/
  | crashed
  deriving DecidableEq

/-- The failure that a crash counts as, once it is caught. -/
def ScanStop.toError : ScanStop → ClientError
  | failed e => e
  | crashed => Refusal.workerCrashed.toError

/-- Handles one row of a scan. -/
abbrev Visitor (σ : Type) := ScanRow → σ → Except ScanStop Unit × σ

/-- The part of the records that a scan covers. -/
structure ScanScope where
  ns : String
  /-- Empty for every set. -/
  setName : String
  /-- Whether bins are delivered. -/
  includeBins : Bool
  /-- The time, if the clock tells it. -/
  now? : Option UInt32

namespace ScanSummary

/-- The summary of two parts of a scan. -/
def merge (a b : ScanSummary) : ScanSummary :=
  { records := a.records + b.records, corrupted := a.corrupted || b.corrupted }

/-- The summary of all parts of a scan, or the first failure among them. -/
def mergeAll : List (Except ScanStop ScanSummary) → Except ScanStop ScanSummary
  | [] => .ok {}
  | .error e :: _ => .error e
  | .ok a :: rest => (mergeAll rest).map a.merge

end ScanSummary

namespace ScanScope

variable {σ : Type}

/-- The row of a record. -/
def row (scope : ScanScope) (digest : Digest) (r : StoredRecord) : ScanRow where
  ns := scope.ns
  setName := r.setName
  digest := digest
  bins := if scope.includeBins then r.bins else ∅
  generation := r.generation
  expiration := r.expiration

/-- Deliver the records of a copy, in order. Corrupted ones are left out and noted. -/
def deliver (scope : ScanScope) (visit : Visitor σ) :
    List (Digest × StoredRecord) → ScanSummary → σ → Except ScanStop ScanSummary × σ
  | [], summary, s => (.ok summary, s)
  | (digest, r) :: rest, summary, s =>
    if r.corrupted then deliver scope visit rest { summary with corrupted := true } s
    else
      match visit (scope.row digest r) s with
      | (.error stop, s) => (.error stop, s)
      | (.ok (), s) =>
        deliver scope visit rest { summary with records := summary.records + 1 } s

/-- Scan one node, as it is in the state when its turn comes. Without the time there is no telling which
of its records are live. -/
def overNode (scope : ScanScope) (visit : Visitor σ) (node : σ → Node) (s : σ) :
    Except ScanStop ScanSummary × σ :=
  match scope.now? with
  | some now => scope.deliver visit ((node s).snapshot scope.ns scope.setName now) {} s
  | none => (.error .crashed, s)

/-- Scan nodes in turn; the first that stops ends the scan. -/
def inTurn (scope : ScanScope) (visit : Visitor σ) : List (σ → Node) → σ →
    Except ScanStop ScanSummary × σ
  | [], s => (.ok {}, s)
  | node :: rest, s =>
    match scope.overNode visit node s with
    | (.error stop, s) => (.error stop, s)
    | (.ok summary, s) =>
      match inTurn scope visit rest s with
      | (.error stop, s) => (.error stop, s)
      | (.ok others, s) => (.ok (summary.merge others), s)

/-- Scan every node to its own end, and catch crashes. -/
def eachNode (scope : ScanScope) (visit : Visitor σ) : List (σ → Node) → σ →
    List (Except ScanStop ScanSummary) × σ
  | [], s => ([], s)
  | node :: rest, s =>
    let (result, s) := scope.overNode visit node s
    let (results, s) := eachNode scope visit rest s
    (result.mapError (fun stop => .failed stop.toError) :: results, s)

/-- Scan nodes at once. -/
def atOnce (scope : ScanScope) (visit : Visitor σ) (nodes : List (σ → Node)) (s : σ) :
    Except ScanStop ScanSummary × σ :=
  let (results, s) := scope.eachNode visit nodes s
  (ScanSummary.mergeAll results, s)

/-- Scan the nodes of a cluster as a policy says. -/
def overNodes (scope : ScanScope) (concurrent : Bool) (visit : Visitor σ)
    (nodes : List (σ → Node)) (s : σ) : Except ScanStop ScanSummary × σ :=
  if concurrent then scope.atOnce visit nodes s else scope.inTurn visit nodes s

end ScanScope

/-- The nodes of a cluster that is part of a state, each as it is in the state at its time. -/
def Cluster.nodesIn {σ : Type} (cluster : σ → Cluster) (s : σ) : List (σ → Node) :=
  (List.range (cluster s).nodes.length).map fun i t => (cluster t).nodes.getD i default

/-- The node of a name, as it is in the state at its time. -/
def Cluster.nodeNamed? {σ : Type} (cluster : σ → Cluster) (s : σ) (name : String) :
    Option (σ → Node) :=
  ((cluster s).nodes.findIdx? (·.name == name)).map fun i t => (cluster t).nodes.getD i default

end RecordGate
