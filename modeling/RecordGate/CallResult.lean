import RecordGate.ResultCode
import RecordGate.Record

/-!
# Results of calls

Every call through the gate answers with a `CallResult`: a code and whatever of generation, bins and
versions the call reports. The functions `of…` say what a client's reply becomes.
-/

namespace RecordGate
set_option autoImplicit false

/-- The result of one call. -/
structure CallResult where
  code : ResultCode := .notSet
  generation : Option UInt32 := none
  /-- The value of the bin that was asked for alone. -/
  single : Option Value := none
  /-- Bins by name, absent where versions are returned. -/
  bins : Option BinMap := none
  /-- Conflicting versions, the current one first. -/
  versions : Option (List BinMap) := none
  /-- A scan left out records that failed an integrity check. -/
  corrupted : Bool := false
  deriving Inhabited

/-- How a scan ended. -/
structure ScanSummary where
  /-- Number of records delivered. -/
  records : Nat := 0
  /-- A record failed an integrity check and was left out. -/
  corrupted : Bool := false
  deriving DecidableEq, Inhabited

namespace CallResult

/-- A result that carries only a code. -/
def ofCode (code : ResultCode) : CallResult := { code }

def ok : CallResult := ofCode .ok

def notFound : CallResult := ofCode .keyNotFound

def isOk (r : CallResult) : Bool := r.code.isOk

/-- The value of a bin of the result. -/
def value? (r : CallResult) (name : String) : Option Value := r.bins.bind (·.get? name)

/-- A failure leaves its code and nothing else. -/
def ofError (e : ClientError) : CallResult := ofCode (ResultCode.ofCode e.code)

/-- A record: its generation, and its versions or else its bins. -/
def ofRecord (r : Record) : CallResult :=
  match r.versions with
  | some versions => { ok with generation := some r.generation, versions := some versions }
  | none => { ok with generation := some r.generation, bins := some r.bins }

/-- The acknowledgement of a write: the new generation. -/
def ofHeader (r : Record) : CallResult := { ok with generation := some r.generation }

/-- A read that may have found no record. -/
def ofFoundRecord : Option Record → CallResult
  | some r => ofRecord r
  | none => notFound

/-- Whether a record was there. -/
def ofPresence (found : Bool) : CallResult := if found then ok else notFound

/-- The end of a scan. -/
def ofSummary (s : ScanSummary) : CallResult := { ok with corrupted := s.corrupted }

/-- A client's reply, read by `f` where it succeeds. -/
def ofReply {α : Type} (f : α → CallResult) : Reply α → CallResult
  | .ok a => f a
  | .error e => ofError e

/-- Name one bin's value in a result that succeeded. -/
def withSingle (r : CallResult) (name : String) : CallResult :=
  if r.isOk then { r with single := r.value? name } else r

end CallResult

end RecordGate
