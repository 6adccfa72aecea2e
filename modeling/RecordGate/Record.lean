import RecordGate.Value

/-!
# Bins and records as callers see them
-/

namespace RecordGate
set_option autoImplicit false

/-- A named value; the name may be empty. -/
structure Bin where
  name : String
  value : Value
  deriving Inhabited

/-- A record that was read: its bins and what the store knows about it. Where the store keeps
conflicting versions, all of them are listed, the current one first. -/
structure Record where
  bins : BinMap := ∅
  generation : UInt32 := 0
  /-- Epoch seconds, zero for never. -/
  expiration : UInt32 := 0
  versions : Option (List BinMap) := none
  deriving Inhabited

/-- Which bins a read returns. -/
inductive BinSelection where
  | all
  | named (names : List String)
  | none
  deriving DecidableEq

namespace BinSelection

instance : Inhabited BinSelection := ⟨all⟩

/-- Whether a bin passes the selection. -/
def includes : BinSelection → String → Bool
  | all, _ => true
  | named names, name => names.contains name
  | none, _ => false

/-- The bins that pass the selection. -/
def project (s : BinSelection) (bins : BinMap) : BinMap :=
  bins.filter fun name _ => s.includes name

/-- The named bins, or all of them without names. -/
def ofNames : Option (List String) → BinSelection
  | some names => named names
  | Option.none => all

theorem get?_project (s : BinSelection) (bins : BinMap) (name : String) :
    (s.project bins).get? name = if s.includes name then bins.get? name else Option.none := by
  rw [project, OrderedMap.get?_filter]
  cases bins.get? name <;> cases s.includes name <;> rfl

end BinSelection

/-- One step of a command on a record. -/
inductive Operation where
  /-- Set a bin; `null` removes it. -/
  | write (bin : Bin)
  /-- Put text or octets behind those of a bin. -/
  | append (bin : Bin)
  /-- Put text or octets in front of those of a bin. -/
  | prepend (bin : Bin)
  /-- Add to the number of a bin. -/
  | add (bin : Bin)
  /-- Give the record a new expiration. -/
  | touch
  | read (name : String)
  | readAll
  /-- Read the generation and the expiration only. -/
  | readHeader
  deriving Inhabited

namespace Operation

/-- Whether the operation changes the record. -/
def isWrite : Operation → Bool
  | write _ | append _ | prepend _ | add _ | touch => true
  | read _ | readAll | readHeader => false

def isTouch : Operation → Bool
  | touch => true
  | _ => false

/-- The bins that the reads of a command ask for. -/
def selection (ops : List Operation) : BinSelection :=
  if ops.any (fun | readAll => true | _ => false) then .all
  else match ops.filterMap fun | read name => some name | _ => none with
    | [] => .none
    | names => .named names

end Operation

end RecordGate
