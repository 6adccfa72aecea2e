import RecordGate.Record

/-!
# Records as the store keeps them

A stored record knows the set it was written under, when it expires, the conflicting versions that
were kept beside it, and whether an integrity check failed. Time is in epoch seconds of 32 bits.
-/

namespace RecordGate
set_option autoImplicit false

/-- The last second that a clock tells, at the end of the year 262142. -/
def lastSecond : Int := 8210266876799

/-- The time that a clock tells the store, from its epoch seconds. They are held to the range of 32 bits; a
clock before the epoch or beyond its last second tells no time. -/
def timeOf? (seconds : Int) : Option UInt32 :=
  if 0 ≤ seconds ∧ seconds ≤ lastSecond then some (UInt32.ofNat (min seconds.toNat (UInt32.size - 1)))
  else none

/-- When a record written at `now` expires; zero to live is for ever, and so is the result. -/
def expiryAt (now ttl : UInt32) : UInt32 :=
  if ttl = 0 then 0 else UInt32.ofNat (min (now.toNat + ttl.toNat) (UInt32.size - 1))

structure StoredRecord where
  setName : String := ""
  bins : BinMap := ∅
  /-- Number of writes, from one; zero for a record not yet written. -/
  generation : UInt32 := 0
  /-- Epoch seconds, zero for never. -/
  expiration : UInt32 := 0
  /-- Conflicting versions, in the order in which they were kept. -/
  duplicates : List BinMap := []
  /-- Unreadable until it is written again. -/
  corrupted : Bool := false
  deriving Inhabited

namespace StoredRecord

/-- Whether the record has expired. -/
def expiredAt (r : StoredRecord) (now : UInt32) : Bool := r.expiration != 0 && r.expiration ≤ now

/-- The estimate of the stored size in octets, with every version. -/
def size (r : StoredRecord) : Nat := r.bins.size + total (r.duplicates.map BinMap.size)

/-- The record as a reader with a selection sees it. -/
def view (r : StoredRecord) (selection : BinSelection) : Record :=
  let bins := selection.project r.bins
  { bins, generation := r.generation, expiration := r.expiration
    versions :=
      if r.duplicates.isEmpty then none
      else some (bins :: r.duplicates.map selection.project) }

end StoredRecord

end RecordGate
