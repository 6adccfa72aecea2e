import RecordGate.OrderedMap
import RecordGate.Binary64

/-!
# Bin values

The values that bins hold: scalars, octets, and nested lists and maps. A nested map is its names in
ascending order with a value for each, so that a map has one representation and no name twice.
`Value.induction` is the induction principle that goes through list items and map values.
-/

namespace RecordGate
set_option autoImplicit false

/-- Distinct names in ascending order. -/
structure NameSet where
  names : List String
  ascending : names.Pairwise (· < ·)
  deriving DecidableEq

namespace NameSet

def size (s : NameSet) : Nat := s.names.length

/-- The name at a position. -/
def name (s : NameSet) (i : Fin s.size) : String := s.names.get i

/-- The position of a name. -/
def position? (s : NameSet) (name : String) : Option (Fin s.size) :=
  s.names.finIdxOf? name

end NameSet

/-- A value of a bin. -/
inductive Value where
  | null
  | bool (b : Bool)
  | int (i : Int64)
  | float (x : Binary64)
  | string (s : String)
  | bytes (b : List UInt8)
  | list (items : List Value)
  | map (names : NameSet) (value : Fin names.size → Value)

/-- Bins by name. -/
abbrev BinMap := OrderedMap String Value

/-- The sum of some numbers. -/
def total (ns : List Nat) : Nat := ns.foldr (· + ·) 0

namespace Value

instance : Inhabited Value := ⟨null⟩

/-- Induction through the items of lists and the values of maps. -/
@[induction_eliminator]
theorem induction {motive : Value → Prop} (null : motive .null)
    (bool : ∀ b, motive (.bool b)) (int : ∀ i, motive (.int i)) (float : ∀ x, motive (.float x))
    (string : ∀ s, motive (.string s)) (bytes : ∀ b, motive (.bytes b))
    (list : ∀ items, (∀ v ∈ items, motive v) → motive (.list items))
    (map : ∀ names value, (∀ i, motive (value i)) → motive (.map names value))
    (v : Value) : motive v :=
  Value.rec (motive_1 := motive) (motive_2 := fun items => ∀ v ∈ items, motive v)
    null bool int float string bytes list map (by simp)
    (fun v vs hv hvs w hw => by
      rcases List.mem_cons.1 hw with rfl | hw
      · exact hv
      · exact hvs w hw) v

/-- The entries of a nested map, in ascending order of names. -/
def entries (names : NameSet) (value : Fin names.size → Value) : List (String × Value) :=
  List.ofFn fun i => (names.name i, value i)

theorem map_fst_entries (names : NameSet) (value : Fin names.size → Value) :
    (entries names value).map (·.1) = names.names := by
  apply List.ext_getElem
  · simp [entries, NameSet.size]
  · intro i h1 h2
    simp only [entries, NameSet.name, List.getElem_map, List.getElem_ofFn]
    rfl

/-- The bins of a nested map. -/
def binsOf (names : NameSet) (value : Fin names.size → Value) : BinMap where
  entries := entries names value
  ascending := by
    have := names.ascending
    rw [← map_fst_entries names value, List.pairwise_map] at this
    exact this

/-- The value that nests the given bins. -/
def ofMap (m : BinMap) : Value :=
  .map ⟨m.entries.map (·.1), List.pairwise_map.2 m.ascending⟩
    fun i => (m.entries.get (i.cast (by simp [NameSet.size]))).2

/-- The name of a value's type. -/
def typeName : Value → String
  | null => "Null"
  | bool _ => "Bool"
  | int _ => "Int"
  | float _ => "Float"
  | string _ => "String"
  | bytes _ => "Bytes"
  | list _ => "List"
  | map .. => "Map"

def isNull : Value → Bool
  | null => true
  | _ => false

def asInt? : Value → Option Int64
  | int i => some i
  | _ => none

def asFloat? : Value → Option Binary64
  | float x => some x
  | _ => none

def asString? : Value → Option String
  | string s => some s
  | _ => none

def asBytes? : Value → Option (List UInt8)
  | bytes b => some b
  | _ => none

def asList? : Value → Option (List Value)
  | list items => some items
  | _ => none

def asMap? : Value → Option BinMap
  | map names value => some (binsOf names value)
  | _ => none

mutual
/-- The estimate of a value's encoded size in octets that record limits are checked against. -/
def size : Value → Nat
  | null => 1
  | bool _ => 2
  | int _ => 9
  | float _ => 9
  | string s => 1 + s.utf8ByteSize
  | bytes b => 1 + b.length
  | list items => 5 + sizeSum items
  | map names value => 5 + total (List.ofFn fun i => (names.name i).utf8ByteSize + 1 + (value i).size)

/-- The sizes of the items of a list, together. -/
def sizeSum : List Value → Nat
  | [] => 0
  | v :: vs => v.size + sizeSum vs
end

theorem size_pos (v : Value) : 0 < v.size := by
  cases v <;> rw [size] <;> omega

end Value

/-- The size of a record's bins: the octets of each name and of its value. -/
def BinMap.size (m : BinMap) : Nat :=
  total (m.entries.map fun e => e.1.utf8ByteSize + e.2.size)

end RecordGate
