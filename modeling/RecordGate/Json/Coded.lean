import RecordGate.Json.Reader
import RecordGate.Value

/-!
# JSON forms of values

A choice among alternatives is a string where the alternative holds nothing, and else an object whose one
member names it. Texts that nest too deep are refused; what is passed over may nest as deep as it likes.
-/

namespace RecordGate
set_option autoImplicit false

/-- Types with a JSON form. Reading takes the depth to which the form may nest. -/
class JsonCoded (α : Type) where
  toJson : α → Json
  ofJson? : Nat → Json → Option α

namespace Json

/-- How deep a form may nest. -/
def maxDepth : Nat := 127

/-- The value of a JSON text. -/
def decode? (α : Type) [JsonCoded α] (text : String) : Option α :=
  (parse? text).bind (JsonCoded.ofJson? maxDepth)

def bool? : Json → Option Bool
  | bool b => some b
  | _ => none

def string? : Json → Option String
  | string s => some s
  | _ => none

/-- A whole number from `lo` below `hi`. -/
def integerWithin? (lo hi : Int) : Json → Option Int
  | integer i => if lo ≤ i ∧ i < hi then some i else none
  | _ => none

def int64? (j : Json) : Option Int64 :=
  (j.integerWithin? (-0x8000000000000000) 0x8000000000000000).map Int64.ofInt

def uint32? (j : Json) : Option UInt32 :=
  (j.integerWithin? 0 UInt32.size).map fun i => UInt32.ofNat i.toNat

def uint16? (j : Json) : Option UInt16 :=
  (j.integerWithin? 0 UInt16.size).map fun i => UInt16.ofNat i.toNat

def uint8? (j : Json) : Option UInt8 :=
  (j.integerWithin? 0 UInt8.size).map fun i => UInt8.ofNat i.toNat

/-- The float nearest to a whole number of 64 bits. -/
def nearestFloat (i : Int) : Binary64 :=
  let x := (UInt64.ofNat i.natAbs).toFloat
  .ofFloat (if i < 0 then -x else x)

/-- A number, whole or not. -/
def float? : Json → Option Binary64
  | integer i => some (nearestFloat i)
  | float x => some x
  | _ => none

def ofBytes (b : List UInt8) : Json := array (b.map fun x => integer x.toNat)

/-- The items of an array, one level down. -/
def items? {α : Type} (item? : Nat → Json → Option α) : Nat → Json → Option (List α)
  | depth + 1, array items => items.mapM (item? depth)
  | _, _ => none

/-- Octets, as an array of numbers. -/
def bytes? : Nat → Json → Option (List UInt8) := items? fun _ => uint8?

/-- The members of an object, one level down, under names that are usable. -/
def members? {α : Type} (value? : Nat → Json → Option α) : Nat → Json → Option (List (String × α))
  | depth + 1, object members => members.mapM fun m => do return (← m.1, ← value? depth m.2)
  | _, _ => none

end Json

namespace Value

/-- A form that names the type of the value. -/
def tagged (tag : String) (content : Json) : Json := .ofMembers [(tag, content)]

mutual
/-- The JSON form of a value. -/
def toJson : Value → Json
  | null => .string "Null"
  | bool b => tagged "Bool" (.bool b)
  | int i => tagged "Int" (.integer i.toInt)
  | float x => tagged "Float" (.float x)
  | string s => tagged "String" (.string s)
  | bytes b => tagged "Bytes" (Json.ofBytes b)
  | list items => tagged "List" (.array (toJsonAll items))
  | map names value =>
    tagged "Map" (.ofMembers (List.ofFn fun i => (names.name i, (value i).toJson)))

/-- The JSON forms of the items of a list. -/
def toJsonAll : List Value → List Json
  | [] => []
  | v :: vs => v.toJson :: toJsonAll vs
end

/-- The value of a JSON form. -/
def ofJson? : Nat → Json → Option Value
  | _, .string "Null" => some null
  | depth + 1, .object [(some tag, content)] =>
    match tag with
    | "Null" =>
      match content with
      | .null => some null
      | _ => none
    | "Bool" => content.bool?.map bool
    | "Int" => content.int64?.map int
    | "Float" => content.float?.map float
    | "String" => content.string?.map string
    | "Bytes" => (content.bytes? depth).map bytes
    | "List" =>
      match depth, content with
      | depth + 1, .array items => (items.mapM (ofJson? depth)).map list
      | _, _ => none
    | "Map" =>
      match depth, content with
      | depth + 1, .object members => do
        let entries ← members.mapM fun m => do return (← m.1, ← ofJson? depth m.2)
        return ofMap (.ofList entries)
      | _, _ => none
    | _ => none
  | _, _ => none

instance : JsonCoded Value := ⟨toJson, ofJson?⟩

end Value

end RecordGate
