import RecordGate.Value

/-!
# Equality of values

Values of different types differ, `1` and `1.0` among them, and floats are compared as numbers. Two
nested maps are equal when they have equally many entries and each entry of the first has an equal
one in the second.
-/

namespace RecordGate.Value
set_option autoImplicit false

mutual
/-- Equality as callers see it: a float that is not a number equals nothing. -/
def equals : Value → Value → Bool
  | null, null => true
  | bool a, bool b => a == b
  | int a, int b => a == b
  | float a, float b => a.eq b
  | string a, string b => a == b
  | bytes a, bytes b => a == b
  | list as, list bs => equalsAll as bs
  | map as f, map bs g =>
    as.size == bs.size && (List.finRange as.size).all fun i =>
      match bs.position? (as.name i) with
      | some j => (f i).equals (g j)
      | none => false
  | _, _ => false

/-- Lists are equal item by item. -/
def equalsAll : List Value → List Value → Bool
  | [], [] => true
  | a :: as, b :: bs => a.equals b && equalsAll as bs
  | _, _ => false
end

end RecordGate.Value
