import RecordGate.Binary64

/-!
# JSON

The tree of a JSON text. Some texts are well-formed and still stand for nothing: a number beyond all
floats, or a string with half of a surrogate pair. They may be passed over but not used.
-/

namespace RecordGate
set_option autoImplicit false

inductive Json where
  | null
  | bool (b : Bool)
  /-- A whole number from `-2 ^ 63` below `2 ^ 64`, other than a negative zero. -/
  | integer (i : Int)
  | float (x : Binary64)
  | string (s : String)
  | array (items : List Json)
  /-- The members in the order of the text; a name may be unusable. -/
  | object (members : List (Option String × Json))
  | unusable

namespace Json

instance : Inhabited Json := ⟨null⟩

/-- An object whose names are usable. -/
def ofMembers (members : List (String × Json)) : Json :=
  object (members.map fun m => (some m.1, m.2))

/-- The first member of a name. -/
def member? (j : Json) (name : String) : Option Json :=
  match j with
  | object members => members.lookup (some name)
  | _ => none

end Json

end RecordGate
