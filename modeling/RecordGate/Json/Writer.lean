import RecordGate.Hex
import RecordGate.Json

/-!
# Writing JSON

The text of a tree is as short as can be: no blanks, and in strings only quotes, backslashes and control
characters are escaped. Floats have no text here.
-/

namespace RecordGate.Json
set_option autoImplicit false

/-- A character inside a string. -/
def escaped (c : Char) : List Char :=
  match c with
  | '"' => ['\\', '"']
  | '\\' => ['\\', '\\']
  | '\x08' => ['\\', 'b']
  | '\x0c' => ['\\', 'f']
  | '\n' => ['\\', 'n']
  | '\r' => ['\\', 'r']
  | '\t' => ['\\', 't']
  | c => if c.toNat < 0x20 then '\\' :: 'u' :: '0' :: '0' :: Hex.octet (UInt8.ofNat c.toNat) else [c]

/-- The text of a string, in quotes. -/
def quote (s : String) : List Char := '"' :: s.toList.flatMap escaped ++ ['"']

/-- Texts with commas between them. -/
def separated : List (List Char) → List Char := List.intercalate [',']

mutual
/-- The text of a tree, as characters. -/
def chars? : Json → Option (List Char)
  | null => some "null".toList
  | bool b => some (if b then "true" else "false").toList
  | integer i => some (toString i).toList
  | string s => some (quote s)
  | array items => do return '[' :: separated (← itemChars? items) ++ [']']
  | object members => do return '\x7b' :: separated (← memberChars? members) ++ ['\x7d']
  | float _ | unusable => none

/-- The texts of the items of an array. -/
def itemChars? : List Json → Option (List (List Char))
  | [] => some []
  | item :: rest => do return (← chars? item) :: (← itemChars? rest)

/-- The texts of the members of an object. -/
def memberChars? : List (Option String × Json) → Option (List (List Char))
  | [] => some []
  | (some name, value) :: rest => do
    return (quote name ++ ':' :: (← chars? value)) :: (← memberChars? rest)
  | (none, _) :: _ => none
end

/-- The text of a tree, if it holds no float and nothing unusable. -/
def text? (j : Json) : Option String := j.chars?.map String.ofList

end RecordGate.Json
