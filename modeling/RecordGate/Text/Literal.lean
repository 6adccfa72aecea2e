import RecordGate.Text.Shown

/-!
# String literals

A literal is in double quotes. Quotes, backslashes, tabs, line ends and zero are escaped by a letter of
their own, and every other character that does not show by its number.
-/

namespace RecordGate.Text
set_option autoImplicit false

/-- A character by its number. -/
def numbered (c : Char) : List Char :=
  "\\u\x7b".toList ++ Nat.toDigits 16 c.toNat ++ ['\x7d']

/-- A character inside a literal. -/
def escaped (c : Char) : List Char :=
  match c with
  | '\x00' => ['\\', '0']
  | '\t' => ['\\', 't']
  | '\n' => ['\\', 'n']
  | '\r' => ['\\', 'r']
  | '"' => ['\\', '"']
  | '\\' => ['\\', '\\']
  | c => if isShown c then [c] else numbered c

/-- The literal of a string. -/
def literal (s : String) : String :=
  String.ofList ('"' :: s.toList.flatMap escaped ++ ['"'])

end RecordGate.Text
