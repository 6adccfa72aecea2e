import RecordGate.Gate.Error
import RecordGate.Host
import RecordGate.Text.Blank

/-!
# Host entries

A host is entered as `name`, `name:port`, `[address]` or `[address]:port`, with blanks at either end.
The brackets are needed where the name has colons of its own.
-/

namespace RecordGate
set_option autoImplicit false

/-- The port of an entry without one. -/
def defaultPort : UInt16 := 3000

/-- The number that decimal digits spell. -/
def decimal (digits : List Char) : Nat :=
  digits.foldl (fun n c => 10 * n + (c.toNat - '0'.toNat)) 0

/-- A port text: decimal digits, at least one, perhaps with a plus in front. -/
def parsePort? (cs : List Char) : Option UInt16 :=
  let digits := match cs with
    | '+' :: rest => rest
    | _ => cs
  if digits.isEmpty || !digits.all Char.isDigit then none
  else if decimal digits < UInt16.size then some (UInt16.ofNat (decimal digits))
  else none

/-- The host of an entry's parts; the port is looked at before the name. -/
def Host.ofParts (entry name : List Char) (port : Option UInt16) : Except ConfigProblem Host :=
  match port with
  | none => .error (.invalidPort (String.ofList entry))
  | some port =>
    if name.isEmpty then .error (.emptyName (String.ofList entry))
    else .ok ⟨String.ofList name, port⟩

/-- The host of an entry without blanks at its ends. -/
def Host.parseTrimmed (entry : List Char) : Except ConfigProblem Host :=
  match entry with
  | '[' :: rest =>
    match Text.splitAt? ']' rest with
    | none => .error (.openBracket (String.ofList entry))
    | some (name, []) => Host.ofParts entry name (some defaultPort)
    | some (name, ':' :: port) => Host.ofParts entry name (parsePort? port)
    | some (name, _) => Host.ofParts entry name none
  | _ =>
    match Text.splitAt? ':' entry with
    | none => Host.ofParts entry entry (some defaultPort)
    | some (name, port) =>
      if port.contains ':' then .error (.bareAddress (String.ofList entry))
      else Host.ofParts entry name (parsePort? port)

/-- The host of an entry. -/
def Host.parse (entry : String) : Except ConfigProblem Host :=
  Host.parseTrimmed (Text.trim entry.toList)

end RecordGate
