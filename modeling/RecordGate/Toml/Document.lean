import RecordGate.Toml.Quoted
import RecordGate.Toml.Scalar

/-!
# TOML documents

A document is a sequence of statements, each on a line of its own but for values that run over several
lines. Every reader takes a text and returns what it read with the rest of the text, or nothing where
the text is no document. Values nest up to a bound.
-/

namespace RecordGate.Toml
set_option autoImplicit false

/-- Reads something from the front of a text. -/
abbrev Reader (α : Type) := List Char → Option (α × List Char)

/-- How deep arrays and tables in line may nest. -/
def maxNesting : Nat := 79

/-- How many names a dotted key may have. -/
def maxPathLength : Nat := 79

/-! ## Blanks and line ends -/

def isSpace (c : Char) : Bool := c == ' ' || c == '\t'

def skipSpaces (cs : List Char) : List Char := cs.dropWhile isSpace

/-- Whether a character may stand in a comment. -/
def isCommentChar (c : Char) : Bool := !isControl c

/-- Skip a comment, if one begins here. -/
def skipComment : List Char → List Char
  | '#' :: rest => rest.dropWhile isCommentChar
  | cs => cs

/-- Skip blanks, line ends and comments, as they may stand in an array. The flag tells that the text goes
on inside a comment. -/
def skipBlank : Bool → List Char → List Char
  | _, '\n' :: rest => skipBlank false rest
  | _, '\r' :: '\n' :: rest => skipBlank false rest
  | true, c :: rest => if isCommentChar c then skipBlank true rest else c :: rest
  | false, '#' :: rest => skipBlank true rest
  | false, c :: rest => if isSpace c then skipBlank false rest else c :: rest
  | _, [] => []

/-- Skip what may stand behind a statement on its line, and the line end. -/
def skipLineEnd? (cs : List Char) : Option (List Char) :=
  match skipComment (skipSpaces cs) with
  | [] => some []
  | '\n' :: rest => some rest
  | '\r' :: '\n' :: rest => some rest
  | _ => none

/-! ## Keys -/

def isBareKeyChar (c : Char) : Bool := c.isAlphanum || c == '-' || c == '_'

/-- Read one name of a key: in quotes, or of letters, digits, hyphens and underscores. -/
def readName? : Reader String := fun cs =>
  match cs with
  | '"' :: _ | '\'' :: _ => (readQuoted? cs).map fun (text, rest) => (String.ofList text, rest)
  | _ =>
    match cs.span isBareKeyChar with
    | ([], _) => none
    | (name, rest) => some (String.ofList name, rest)

/-- Read the names of a key with dots between, and blanks around them. Each name takes a step of the
bound. -/
def readNames? : Nat → Reader (List String)
  | 0, _ => none
  | n + 1, cs => do
    let (name, rest) ← readName? (skipSpaces cs)
    match skipSpaces rest with
    | '.' :: rest =>
      let (names, rest) ← readNames? n rest
      return (name :: names, rest)
    | rest => return ([name], rest)

/-- Read a key. -/
def readPath? : Reader Path := fun cs => do
  let (names, rest) ← readNames? maxPathLength cs
  return (⟨names.dropLast, names.getLastD ""⟩, rest)

/-! ## Values -/

/-- Read the items of an array up to the closing bracket; a comma may stand behind the last one. The
number bounds the items. -/
def readItems? (item : Reader Item) : Nat → Reader (List Item)
  | 0, _ => none
  | n + 1, cs =>
    match skipBlank false cs with
    | ']' :: rest => some ([], rest)
    | cs => do
      let (first, rest) ← item cs
      match skipBlank false rest with
      | ']' :: rest => return ([first], rest)
      | ',' :: rest =>
        let (others, rest) ← readItems? item n rest
        return (first :: others, rest)
      | _ => none

/-- Read an assignment. -/
def readAssignment? (item : Reader Item) : Reader (Path × Item) := fun cs => do
  let (path, rest) ← readPath? cs
  match rest with
  | '=' :: rest =>
    let (value, rest) ← item (skipSpaces rest)
    return ((path, value), rest)
  | _ => none

/-- Read the assignments of a table in line, with commas between, up to the closing brace. The number
bounds them. -/
def readAssignments? (item : Reader Item) : Nat → Reader (List (Path × Item))
  | 0, _ => none
  | n + 1, cs => do
    let (first, rest) ← readAssignment? item cs
    match skipSpaces rest with
    | '\x7d' :: rest => return ([first], rest)
    | ',' :: rest =>
      let (others, rest) ← readAssignments? item n rest
      return (first :: others, rest)
    | _ => none

/-- Read a table in line, behind its opening brace. -/
def readInLine? (item : Reader Item) : Reader Item := fun cs => do
  let (assignments, rest) ←
    match skipSpaces cs with
    | '\x7d' :: rest => some ([], rest)
    | _ => readAssignments? item (cs.length + 1) cs
  return (.table .inLine (← inLine? assignments), rest)

/-- Read a value that nests no deeper than a bound. -/
def readValue? : Nat → Reader Item
  | depth, cs =>
    match cs with
    | '"' :: _ | '\'' :: _ => (readText? cs).map fun (text, rest) => (.string (String.ofList text), rest)
    | '[' :: rest =>
      match depth with
      | 0 => none
      | depth + 1 =>
        (readItems? (readValue? depth) (rest.length + 1) rest).map fun (items, rest) =>
          (.array items, rest)
    | '\x7b' :: rest =>
      match depth with
      | 0 => none
      | depth + 1 => readInLine? (readValue? depth) rest
    | _ => readScalar? cs

/-! ## Statements -/

/-- Read a statement, up to the end of its line. -/
def readStatement? : Reader Statement := fun cs =>
  match cs with
  | '[' :: '[' :: rest => do
    let (path, rest) ← readPath? rest
    match rest with
    | ']' :: ']' :: rest => return (.rowHeader path, ← skipLineEnd? rest)
    | _ => none
  | '[' :: rest => do
    let (path, rest) ← readPath? rest
    match rest with
    | ']' :: rest => return (.header path, ← skipLineEnd? rest)
    | _ => none
  | _ => do
    let ((path, item), rest) ← readAssignment? (readValue? maxNesting) cs
    return (.assign path item, ← skipLineEnd? rest)

/-- Read statements up to the end of the text, past blank lines and comments. The number bounds the
lines. -/
def readStatements? : Nat → List Char → Option (List Statement)
  | 0, _ => none
  | n + 1, cs =>
    match skipSpaces cs with
    | [] => some []
    | cs =>
      match skipLineEnd? cs with
      | some rest => readStatements? n rest
      | none => do
        let (statement, rest) ← readStatement? cs
        return statement :: (← readStatements? n rest)

/-- The entries of a document; a byte order mark may stand in front of it. -/
def parse? (text : String) : Option Entries := do
  let cs := match text.toList with
    | '\ufeff' :: rest => rest
    | cs => cs
  build? (← readStatements? (cs.length + 1) cs)

end RecordGate.Toml
