/-!
# TOML values and tables

Tables are built up from statements. A table is stated by a header, implied by a header further in,
made by a dotted key, or written in line; which of them it is decides whether later statements may add
to it. No statement may define a key twice.
-/

namespace RecordGate.Toml
set_option autoImplicit false

/-- How a table came to be. -/
inductive TableKind where
  /-- By its own header. -/
  | stated
  /-- By a header further in. -/
  | implied
  /-- By a dotted key. -/
  | dotted
  /-- Between braces. -/
  | inLine
  deriving DecidableEq, Inhabited

/-- A value. Of floats and dates only the text is kept. -/
inductive Item where
  | string (s : String)
  | integer (i : Int)
  | boolean (b : Bool)
  | float (text : String)
  | date (text : String)
  | array (items : List Item)
  | table (kind : TableKind) (entries : List (String × Item))
  /-- The tables of a repeated header. -/
  | tables (rows : List (List (String × Item)))
  deriving Inhabited

abbrev Entries := List (String × Item)

namespace Entries

/-- Put an item in the place of a key that is there. -/
def replace (key : String) (item : Item) (es : Entries) : Entries :=
  es.map fun e => if e.1 == key then (key, item) else e

/-- Add a key that is not there. -/
def add? (key : String) (item : Item) (es : Entries) : Option Entries :=
  if (es.lookup key).isSome then none else some (es ++ [(key, item)])

/-- Change the table at the end of a path, and make the tables on the way that are missing. A dotted
path makes dotted tables and does not lead through a table that was stated; the path of a header makes
implied ones. A path through repeated tables leads to the latest of them. -/
def alter? (dotted : Bool) (change : TableKind → Entries → Option Entries) :
    List String → TableKind → Entries → Option Entries
  | [], kind, es => change kind es
  | key :: path, _, es =>
    match es.lookup key with
    | none =>
      let kind := if dotted then TableKind.dotted else .implied
      (alter? dotted change path kind []).map fun sub => es ++ [(key, .table kind sub)]
    | some (.table kind sub) =>
      if kind = .inLine ∨ (dotted = true ∧ kind = .stated) then none
      else (alter? dotted change path kind sub).map fun sub => es.replace key (.table kind sub)
    | some (.tables rows) =>
      match rows.getLast? with
      | none => none
      | some row =>
        (alter? dotted change path .stated row).map fun row =>
          es.replace key (.tables (rows.dropLast ++ [row]))
    | some _ => none

/-- Assign an item to a dotted key. A key with dots ends in a table that dotted keys made. -/
def assign? (path : List String) (key : String) (item : Item) (kind : TableKind) (es : Entries) :
    Option Entries :=
  alter? true
    (fun kind es => if path.isEmpty || kind == .dotted then es.add? key item else none) path kind es

/-- Open the table of a header. -/
def openTable? (key : String) (es : Entries) : Option Entries :=
  match es.lookup key with
  | none => some (es ++ [(key, .table .stated [])])
  | some (.table .implied sub) => some (es.replace key (.table .stated sub))
  | some _ => none

/-- Open one more table of a repeated header. -/
def openRow? (key : String) (es : Entries) : Option Entries :=
  match es.lookup key with
  | none => some (es ++ [(key, .tables [[]])])
  | some (.tables rows) => some (es.replace key (.tables (rows ++ [[]])))
  | some _ => none

end Entries

/-- A key: the names in front of the dots, and the last one. -/
structure Path where
  init : List String
  last : String
  deriving DecidableEq, Inhabited

def Path.names (p : Path) : List String := p.init ++ [p.last]

/-- A statement of a document. -/
inductive Statement where
  | assign (path : Path) (item : Item)
  | header (path : Path)
  | rowHeader (path : Path)

/-- A document while it is read: its tables, and the names of the table that assignments go to. -/
structure Draft where
  entries : Entries := []
  here : List String := []

/-- The document after one more statement, unless that defines something twice. -/
def Draft.add? (d : Draft) : Statement → Option Draft
  | .assign path item =>
    (d.entries.alter? false (fun kind es => es.assign? path.init path.last item kind) d.here .stated).map
      fun entries => { d with entries }
  | .header path =>
    (d.entries.alter? false (fun _ es => es.openTable? path.last) path.init .stated).map
      fun entries => { entries, here := path.names }
  | .rowHeader path =>
    (d.entries.alter? false (fun _ es => es.openRow? path.last) path.init .stated).map
      fun entries => { entries, here := path.names }

/-- The entries that statements make. -/
def build? (statements : List Statement) : Option Entries :=
  (statements.foldlM Draft.add? {}).map (·.entries)

/-- The entries of a table in line. -/
def inLine? (assignments : List (Path × Item)) : Option Entries :=
  assignments.foldlM (fun es a => es.assign? a.1.init a.1.last a.2 .stated) []

end RecordGate.Toml
