import RecordGate.Log.Level

/-!
# Lines of the standard sink

A line is the time, the thread in brackets, the level and the message. The time is the date and time of
day in the proleptic Gregorian calendar, to the millisecond.
-/

namespace RecordGate
set_option autoImplicit false

/-- A line of the standard sink. -/
def formatLine (timestamp thread : String) (level : LogLevel) (message : String) : String :=
  s!"{timestamp} [{thread}] {level} {message}"

/-- A day of the proleptic Gregorian calendar. -/
structure Date where
  year : Int
  month : Nat
  day : Nat
  deriving DecidableEq

namespace Date

/-- The date that lies a number of days after the first of January 1970. Years are counted from March,
so that the leap day is the last of its year; four centuries have 146097 days. -/
def ofEpochDay (n : Int) : Date :=
  let shifted := n + 719468
  let era := shifted / 146097
  let dayOfEra := (shifted % 146097).toNat
  let yearOfEra := (dayOfEra - dayOfEra / 1460 + dayOfEra / 36524 - dayOfEra / 146096) / 365
  let dayOfYear := dayOfEra - (365 * yearOfEra + yearOfEra / 4 - yearOfEra / 100)
  let fromMarch := (5 * dayOfYear + 2) / 153
  let month := if fromMarch < 10 then fromMarch + 3 else fromMarch - 9
  { year := era * 400 + yearOfEra + (if month ≤ 2 then 1 else 0)
    month
    day := dayOfYear - (153 * fromMarch + 2) / 5 + 1 }

/-- The short name of the month. -/
def monthName (d : Date) : String :=
  ["Jan", "Feb", "Mar", "Apr", "May", "Jun", "Jul", "Aug", "Sep", "Oct", "Nov", "Dec"].getD
    (d.month - 1) ""

end Date

/-- A number with zeros in front, up to a width. -/
def zeroPadded (width n : Nat) : String :=
  let digits := toString n
  String.ofList (List.replicate (width - digits.length) '0') ++ digits

/-- Four digits for the years up to 9999; others have a sign and at least four digits. -/
def yearText (year : Int) : String :=
  if 0 ≤ year ∧ year ≤ 9999 then zeroPadded 4 year.toNat
  else (if year < 0 then "-" else "+") ++ zeroPadded 4 year.natAbs

/-- The text of a time, given in epoch seconds and nanoseconds. -/
def timestamp (seconds : Int) (nanos : Nat) : String :=
  let date := Date.ofEpochDay (seconds / 86400)
  let ofDay := (seconds % 86400).toNat
  let two := zeroPadded 2
  s!"{date.monthName} {two date.day} {yearText date.year} " ++
    s!"{two (ofDay / 3600)}:{two (ofDay / 60 % 60)}:{two (ofDay % 60)}." ++
    s!"{zeroPadded 3 (nanos / 1000000)} UTC"

end RecordGate
