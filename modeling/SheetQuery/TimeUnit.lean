import SheetQuery.Calendar
import SheetQuery.Dialect

/-! Units of time: those that dates are shifted by and those that differences are counted in, with the
keywords of each dialect; and how each dialect numbers the days of the week. -/

namespace SheetQuery

inductive ShiftUnit
  | second
  | minute
  | hour
  | day
  | week
  | month
  | year
deriving DecidableEq, Repr, Inhabited

namespace ShiftUnit

def names : List String := ["day", "week", "month", "year", "hour", "minute", "second"]

/-- A unit's name in the singular or with one `s`, in any case and trimmed. -/
def ofName? (name : String) : Option ShiftUnit :=
  match Text.dropLast 's' (Text.asciiLower (Text.trim name)) with
  | "second" => some second
  | "minute" => some minute
  | "hour" => some hour
  | "day" => some day
  | "week" => some week
  | "month" => some month
  | "year" => some year
  | _ => none

def label : ShiftUnit → String
  | second => "Second"
  | minute => "Minute"
  | hour => "Hour"
  | day => "Day"
  | week => "Week"
  | month => "Month"
  | year => "Year"

/-- The keyword of the unit in a dialect's date arithmetic. SQLite has no weeks and counts them in
days. -/
def keyword (unit : ShiftUnit) : Dialect → String
  | .mysql | .oracle =>
    match unit with
    | second => "SECOND"
    | minute => "MINUTE"
    | hour => "HOUR"
    | day => "DAY"
    | week => "WEEK"
    | month => "MONTH"
    | year => "YEAR"
  | .postgres | .mssql =>
    match unit with
    | second => "second"
    | minute => "minute"
    | hour => "hour"
    | day => "day"
    | week => "week"
    | month => "month"
    | year => "year"
  | .sqlite =>
    match unit with
    | second => "seconds"
    | minute => "minutes"
    | hour => "hours"
    | day | week => "days"
    | month => "months"
    | year => "years"

end ShiftUnit

inductive ElapsedUnit
  | milliseconds
  | seconds
  | minutes
  | hours
  | days
  | weeks
  | months
  | quarters
  | years
deriving DecidableEq, Repr, Inhabited

namespace ElapsedUnit

/-- A unit's short form, where case tells minutes from months, or its name in the singular or with one
`s`, in any case; both trimmed. -/
def ofName? (name : String) : Option ElapsedUnit :=
  let name := Text.trim name
  match name with
  | "ms" => some milliseconds
  | "s" => some seconds
  | "m" => some minutes
  | "h" => some hours
  | "d" => some days
  | "w" => some weeks
  | "M" => some months
  | "Q" => some quarters
  | "y" => some years
  | _ =>
    match Text.dropLast 's' (Text.asciiLower name) with
    | "millisecond" => some milliseconds
    | "second" => some seconds
    | "minute" => some minutes
    | "hour" => some hours
    | "day" => some days
    | "week" => some weeks
    | "month" => some months
    | "quarter" => some quarters
    | "year" => some years
    | _ => none

def label : ElapsedUnit → String
  | milliseconds => "Milliseconds"
  | seconds => "Seconds"
  | minutes => "Minutes"
  | hours => "Hours"
  | days => "Days"
  | weeks => "Weeks"
  | months => "Months"
  | quarters => "Quarters"
  | years => "Years"

def seconds? : ElapsedUnit → Option Number
  | milliseconds => some (.ofRatio false 1 1000)
  | seconds => some (.ofNat 1)
  | minutes => some (.ofNat 60)
  | hours => some (.ofNat 3600)
  | days => some (.ofNat 86400)
  | weeks => some (.ofNat 604800)
  | months | quarters | years => none

/-- The keyword of the unit in a dialect's function for differences. -/
def keyword (unit : ElapsedUnit) : Dialect → String
  | .mssql =>
    match unit with
    | milliseconds => "millisecond"
    | seconds => "second"
    | minutes => "minute"
    | hours => "hour"
    | days => "day"
    | weeks => "week"
    | months => "month"
    | quarters => "quarter"
    | years => "year"
  | _ =>
    match unit with
    | milliseconds => "MICROSECOND"
    | seconds => "SECOND"
    | minutes => "MINUTE"
    | hours => "HOUR"
    | days => "DAY"
    | weeks => "WEEK"
    | months => "MONTH"
    | quarters => "QUARTER"
    | years => "YEAR"

end ElapsedUnit

/-- How a dialect's own weekday expression numbers the days: `first` gets the number `base` and each day
after it one more. -/
structure WeekNumbering where
  first : Weekday
  base : Nat
deriving DecidableEq, Repr, Inhabited

namespace Dialect

def weekNumbering : Dialect → WeekNumbering
  | mysql | mssql | oracle => ⟨.mon, 0⟩
  | postgres => ⟨.mon, 1⟩
  | sqlite => ⟨.sun, 0⟩

/-- The `k` for which `(native + k) % 7` is 0 on the day `start`. -/
def weekShift (d : Dialect) (start : Weekday) : Nat :=
  (d.weekNumbering.first.daysFromMonday + 14 - start.daysFromMonday - d.weekNumbering.base) % 7

/-- Whether the native number has to be shifted or taken modulo 7 at all. -/
def needsWeekShift (d : Dialect) (start : Weekday) : Bool :=
  d.weekShift start != 0 || d.weekNumbering.base != 0

end Dialect

end SheetQuery
