import SheetQuery.Sql.Basic
import SheetQuery.TimeUnit

/-! SQL of the functions on dates. -/

namespace SheetQuery.Sql

/-- The unit of a shift; days unless a literal says otherwise. -/
def shiftUnit (args : List Operand) : ShiftUnit :=
  ((literalArg? args 2).bind ShiftUnit.ofName?).getD .day

/-- The unit of a difference; seconds unless a literal says otherwise. -/
def elapsedUnit (args : List Operand) : ElapsedUnit :=
  ((literalArg? args 2).bind ElapsedUnit.ofName?).getD .seconds

/-- The magnitude of an amount that is a literal below zero. -/
def negativeAmount? (args : List Operand) : Option Number :=
  (numberArg? args 1).bind fun n => if n.lt .zero then some n.neg else none

/-- A shift as SQLite's date modifiers write it. A week is seven days. -/
def modifierText (unit : ShiftUnit) (n : Number) : String :=
  let n := if unit = .week then n.mul (.ofNat 7) else n
  (if n.lt .zero then "-" else "+") ++ n.abs.plain ++ " " ++ unit.keyword .sqlite

/-- A date shifted by an amount of a unit. A literal amount below zero is subtracted, where the database
writes subtraction differently. -/
def dateAdd (d : Dialect) (args : List Operand) : Noted Fragment :=
  let unit := shiftUnit args
  match d with
  | .mysql => do
    let date ← arg d args 0
    match negativeAmount? args with
    | some n =>
      return "DATE_SUB(" ++ date ++ ", INTERVAL " ++ .bind (.number n) ++ (" " ++ unit.keyword d ++ ")")
    | none =>
      let amount ← groupedArg d args 1
      return "DATE_ADD(" ++ date ++ ", INTERVAL " ++ amount ++ (" " ++ unit.keyword d ++ ")")
  | .postgres => do
    let date ← arg d args 0
    let amount ← groupedArg d args 1
    return "(" ++ castTo "TIMESTAMP" date ++ " + " ++ amount
      ++ (" * INTERVAL '1 " ++ unit.keyword d ++ "')")
  | .mssql => do
    let date ← arg d args 0
    match negativeAmount? args with
    | some n =>
      return ("DATEADD(" ++ unit.keyword d ++ ", -") ++ .bind (.number n) ++ ", " ++ date ++ ")"
    | none =>
      let amount ← arg d args 1
      return ("DATEADD(" ++ unit.keyword d ++ ", ") ++ amount ++ ", " ++ date ++ ")"
  | .sqlite => do
    let date ← arg d args 0
    match numberArg? args 1 with
    | some n => return "DATETIME(" ++ date ++ ", " ++ .bind (.text (modifierText unit n)) ++ ")"
    | none =>
      let amount ← groupedArg d args 1
      let amount := if unit = .week then "(" ++ amount ++ " * 7)" else amount
      return "DATETIME(" ++ date ++ ", " ++ amount ++ (" || ' " ++ unit.keyword d ++ "')")
  | .oracle => do
    let date ← groupedArg d args 0
    let amount ← groupedArg d args 1
    return match unit with
      | .month => "ADD_MONTHS(" ++ date ++ ", " ++ amount ++ ")"
      | .year => "ADD_MONTHS(" ++ date ++ ", " ++ amount ++ " * 12)"
      | .week => "(" ++ date ++ " + NUMTODSINTERVAL(" ++ amount ++ " * 7, 'DAY'))"
      | unit => "(" ++ date ++ " + NUMTODSINTERVAL(" ++ amount ++ (", '" ++ unit.keyword d ++ "'))")

/-- A number of days in a unit of fixed length. -/
def scaledDays? (days : Fragment) : ElapsedUnit → Option Fragment
  | .milliseconds => some ("(" ++ days ++ " * 86400000)")
  | .seconds => some ("(" ++ days ++ " * 86400)")
  | .minutes => some ("(" ++ days ++ " * 1440)")
  | .hours => some ("(" ++ days ++ " * 24)")
  | .days => some days
  | .weeks => some ("(" ++ days ++ " / 7)")
  | .months | .quarters | .years => none

def formatted (pattern : String) (date : Fragment) : Fragment :=
  castTo "INTEGER" (("STRFTIME('" ++ pattern ++ "', ") ++ date ++ ")")

/-- PostgreSQL: the time between two timestamps, through seconds or through their age. -/
def timestampDiff (unit : ElapsedUnit) (finish start : Fragment) : Fragment :=
  let seconds := "EXTRACT(EPOCH FROM (" ++ finish ++ " - " ++ start ++ "))"
  let age := "AGE(" ++ finish ++ ", " ++ start ++ ")"
  let months := "(DATE_PART('year', " ++ age ++ ") * 12 + DATE_PART('month', " ++ age ++ "))"
  match unit with
  | .milliseconds => "(" ++ seconds ++ " * 1000)"
  | .seconds => seconds
  | .minutes => "(" ++ seconds ++ " / 60)"
  | .hours => "(" ++ seconds ++ " / 3600)"
  | .days => "(" ++ seconds ++ " / 86400)"
  | .weeks => "(" ++ seconds ++ " / 604800)"
  | .months => months
  | .quarters => "TRUNC(" ++ months ++ " / 3)"
  | .years => "DATE_PART('year', " ++ age ++ ")"

/-- SQLite: the time between two dates, through days or through the parts of the calendar. -/
def julianDiff (unit : ElapsedUnit) (finish start : Fragment) : Fragment :=
  let days := "(JULIANDAY(" ++ finish ++ ") - JULIANDAY(" ++ start ++ "))"
  let years := "(" ++ formatted "%Y" finish ++ " - " ++ formatted "%Y" start ++ ")"
  let months :=
    "(" ++ years ++ " * 12 + " ++ formatted "%m" finish ++ " - " ++ formatted "%m" start ++ ")"
  match scaledDays? days unit, unit with
  | some scaled, _ => scaled
  | none, .years => years
  | none, .quarters => "(" ++ months ++ " / 3)"
  | none, _ => months

/-- Oracle: the time between two dates, through days or through months. -/
def monthsDiff (unit : ElapsedUnit) (finish start : Fragment) : Fragment :=
  let months := "MONTHS_BETWEEN(" ++ finish ++ ", " ++ start ++ ")"
  match scaledDays? ("(" ++ finish ++ " - " ++ start ++ ")") unit, unit with
  | some scaled, _ => scaled
  | none, .quarters => "TRUNC(" ++ months ++ " / 3)"
  | none, .years => "TRUNC(" ++ months ++ " / 12)"
  | none, _ => "TRUNC(" ++ months ++ ")"

/-- The time from the second argument to the first. -/
def dateDiff (d : Dialect) (args : List Operand) : Noted Fragment := do
  let finish ← arg d args 0
  let start ← arg d args 1
  let unit := elapsedUnit args
  return match d with
    | .mysql =>
      let diff := ("TIMESTAMPDIFF(" ++ unit.keyword d ++ ", ") ++ start ++ ", " ++ finish ++ ")"
      if unit = .milliseconds then "(" ++ diff ++ " / 1000)" else diff
    | .postgres => timestampDiff unit (castTo "TIMESTAMP" finish) (castTo "TIMESTAMP" start)
    | .mssql => ("DATEDIFF(" ++ unit.keyword d ++ ", ") ++ start ++ ", " ++ finish ++ ")"
    | .sqlite => julianDiff unit finish start
    | .oracle => monthsDiff unit (castTo "DATE" finish) (castTo "DATE" start)

def dateText (d : Dialect) (args : List Operand) : Noted Fragment := do
  let date ← arg d args 0
  return match d with
    | .mysql => "DATE_FORMAT(" ++ date ++ ", '%Y-%m-%d')"
    | .postgres => "TO_CHAR(" ++ castTo "DATE" date ++ ", 'YYYY-MM-DD')"
    | .mssql => "CONVERT(VARCHAR(10), " ++ date ++ ", 23)"
    | .sqlite => "STRFTIME('%Y-%m-%d', " ++ date ++ ")"
    | .oracle => "TO_CHAR(" ++ date ++ ", 'YYYY-MM-DD')"

def datePart (d : Dialect) (part : ShiftUnit) (args : List Operand) : Noted Fragment := do
  let date ← arg d args 0
  let extract (source : Fragment) : Fragment := ("EXTRACT(" ++ part.keyword .oracle ++ " FROM ") ++ source ++ ")"
  return match d, part with
    | .mssql, _ => ("DATEPART(" ++ part.keyword d ++ ", ") ++ date ++ ")"
    | .sqlite, .year => formatted "%Y" date
    | .sqlite, .month => formatted "%m" date
    | .sqlite, .day => formatted "%d" date
    | .sqlite, _ => formatted "%H" date
    -- Oracle's dates have no hours to extract
    | .oracle, .hour => extract (castTo "TIMESTAMP" date)
    | .oracle, _ => extract date
    | _, _ => extract (castTo "TIMESTAMP" date)

/-- The number of the weekday as the database gives it. SQL Server's depends on a setting, which is
taken out. -/
def dayNumber (d : Dialect) (date : Fragment) : Fragment :=
  match d with
  | .mysql => "WEEKDAY(" ++ date ++ ")"
  | .postgres => "EXTRACT(ISODOW FROM " ++ castTo "TIMESTAMP" date ++ ")"
  | .mssql => "((DATEPART(WEEKDAY, " ++ date ++ ") + @@DATEFIRST + 5) % 7)"
  | .sqlite => formatted "%w" date
  | .oracle => "(TRUNC(" ++ date ++ ") - TRUNC(" ++ date ++ ", 'IW'))"

/-- The first day of the week, Monday unless a literal names another. -/
def startDay (args : List Operand) : Noted Weekday :=
  match args[1]? with
  | none => pure .mon
  | some x =>
    match x.expr.asText?.bind Weekday.ofName? with
    | some day => pure day
    | none => do
      Noted.notice .startDay
      return .mon

/-- Days since the first day of the week. -/
def weekday (d : Dialect) (args : List Operand) : Noted Fragment := do
  let date ← arg d args 0
  let start ← startDay args
  let day := dayNumber d date
  let shifted := match d.weekShift start with
    | 0 => day
    | k => "(" ++ day ++ (" + " ++ toString k ++ ")")
  return if d.needsWeekShift start then groupedRemainder d shifted "7" else day

end SheetQuery.Sql
