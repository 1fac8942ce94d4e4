import SheetQuery.Number.Decimal
import SheetQuery.Text.Blank
import SheetQuery.Text.Numeral

/-! Dates written in formulas, and the days of the week. Dates are Gregorian in all years, and year 0 is
one of them. -/

namespace SheetQuery.Calendar

/-- Whether a text starts like `2024-02-29`, with decimal digits of any script. -/
def hasDateShape (s : String) : Bool :=
  match s.toList with
  | y₁ :: y₂ :: y₃ :: y₄ :: '-' :: m₁ :: m₂ :: '-' :: d₁ :: d₂ :: _ =>
    [y₁, y₂, y₃, y₄, m₁, m₂, d₁, d₂].all Text.isDecimalDigit
  | _ => false

def isLeapYear (year : Nat) : Bool :=
  year % 4 == 0 && (year % 100 != 0 || year % 400 == 0)

def daysInMonth (year month : Nat) : Nat :=
  match month with
  | 2 => if isLeapYear year then 29 else 28
  | 4 | 6 | 9 | 11 => 30
  | _ => 31

def isDate (year month day : Nat) : Bool :=
  1 ≤ month && month ≤ 12 && 1 ≤ day && day ≤ daysInMonth year month

def beginsWithDate (s : String) : Bool :=
  match s.toList with
  | y₁ :: y₂ :: y₃ :: y₄ :: '-' :: m₁ :: m₂ :: '-' :: d₁ :: d₂ :: _ =>
    [y₁, y₂, y₃, y₄, m₁, m₂, d₁, d₂].all Char.isDigit &&
      isDate (Number.digitsValue [y₁, y₂, y₃, y₄]) (Number.digitsValue [m₁, m₂])
        (Number.digitsValue [d₁, d₂])
  | _ => false

end SheetQuery.Calendar

namespace SheetQuery

inductive Weekday
  | mon
  | tue
  | wed
  | thu
  | fri
  | sat
  | sun
deriving DecidableEq, Repr, Inhabited

namespace Weekday

def daysFromMonday : Weekday → Nat
  | mon => 0
  | tue => 1
  | wed => 2
  | thu => 3
  | fri => 4
  | sat => 5
  | sun => 6

def label : Weekday → String
  | mon => "Mon"
  | tue => "Tue"
  | wed => "Wed"
  | thu => "Thu"
  | fri => "Fri"
  | sat => "Sat"
  | sun => "Sun"

/-- A day's English name or its first three letters, in any case and trimmed. -/
def ofName? (name : String) : Option Weekday :=
  match Text.asciiLower (Text.trim name) with
  | "mon" | "monday" => some mon
  | "tue" | "tuesday" => some tue
  | "wed" | "wednesday" => some wed
  | "thu" | "thursday" => some thu
  | "fri" | "friday" => some fri
  | "sat" | "saturday" => some sat
  | "sun" | "sunday" => some sun
  | _ => none

end Weekday

end SheetQuery
