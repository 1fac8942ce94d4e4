import SheetQuery.Number.Basic

/-! The shortest decimal that reads back as a given number, and of those the nearest to it.

The reals that round to a number form an interval around it, ends included if the significand is even.
For one digit, two digits and so on, the two neighbours of the number among the decimals with that many
digits are tried; the first length with a neighbour in the interval wins. -/

namespace SheetQuery.Number

attribute [local instance (high)] instPowNat

/-- The value `digits * 10 ^ exponent`. -/
structure Decimal where
  digits : Nat
  exponent : Int
deriving DecidableEq, Repr, Inhabited

/-- Where a number goes that lies half-way between its two neighbours. -/
inductive Tie
  | up
  | even
deriving DecidableEq, Repr

/-- The interval of reals that round to a finite number, in quarters of a unit. -/
structure Interval where
  low : Nat
  mid : Nat
  high : Nat
  closed : Bool
deriving Repr

def interval (n : Number) : Interval :=
  let step := 2 ^ n.exponent
  -- below a power of two the next number is half as far as above it
  let below := if n.significand = 2 ^ (52 : Nat) ∧ 0 < n.exponent then step else 2 * step
  { low := 4 * n.units - below
    mid := 4 * n.units
    high := 4 * n.units + 2 * step
    closed := n.significand % 2 == 0 }

def digitCount (n : Nat) : Nat := (Nat.toDigits 10 n).length

/-- The exponent of the leading decimal digit of a finite number that is not zero. -/
def leadingExponent (n : Number) : Int :=
  (digitCount (n.units * 10 ^ (400 : Nat) / unitsPerOne) : Int) - 401

/-- The nearest of the decimals `d * 10 ^ exponent` that lie in the interval, if one does. -/
def nearestInside? (tie : Tie) (i : Interval) (exponent : Int) : Option Nat :=
  -- one grid step is `grid` and the interval is scaled by `scale`, both exact
  let grid := 4 * unitsPerOne * 10 ^ exponent.toNat
  let scale := 10 ^ (-exponent).toNat
  let inside (d : Nat) : Bool :=
    if i.closed then i.low * scale ≤ d * grid && d * grid ≤ i.high * scale
    else i.low * scale < d * grid && d * grid < i.high * scale
  let d := i.mid * scale / grid
  let twice := 2 * (i.mid * scale % grid)
  match inside d, inside (d + 1) with
  | true, true =>
    if twice < grid then some d
    else if grid < twice then some (d + 1)
    else match tie with
      | .up => some (d + 1)
      | .even => some (d + d % 2)
  | true, false => some d
  | false, true => some (d + 1)
  | false, false => none

/-- The shortest decimal of a finite number that is not zero. Seventeen digits always suffice. -/
def shortest (tie : Tie) (n : Number) : Decimal :=
  let i := n.interval
  let lead := n.leadingExponent
  let found := (List.range 17).findSome? fun (k : Nat) =>
    (nearestInside? tie i (lead - k)).map fun d =>
      -- rounding up may reach the next power of ten
      if d = 10 ^ (k + 1) then ⟨1, lead + 1⟩ else ⟨d, lead - k⟩
  found.getD ⟨0, 0⟩

end SheetQuery.Number
