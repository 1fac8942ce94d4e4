/-! Numbers are the binary64 values of IEEE 754, as exact data: a sign and the rank of the magnitude in
the increasing list of all magnitudes. Rank 0 is zero, rank 1 the least positive value, and the ranks
above that of infinity stand for "not a number". A finite magnitude is a whole number of units, the
unit being the least positive value `2 ^ -1074`, so all arithmetic below is on natural numbers. -/

namespace SheetQuery

-- powers of numbers are meant, whatever other powers are in scope
attribute [local instance (high)] instPowNat

structure Number where
  negative : Bool
  rank : Nat
deriving DecidableEq, Repr, Inhabited

namespace Number

def infinityRank : Nat := 2047 * 2 ^ (52 : Nat)

def unitsPerOne : Nat := 2 ^ (1074 : Nat)

def zero : Number := ⟨false, 0⟩

def infinity : Number := ⟨false, infinityRank⟩

def nan : Number := ⟨false, infinityRank + 1⟩

def isNaN (n : Number) : Bool := infinityRank < n.rank

def isFinite (n : Number) : Bool := n.rank < infinityRank

def isZero (n : Number) : Bool := n.rank == 0

/-- The 53 leading bits of a finite magnitude. -/
def significand (n : Number) : Nat :=
  if n.rank < 2 ^ (52 : Nat) then n.rank else n.rank % 2 ^ (52 : Nat) + 2 ^ (52 : Nat)

/-- The power of two that scales the significand to units. -/
def exponent (n : Number) : Nat := n.rank / 2 ^ (52 : Nat) - 1

/-- A finite magnitude, counted in units. -/
def units (n : Number) : Nat := n.significand * 2 ^ n.exponent

/-- The quotient rounded to the nearest natural number; a half goes to the even one. -/
def roundDiv (num den : Nat) : Nat :=
  let q := num / den
  let r := num % den
  if 2 * r < den then q
  else if den < 2 * r then q + 1
  else q + q % 2

/-- The rank of the magnitude nearest to `num / den` units. Past the last finite magnitude that is
infinity. -/
def rankOfUnits (num den : Nat) : Nat :=
  let whole := num / den
  let e := if whole < 2 ^ (53 : Nat) then 0 else whole.log2 - 52
  min infinityRank (e * 2 ^ (52 : Nat) + roundDiv num (den * 2 ^ e))

/-- The number nearest to `num / den`, with the given sign. -/
def ofRatio (negative : Bool) (num den : Nat) : Number :=
  ⟨negative, rankOfUnits (num * unitsPerOne) den⟩

def ofNat (n : Nat) : Number := ofRatio false n 1

def neg (n : Number) : Number := ⟨!n.negative, n.rank⟩

def abs (n : Number) : Number := ⟨false, n.rank⟩

/-- The place of a number that is not NaN on the line of all numbers; the two zeros share one. -/
def key (n : Number) : Int := if n.negative then -n.rank else n.rank

/-- Numerical equality: the zeros are equal, NaN equals nothing. -/
def same (a b : Number) : Bool := !a.isNaN && !b.isNaN && a.key == b.key

def lt (a b : Number) : Bool := !a.isNaN && !b.isNaN && decide (a.key < b.key)

def le (a b : Number) : Bool := !a.isNaN && !b.isNaN && decide (a.key ≤ b.key)

/-- The product, rounded once. -/
def mul (a b : Number) : Number :=
  let negative := a.negative != b.negative
  if a.isNaN || b.isNaN then nan
  else if a.isFinite && b.isFinite then ⟨negative, rankOfUnits (a.units * b.units) unitsPerOne⟩
  else if a.isZero || b.isZero then nan
  else ⟨negative, infinityRank⟩

/-- The quotient, rounded once. -/
def div (a b : Number) : Number :=
  let negative := a.negative != b.negative
  if a.isNaN || b.isNaN then nan
  else if a.isFinite then
    if b.isFinite then
      if b.isZero then if a.isZero then nan else ⟨negative, infinityRank⟩
      else ofRatio negative a.units b.units
    else ⟨negative, 0⟩
  else if b.isFinite then ⟨negative, infinityRank⟩ else nan

/-- Whether a number is finite and has no fractional part. -/
def isWhole (n : Number) : Bool := n.isFinite && n.units % unitsPerOne == 0

def wholePart (n : Number) : Nat := n.units / unitsPerOne

@[simp] theorem neg_neg (n : Number) : n.neg.neg = n := by
  cases n; simp [neg]

@[simp] theorem rank_neg (n : Number) : n.neg.rank = n.rank := rfl

@[simp] theorem negative_neg (n : Number) : n.neg.negative = !n.negative := rfl

end Number

end SheetQuery
