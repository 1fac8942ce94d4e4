import SheetQuery.Number.Decimal

/-! Numbers in JSON text. The digits go into a significand of 64 bits as long as they fit; whole digits
after that only count towards the exponent and fraction digits are dropped. The significand is then scaled
by a power of ten, both rounded to numbers before the scaling, so that the result can be off by a unit in
the last place. A number too large for that is refused. -/

namespace SheetQuery.Json

def maxSignificand : Nat := 0xFFFFFFFFFFFFFFFF

/-- Adds digits to a significand while they fit, and counts those added. -/
def keepDigits (significand : Nat) : List Char → Nat × Nat
  | [] => (significand, 0)
  | c :: cs =>
    let longer := 10 * significand + Number.digitValue c
    if longer ≤ maxSignificand then
      let (s, kept) := keepDigits longer cs
      (s, kept + 1)
    else (significand, 0)

def powerOfTen (n : Nat) : Number := .ofDecimal false 1 n

def maxPower : Nat := 308

def scale (n : Number) (exponent : Int) : Option Number :=
  if exponent.natAbs ≤ maxPower then
    if 0 ≤ exponent then
      let scaled := n.mul (powerOfTen exponent.natAbs)
      if scaled.isFinite then some scaled else none
    else some (n.div (powerOfTen exponent.natAbs))
  else if n.isZero then some n
  else if 0 ≤ exponent then none
  else scale (n.div (powerOfTen maxPower)) (exponent + maxPower)
termination_by exponent.natAbs
decreasing_by simp only [maxPower] at *; omega

/-- The written parts of a number: its digits before and after the point, and its exponent. -/
structure Numeral where
  negative : Bool
  whole : List Char
  fraction : List Char
  lowers : Bool
  exponent : List Char
deriving DecidableEq, Repr, Inhabited

/-- Exponents beyond this are not computed with. -/
def maxExponent : Nat := 0x7FFFFFFF

/-- The number that is written, if it is not too large. -/
def Numeral.value? (p : Numeral) : Option Number :=
  let (s, keptWhole) := keepDigits 0 p.whole
  let (s, keptFraction) := keepDigits s p.fraction
  let shift : Int := (p.whole.length : Int) - keptWhole - keptFraction
  let e := Number.digitsValue p.exponent
  let magnitude :=
    if e ≤ maxExponent then scale (.ofNat s) (if p.lowers then shift - e else shift + e)
    else if s = 0 ∨ p.lowers then some .zero
    else none
  magnitude.map fun n => if p.negative then n.neg else n

/-- The numeral at the front of a text and how many characters it has. A zero is not followed by a whole
digit, and a point and an exponent mark are followed by digits. -/
def Numeral.read? (cs : List Char) : Option (Numeral × Nat) :=
  let (negative, sign, cs) := match cs with
    | '-' :: cs => (true, 1, cs)
    | cs => (false, 0, cs)
  let whole := cs.takeWhile Char.isDigit
  let rest := cs.drop whole.length
  let (point, fraction) := match rest with
    | '.' :: ds => (1, ds.takeWhile Char.isDigit)
    | _ => (0, [])
  let rest := rest.drop (point + fraction.length)
  let (mark, lowers, exponent) := match rest with
    | c :: ds =>
      if c = 'e' ∨ c = 'E' then
        match ds with
        | '-' :: ds => (2, true, ds.takeWhile Char.isDigit)
        | '+' :: ds => (2, false, ds.takeWhile Char.isDigit)
        | ds => (1, false, ds.takeWhile Char.isDigit)
      else (0, false, [])
    | [] => (0, false, [])
  if whole.isEmpty ∨ (whole.head? = some '0' ∧ 1 < whole.length) ∨ (point = 1 ∧ fraction.isEmpty)
      ∨ (0 < mark ∧ exponent.isEmpty) then none
  else some (⟨negative, whole, fraction, lowers, exponent⟩,
    sign + whole.length + point + fraction.length + mark + exponent.length)

end SheetQuery.Json
