import SheetQuery.Number.Shortest

/-! How numbers are written: `display` with all digits in place, `plain` as a user would type it, and
`json` for bound values. -/

namespace SheetQuery.Number

attribute [local instance (high)] instPowNat

def digitsText (n : Nat) : List Char := Nat.toDigits 10 n

/-- A decimal with every digit in its place and no exponent. -/
def positional (d : Decimal) : List Char :=
  let ds := digitsText d.digits
  if 0 ≤ d.exponent then ds ++ List.replicate d.exponent.toNat '0'
  else
    let places := (-d.exponent).toNat
    if places < ds.length then ds.take (ds.length - places) ++ '.' :: ds.drop (ds.length - places)
    else '0' :: '.' :: List.replicate (places - ds.length) '0' ++ ds

def signed (negative : Bool) (cs : List Char) : List Char :=
  if negative then '-' :: cs else cs

/-- The shortest digits in their places; a half goes up. A whole number shows no point, and zero keeps
its sign. -/
def display (n : Number) : String :=
  if n.isNaN then "NaN"
  else String.ofList <| signed n.negative <|
    if !n.isFinite then "inf".toList
    else if n.isZero then ['0']
    else positional (n.shortest .up)

/-- Whole numbers below `10 ^ 21` exactly, digit for digit and without a sign on zero; all others as
`display`. -/
def plain (n : Number) : String :=
  if n.isWhole && n.wholePart < 10 ^ (21 : Nat) then
    String.ofList (signed (n.negative && !n.isZero) (digitsText n.wholePart))
  else n.display

/-- One digit, the others after a point, and the exponent with its sign. -/
def scientific (d : Decimal) : List Char :=
  let ds := digitsText d.digits
  let e := d.exponent + (ds.length - 1 : Nat)
  let mark := match ds with
    | [c] => [c]
    | c :: cs => c :: '.' :: cs
    | [] => []
  mark ++ ['e', if e < 0 then '-' else '+'] ++ digitsText e.natAbs

/-- The text of a bound number: whole numbers below `9 * 10 ^ 15` as integers, others by their shortest
digits (a half to even), in place from `10 ^ -5` up to `10 ^ 16` and with an exponent elsewhere. What is
not finite has no text and becomes `null`. -/
def json (n : Number) : String :=
  if n.isWhole && n.wholePart < 9 * 10 ^ (15 : Nat) then
    String.ofList (signed (n.negative && !n.isZero) (digitsText n.wholePart))
  else if !n.isFinite then "null"
  else
    let d := n.shortest .even
    let lead := d.exponent + (digitCount d.digits - 1 : Nat)
    String.ofList <| signed n.negative <|
      if -5 ≤ lead ∧ lead < 16 then positional d ++ (if 0 ≤ d.exponent then ['.', '0'] else [])
      else scientific d

end SheetQuery.Number
