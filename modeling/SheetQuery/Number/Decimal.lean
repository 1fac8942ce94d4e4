import SheetQuery.Number.Basic
import SheetQuery.Text.Ascii

/-! Reading decimal numerals. A numeral is read as the nearest number, ties to the even significand,
whatever its length. -/

namespace SheetQuery.Number

attribute [local instance (high)] instPowNat

/-- The number nearest to `digits * 10 ^ exponent`. Exponents far outside the range of numbers are
answered without computing the power. -/
def ofDecimal (negative : Bool) (digits : Nat) (exponent : Int) : Number :=
  if digits = 0 then ⟨negative, 0⟩
  else if 400 < exponent then ⟨negative, infinityRank⟩
  else if exponent < -(digits.log2 + 401 : Int) then ⟨negative, 0⟩
  else if 0 ≤ exponent then ofRatio negative (digits * 10 ^ exponent.toNat) 1
  else ofRatio negative digits (10 ^ (-exponent).toNat)

def digitValue (c : Char) : Nat := c.toNat - '0'.toNat

def digitsValue (cs : List Char) : Nat :=
  cs.foldl (fun v c => 10 * v + digitValue c) 0

/-- An exponent: an optional sign and at least one digit, to the end. -/
def exponentOf? (cs : List Char) : Option Int :=
  let (negative, ds) := match cs with
    | '-' :: ds => (true, ds)
    | '+' :: ds => (false, ds)
    | ds => (false, ds)
  if ds.isEmpty || !ds.all Char.isDigit then none
  else some (if negative then -(digitsValue ds : Int) else digitsValue ds)

/-- An unsigned numeral: digits with at most one point among or beside them, then perhaps an exponent. -/
def ofUnsigned? (negative : Bool) (cs : List Char) : Option Number :=
  let whole := cs.takeWhile Char.isDigit
  let rest := cs.dropWhile Char.isDigit
  let (fraction, rest) := match rest with
    | '.' :: ds => (ds.takeWhile Char.isDigit, ds.dropWhile Char.isDigit)
    | _ => ([], rest)
  let mark := whole ++ fraction
  if mark.isEmpty then none
  else
    let exponent? := match rest with
      | [] => some 0
      | c :: ds => if c = 'e' ∨ c = 'E' then exponentOf? ds else none
    exponent?.map fun e => ofDecimal negative (digitsValue mark) (e - fraction.length)

/-- Reads a whole text as a number: a signed numeral, or `inf`, `infinity` or `nan` in any case. -/
def ofText? (s : String) : Option Number :=
  let (negative, cs) := match s.toList with
    | '-' :: cs => (true, cs)
    | '+' :: cs => (false, cs)
    | cs => (false, cs)
  let word := Text.asciiLower (String.ofList cs)
  if word = "inf" ∨ word = "infinity" then some ⟨negative, infinityRank⟩
  else if word = "nan" then some ⟨negative, nan.rank⟩
  else ofUnsigned? negative cs

end SheetQuery.Number
