import SheetQuery.Pattern.Property
import SheetQuery.Text.Numeral

/-! Sets of characters. A set is given by its ranges, as far as there are tables of them: characters, the
digits and blanks of all scripts, and what they are combined to. Of word characters and properties only the
spread is known. It is an estimate of what they add to a set, and stays where the set is negated or
intersected with another. -/

namespace SheetQuery.Pattern

structure Charset where
  /-- Ranges of code points, increasing and apart from each other. -/
  ranges : List (Nat × Nat)
  named : Spread
deriving DecidableEq, Repr, Inhabited

/-- Adds a range to ranges that start no later, given last to first. -/
def joinRange (acc : List (Nat × Nat)) (r : Nat × Nat) : List (Nat × Nat) :=
  match acc with
  | [] => [r]
  | last :: before =>
    if r.1 ≤ last.2 + 1 then (last.1, max last.2 r.2) :: before else r :: last :: before

/-- The same code points as increasing ranges that are apart from each other. -/
def joinRanges (ranges : List (Nat × Nat)) : List (Nat × Nat) :=
  ((ranges.mergeSort fun a b => a.1 ≤ b.1).foldl joinRange []).reverse

def maxCodePoint : Nat := 0x10FFFF

/-- The code points from `start` on that no range has. -/
def gapsFrom (start : Nat) : List (Nat × Nat) → List (Nat × Nat)
  | [] => if start ≤ maxCodePoint then [(start, maxCodePoint)] else []
  | (low, high) :: rest =>
    (if start < low then [(start, low - 1)] else []) ++ gapsFrom (high + 1) rest

namespace Charset

def ofRanges (ranges : List (Nat × Nat)) : Charset := ⟨joinRanges ranges, ⟨0, 0⟩⟩

def ofChar (c : Char) : Charset := ⟨[(c.toNat, c.toNat)], ⟨0, 0⟩⟩

def ofSpread (s : Spread) : Charset := ⟨[], s⟩

def empty : Charset := ⟨[], ⟨0, 0⟩⟩

def union (a b : Charset) : Charset := ⟨joinRanges (a.ranges ++ b.ranges), a.named + b.named⟩

def complement (a : Charset) : Charset := ⟨gapsFrom 0 a.ranges, a.named⟩

def inter (a b : Charset) : Charset :=
  ⟨gapsFrom 0 (joinRanges (gapsFrom 0 a.ranges ++ gapsFrom 0 b.ranges)), a.named + b.named⟩

def difference (a b : Charset) : Charset :=
  ⟨gapsFrom 0 (joinRanges (gapsFrom 0 a.ranges ++ b.ranges)), a.named + b.named⟩

def symmetricDifference (a b : Charset) : Charset :=
  (a.difference b).union ⟨(b.difference a).ranges, ⟨0, 0⟩⟩

/-- The part of a range within bounds, moved up. -/
def shifted (low high up : Nat) (r : Nat × Nat) : List (Nat × Nat) :=
  if max low r.1 ≤ min high r.2 then [(max low r.1 + up, min high r.2 + up)] else []

/-- The letters that differ only in case from those of a range: those of ASCII, the Kelvin sign and the
long s. -/
def caseVariants (r : Nat × Nat) : List (Nat × Nat) :=
  let holds (c : Char) := r.1 ≤ c.toNat && c.toNat ≤ r.2
  shifted 65 90 32 r ++ (shifted 97 122 0 r).map (fun (a, b) => (a - 32, b - 32))
    ++ (if holds 'k' || holds 'K' then [(0x212A, 0x212A)] else [])
    ++ (if holds 's' || holds 'S' then [(0x17F, 0x17F)] else [])

/-- The set with all letters in both cases. -/
def foldCase (a : Charset) : Charset :=
  ⟨joinRanges (a.ranges ++ a.ranges.flatMap caseVariants), a.named⟩

def single? (a : Charset) : Option Char :=
  match a.ranges, a.named.leaves with
  | [(low, high)], 0 => if low = high ∧ low.isValidChar then some (Char.ofNat low) else none
  | _, _ => none

def isAscii (a : Charset) : Bool := a.named.leaves == 0 && a.ranges.all (·.2 < 128)

def spread (a : Charset) : Spread := Spread.ofRanges a.ranges + a.named

end Charset

/-- The digits, blanks and word characters of all scripts, and with a capital letter all others. -/
def classSet? : Char → Option Charset
  | 'd' => some digits
  | 'D' => some digits.complement
  | 's' => some (.ofRanges Text.blankRanges)
  | 'S' => some (Charset.ofRanges Text.blankRanges).complement
  | 'w' | 'W' => some (.ofSpread ⟨1446, 1004⟩)
  | _ => none
where
  digits := .ofRanges ((48, 57) :: Text.decimalDigitRanges)

/-- The sets of ASCII characters that are written `[:alpha:]` within brackets. -/
def namedSet? : String → Option (List (Nat × Nat))
  | "alnum" => some [(48, 57), (65, 90), (97, 122)]
  | "alpha" => some [(65, 90), (97, 122)]
  | "ascii" => some [(0, 127)]
  | "blank" => some [(9, 9), (32, 32)]
  | "cntrl" => some [(0, 31), (127, 127)]
  | "digit" => some [(48, 57)]
  | "graph" => some [(33, 126)]
  | "lower" => some [(97, 122)]
  | "print" => some [(32, 126)]
  | "punct" => some [(33, 47), (58, 64), (91, 96), (123, 126)]
  | "space" => some [(9, 13), (32, 32)]
  | "upper" => some [(65, 90)]
  | "word" => some [(48, 57), (65, 90), (95, 95), (97, 122)]
  | "xdigit" => some [(48, 57), (65, 70), (97, 102)]
  | _ => none

end SheetQuery.Pattern
