/-! How far a set of characters spreads in UTF-8. An automaton that reads bytes needs a state for each
node of the tree of the set's byte forms, so the spread of a set tells what the automaton takes. -/

namespace SheetQuery.Pattern

/-- The tree of the byte forms of a set, each edge a range of bytes: how many nodes are below the root, and
how many of them are leaves. -/
structure Spread where
  nodes : Nat
  leaves : Nat
deriving DecidableEq, Repr, Inhabited

instance : Add Spread := ⟨fun a b => ⟨a.nodes + b.nodes, a.leaves + b.leaves⟩⟩

/-- The forms of the numbers from `low` to `high`: a first byte that counts from `lead`, then `tail` bytes
of six bits each. Numbers that share all their forms' ranges are taken together. -/
def forms (lead : Nat) : Nat → Nat → Nat → List (List (Nat × Nat))
  | 0, low, high => [[(lead + low, lead + high)]]
  | tail + 1, low, high =>
    let block := 64 ^ (tail + 1)
    let first := low / block
    let last := high / block
    let within (byte low high : Nat) :=
      (forms 0x80 tail low high).map ((lead + byte, lead + byte) :: ·)
    if first = last then within first (low % block) (high % block)
    else
      let startsFull := low % block = 0
      let endsFull := high % block + 1 = block
      let fullFrom := if startsFull then first else first + 1
      let fullUpTo := if endsFull then last + 1 else last
      (if startsFull then [] else within first (low % block) (block - 1))
        ++ (if fullFrom < fullUpTo then
          [(lead + fullFrom, lead + fullUpTo - 1) :: List.replicate (tail + 1) (0x80, 0xBF)] else [])
        ++ (if endsFull then [] else within last 0 (high % block))

/-- The stretches of code points whose forms are of one length, with the first byte that they count from
and the number of bytes after it. Between the two of three bytes are the surrogates. -/
def stretches : List (Nat × Nat × Nat × Nat) := [
  (0, 0x7F, 0, 0), (0x80, 0x7FF, 0xC0, 1), (0x800, 0xD7FF, 0xE0, 2), (0xE000, 0xFFFF, 0xE0, 2),
  (0x10000, 0x10FFFF, 0xF0, 3)]

/-- The byte forms of a range of code points, in increasing order. -/
def byteForms (low high : Nat) : List (List (Nat × Nat)) :=
  stretches.flatMap fun (first, last, lead, tail) =>
    if max low first ≤ min high last then forms lead tail (max low first) (min high last) else []

def commonLength (xs ys : List (Nat × Nat)) : Nat :=
  ((xs.zip ys).takeWhile fun (x, y) => x == y).length

def Spread.ofRanges (ranges : List (Nat × Nat)) : Spread :=
  let all := ranges.flatMap fun (low, high) => byteForms low high
  let step (acc : Nat × List (Nat × Nat)) (form : List (Nat × Nat)) :=
    (acc.1 + (form.length - commonLength acc.2 form), form)
  ⟨(all.foldl step (0, [])).1, all.length⟩

end SheetQuery.Pattern
