import SheetQuery.Pattern.Charset

/-! Sets between brackets, as a regular pattern has them. Sets nest, and are combined by `&&`, `--` and
`~~`, from left to right; a range runs upwards between two characters. -/

namespace SheetQuery.Pattern

/-- The characters that stand for themselves after a backslash. -/
def isSign (c : Char) : Bool :=
  ['\\', '.', '+', '*', '?', '(', ')', '|', '[', ']', '\x7b', '\x7d', '^', '$', '#', '&', '-', '~'].contains c

/-- An escape from after its backslash: a character or a set, and how many characters it takes. -/
def regularEscape? (c : Char) (cs : List Char) : Option ((Char ⊕ Charset) × Nat) :=
  if isSign c then some (.inl c, 1)
  else
    match classSet? c with
    | some chars => some (.inr chars, 1)
    | none =>
      if c = 'p' ∨ c = 'P' then
        match cs with
        | '\x7b' :: ds =>
          let name := ds.takeWhile (· != '\x7d')
          if ds.length ≤ name.length then none
          else (property? name).map fun s => (.inr (.ofSpread s), name.length + 3)
        | '\\' :: _ => none
        | d :: _ => (propertyAlone? [d]).map fun s => (.inr (.ofSpread s), 2)
        | [] => none
      else none

/-- A character or a set within brackets, and how many characters it takes. -/
def bracketItem? : List Char → Option ((Char ⊕ Charset) × Nat)
  | [] => none
  | '\\' :: c :: cs => (regularEscape? c cs).map fun (item, n) => (item, n + 1)
  | '\\' :: [] => none
  | c :: _ => some (.inl c, 1)

/-- A named set from after its opening bracket, and how many characters it takes. -/
def namedItem? : List Char → Option (Charset × Nat)
  | ':' :: cs =>
    let (negated, cs) := match cs with
      | '^' :: cs => (true, cs)
      | cs => (false, cs)
    let name := cs.takeWhile (· != ':')
    match (cs.drop name.length).take 2, namedSet? (String.ofList name) with
    | [':', ']'], some ranges =>
      let chars := Charset.ofRanges ranges
      some (if negated then chars.complement else chars, name.length + (if negated then 4 else 3))
    | _, _ => none
  | _ => none

inductive Combination
  | intersection
  | difference
  | symmetricDifference
deriving DecidableEq, Repr, Inhabited

def Combination.apply : Combination → Charset → Charset → Charset
  | intersection => .inter
  | difference => .difference
  | symmetricDifference => .symmetricDifference

def Combination.ofSigns? : Char → List Char → Option Combination
  | '&', '&' :: _ => some intersection
  | '-', '-' :: _ => some difference
  | '~', '~' :: _ => some symmetricDifference
  | _, _ => none

structure Nested where
  set : Charset
  depth : Nat
deriving DecidableEq, Repr, Inhabited

/-- An open bracket: what stands before the last combining sign, and the items after it. -/
structure Bracket where
  negated : Bool
  left : Option (Nested × Combination)
  items : Nat
  right : Nested
deriving DecidableEq, Repr, Inhabited

namespace Bracket

def add (b : Bracket) (x : Nested) : Bracket :=
  { b with items := b.items + 1, right := ⟨b.right.set.union x.set, max b.right.depth x.depth⟩ }

/-- The items after the last sign; two or more of them are a level of their own. -/
def operand (b : Bracket) : Nested :=
  if b.items ≤ 1 then b.right else ⟨b.right.set, b.right.depth + 1⟩

def total (b : Bracket) : Nested :=
  match b.left with
  | none => b.operand
  | some (l, c) => ⟨c.apply l.set b.operand.set, max l.depth b.operand.depth + 1⟩

def combine (b : Bracket) (c : Combination) : Bracket :=
  ⟨b.negated, some (b.total, c), 0, ⟨.empty, 0⟩⟩

def close (b : Bracket) : Nested :=
  ⟨if b.negated then b.total.set.complement else b.total.set, b.total.depth + 1⟩

/-- A bracket from after its sign, and how many characters its beginning takes: the sign of negation, then
hyphens that stand for themselves, or else a closing bracket that does. -/
def start (cs : List Char) : Bracket × Nat :=
  let (negated, rest) := match cs with
    | '^' :: rest => (true, rest)
    | rest => (false, rest)
  let hyphens := (rest.takeWhile (· == '-')).length
  let literal (c : Char) : Nested := ⟨.ofChar c, 0⟩
  let sign := if negated then 1 else 0
  let fresh : Bracket := ⟨negated, none, 0, ⟨.empty, 0⟩⟩
  match hyphens, rest with
  | 0, ']' :: _ => (fresh.add (literal ']'), sign + 1)
  | n, _ => ((List.replicate n (literal '-')).foldl add fresh, sign + n)

end Bracket

/-- Reads a set from after its opening bracket up to the bracket that closes it. Also gives how many
characters it takes. -/
def bracket? (b : Bracket) (outer : List Bracket) (skip : Nat) : List Char → Option (Nested × Nat)
  | [] => none
  | c :: cs =>
    let more (b : Bracket) (outer : List Bracket) (skip : Nat) :=
      (bracket? b outer skip cs).map fun (found, n) => (found, n + 1)
    match skip with
    | skip + 1 => more b outer skip
    | 0 =>
      match c with
      | '[' =>
        match namedItem? cs with
        | some (chars, n) => more (b.add ⟨chars, 0⟩) outer n
        | none => more (Bracket.start cs).1 (b :: outer) (Bracket.start cs).2
      | ']' =>
        match outer with
        | [] => some (b.close, 1)
        | o :: outer => more (o.add b.close) outer 0
      | c =>
        match Combination.ofSigns? c cs with
        | some op => more (b.combine op) outer 1
        | none =>
          match bracketItem? (c :: cs) with
          | none => none
          | some (item, n) =>
            let one (item : Char ⊕ Charset) : Nested :=
              match item with
              | .inl x => ⟨.ofChar x, 0⟩
              | .inr chars => ⟨chars, 0⟩
            match (c :: cs).drop n with
            | '-' :: d :: ds =>
              if d = ']' ∨ d = '-' then more (b.add (one item)) outer (n - 1)
              else
                match item, bracketItem? (d :: ds) with
                | .inl x, some (.inl y, k) =>
                  if x.toNat ≤ y.toNat then
                    more (b.add ⟨.ofRanges [(x.toNat, y.toNat)], 0⟩) outer (n + k)
                  else none
                | _, _ => none
            | _ => more (b.add (one item)) outer (n - 1)

end SheetQuery.Pattern
