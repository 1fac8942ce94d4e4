import SheetQuery.Number.Decimal
import SheetQuery.Pattern.Regular.Basic

/-! Regular patterns from text. -/

namespace SheetQuery.Pattern

namespace Regular

/-- An open group: what it was opened with, its finished alternatives and its present parts, both last
first. -/
structure Level where
  captures : Bool
  /-- Whether case counted before the group. -/
  foldedCase : Bool
  branches : List Regular
  parts : List Regular
deriving Repr, Inhabited

structure State where
  level : Level
  outer : List Level
  foldsCase : Bool
deriving Repr, Inhabited

def Level.branch (l : Level) : Regular := ofParts l.parts.reverse

def Level.content (l : Level) : Regular := ofBranches (l.branch :: l.branches).reverse

namespace State

def add (s : State) (e : Regular) : State :=
  { s with level := { s.level with parts := e :: s.level.parts } }

def addSet (s : State) (set : Nested) : State :=
  s.add (.set (if s.foldsCase then ⟨set.set.foldCase, set.depth⟩ else set))

def addChar (s : State) (c : Char) : State :=
  if s.foldsCase then
    let set := (Charset.ofChar c).foldCase
    s.add (if set.single?.isSome then .char c else .set ⟨set, 0⟩)
  else s.add (.char c)

def openGroup (s : State) (captures : Bool) (foldsCase : Bool) : State :=
  ⟨⟨captures, s.foldsCase, [], []⟩, s.level :: s.outer, foldsCase⟩

def closeGroup? (s : State) : Option State :=
  match s.outer with
  | [] => none
  | l :: outer =>
    some (State.add ⟨l, outer, s.level.foldedCase⟩ (.group s.level.captures s.level.content))

def alternative (s : State) : State :=
  { s with level := { s.level with branches := s.level.branch :: s.level.branches, parts := [] } }

def repeat? (s : State) (min : Nat) (max : Option Nat) : Option State :=
  match s.level.parts with
  | [] => none
  | e :: es =>
    if e.isEmpty then none
    else some { s with level := { s.level with parts := .repeated min max e :: es } }

end State

def maxCount : Nat := 0xFFFFFFFF

/-- The bounds of a repetition from after its opening brace, and how many characters they take. -/
def bounds? (cs : List Char) : Option (Nat × Option Nat × Nat) :=
  let low := cs.takeWhile Char.isDigit
  let count := Number.digitsValue low
  if low.isEmpty || maxCount < count then none
  else
    match cs.drop low.length with
    | '\x7d' :: _ => some (count, some count, low.length + 1)
    | ',' :: rest =>
      let high := rest.takeWhile Char.isDigit
      let most := Number.digitsValue high
      if rest[high.length]? != some '\x7d' then none
      else if high.isEmpty then some (count, none, low.length + 2)
      else if count ≤ most && most ≤ maxCount then some (count, some most, low.length + high.length + 2)
      else none
    | _ => none

/-- Flags up to the sign that ends them: whether case is folded, whether a colon ends them, and how many
characters they take. No flag comes twice, and the sign that turns flags off has one after it. -/
def flags? (folds off : Bool) (seen : List Char) : List Char → Option (Bool × Bool × Nat)
  | [] => none
  | c :: cs =>
    if c = ')' ∨ c = ':' then
      if seen.head? = some '-' ∨ (c = ')' ∧ seen = []) then none else some (folds, c = ':', 1)
    else if seen.contains c then none
    else if c = '-' then (flags? folds true (c :: seen) cs).map fun (f, g, n) => (f, g, n + 1)
    else if ['i', 'm', 's', 'U', 'u', 'R', 'x'].contains c then
      (flags? (if c = 'i' then !off else folds) off (c :: seen) cs).map fun (f, g, n) => (f, g, n + 1)
    else none

/-- A group from after its opening parenthesis, and how many characters its sign takes. -/
def group? (s : State) (cs : List Char) : Option (State × Nat) :=
  match cs with
  | '?' :: rest =>
    (flags? s.foldsCase false [] rest).map fun (folds, isGroup, n) =>
      if isGroup then (s.openGroup false folds, n + 1)
      else ({ s.add .empty with foldsCase := folds }, n + 1)
  | _ => some (s.openGroup true s.foldsCase, 0)

/-- One if a question mark comes next. -/
def lazySign (cs : List Char) : Nat := if cs.head? = some '?' then 1 else 0

/-- Reads the part that begins with `c`; also gives how many characters after `c` belong to it. -/
def step? (s : State) (c : Char) (cs : List Char) : Option (State × Nat) :=
  match c with
  | '(' => group? s cs
  | ')' => s.closeGroup?.map (·, 0)
  | '|' => some (s.alternative, 0)
  | '?' => (s.repeat? 0 (some 1)).map (·, lazySign cs)
  | '*' => (s.repeat? 0 none).map (·, lazySign cs)
  | '+' => (s.repeat? 1 none).map (·, lazySign cs)
  | '\x7b' =>
    match bounds? cs with
    | some (min, max, n) => (s.repeat? min max).map (·, n + lazySign (cs.drop n))
    | none => none
  | '[' =>
    let (b, n) := Bracket.start cs
    (bracket? b [] n cs).map fun (x, n) => (s.addSet x, n)
  | '^' | '$' => some (s.add .place, 0)
  | '.' => some (s.add (.set ⟨(Charset.ofChar '\n').complement, 0⟩), 0)
  | '\\' =>
    match cs with
    | [] => none
    | d :: ds =>
      match regularEscape? d ds with
      | some (.inl x, n) => some (s.addChar x, n)
      | some (.inr x, n) => some (s.addSet ⟨x, 0⟩, n)
      | none => none
  | c => some (s.addChar c, 0)

def run? (s : State) (skip : Nat) : List Char → Option State
  | [] => some s
  | c :: cs =>
    match skip with
    | skip + 1 => run? s skip cs
    | 0 =>
      match step? s c cs with
      | some (s, n) => run? s n cs
      | none => none

def parse? (text : List Char) : Option Regular :=
  match run? ⟨⟨false, false, [], []⟩, [], false⟩ 0 text with
  | some s => if s.outer.isEmpty then some s.level.content else none
  | none => none

end Regular

end SheetQuery.Pattern
