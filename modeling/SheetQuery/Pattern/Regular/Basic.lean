import SheetQuery.Pattern.Bracket

/-! Regular patterns: those that an automaton can match. What the automaton takes is counted for both
directions of reading, since it is built for both. -/

namespace SheetQuery.Pattern

inductive Regular
  | empty
  | char (c : Char)
  /-- A set, with the depth of the brackets it is written with. -/
  | set (s : Nested)
  /-- A place between characters. -/
  | place
  | repeated (min : Nat) (max : Option Nat) (e : Regular)
  | group (captures : Bool) (e : Regular)
  | concat (es : List Regular)
  | alt (es : List Regular)
deriving Repr, Inhabited

/-- What an automaton takes, in bytes, when it reads forwards and when it reads backwards. -/
structure Cost where
  forwards : Nat
  backwards : Nat
deriving DecidableEq, Repr, Inhabited

namespace Cost

def both (n : Nat) : Cost := ⟨n, n⟩

instance : Add Cost := ⟨fun a b => ⟨a.forwards + b.forwards, a.backwards + b.backwards⟩⟩

def times (n : Nat) (a : Cost) : Cost := ⟨n * a.forwards, n * a.backwards⟩

def state : Cost := both 32

def fork : Cost := both 40

/-- A set of characters. One of ASCII is a single step; otherwise the tree of its byte forms is built, which
forwards shares its leaves. -/
def ofSet (s : Charset) : Cost :=
  match s.single? with
  | some c => times c.utf8Size state
  | none =>
    if s.isAscii then both (64 + 8 * s.ranges.length)
    else
      let t := s.spread
      ⟨64 + 32 * (t.nodes - t.leaves) + 8 * t.nodes, 64 + 32 * t.nodes + 4 * t.leaves⟩

end Cost

namespace Regular

/-- Parts in sequence; one part is itself. -/
def ofParts : List Regular → Regular
  | [] => empty
  | [e] => e
  | es => concat es

/-- Alternatives; one of them is itself. -/
def ofBranches : List Regular → Regular
  | [e] => e
  | es => alt es

def isEmpty : Regular → Bool
  | empty => true
  | _ => false

/-- The set that a pattern is, if it matches single characters only. -/
def charset? : Regular → Option Charset
  | char c => some (.ofChar c)
  | set s => some s.set
  | _ => none

mutual

def depth : Regular → Nat
  | empty | char _ | place => 0
  | set s => s.depth
  | repeated _ _ e => e.depth + 1
  | group _ e => e.depth + 1
  | concat es => depthAll es + 1
  | alt es => depthAll es + 1

def depthAll : List Regular → Nat
  | [] => 0
  | e :: es => max e.depth (depthAll es)

end

mutual

/-- Whether a pattern matches nothing but the empty text. -/
def isWidthless : Regular → Bool
  | empty | place => true
  | char _ | set _ => false
  | repeated _ max e => max == some 0 || e.isWidthless
  | group _ e => e.isWidthless
  | concat es => allWidthless es
  | alt es => allWidthless es

def allWidthless : List Regular → Bool
  | [] => true
  | e :: es => e.isWidthless && allWidthless es

end

mutual

/-- Whether a pattern matches the empty text at some place. -/
def isNullable : Regular → Bool
  | empty | place => true
  | char _ | set _ => false
  | repeated min _ e => min == 0 || e.isNullable
  | group _ e => e.isNullable
  | concat es => allNullable es
  | alt es => anyNullable es

def allNullable : List Regular → Bool
  | [] => true
  | e :: es => e.isNullable && allNullable es

def anyNullable : List Regular → Bool
  | [] => false
  | e :: es => e.isNullable || anyNullable es

end

/-- The cost of a repetition of something with the given cost. -/
def repeatCost (e : Cost) (nullable : Bool) (min : Nat) : Option Nat → Cost
  | none =>
    match min with
    | 0 => if nullable then e + .fork + .fork + .state else e + .fork
    | n => e.times n + .fork
  | some max =>
    if min = 0 ∧ max = 1 then e + .fork + .state
    else if min = max then e.times min
    else (if min = 0 then .state else e.times min) + .state + (e + .fork).times (max - min)

mutual

def cost : Regular → Cost
  | empty | place => .state
  | char c => .times c.utf8Size .state
  | set s => .ofSet s.set
  | repeated min max e =>
    -- what matches only the empty text is tried at most once
    let min' := if e.isWidthless then Nat.min min 1 else min
    let max' := if e.isWidthless then some (Nat.min (max.getD 1) 1) else max
    if max' = some 0 then .state
    else if min' = 1 ∧ max' = some 1 then e.cost
    else repeatCost e.cost e.isNullable min' max'
  | group captures e => if captures then e.cost + ⟨64, 0⟩ else e.cost
  | concat es => costAll es
  | alt es =>
    match es.mapM charset? with
    | some sets => .ofSet (sets.foldl Charset.union .empty)
    | none => costAll es + .both (64 + 4 * es.length)

def costAll : List Regular → Cost
  | [] => .both 0
  | e :: es => (if e.isEmpty then .both 0 else e.cost) + costAll es

end

def maxDepth : Nat := 250

def maxCost : Nat := 10 * 0x100000

/-- Whether the automata of a pattern can be built. Around the pattern they have a loop up to the start of a
match and the states of the match. -/
def fits (e : Regular) : Bool :=
  e.depth ≤ maxDepth && e.cost.forwards + 208 ≤ maxCost && e.cost.backwards + 144 ≤ maxCost

/-- Whether an automaton that reads backwards and is made into a table as it goes can be built: for each
state the table has to have room for 27 bytes. -/
def fitsBackwards (e : Regular) : Bool :=
  e.depth ≤ maxDepth && e.cost.backwards / 32 * 27 ≤ 0x200000

end Regular

end SheetQuery.Pattern
