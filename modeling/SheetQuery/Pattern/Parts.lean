import SheetQuery.Pattern.Parser
import SheetQuery.Pattern.Regular.Parser

/-! How a pattern is run. What is regular in it is given to automata, in parts as large as possible, and
the rest is matched by backtracking. A pattern is valid if all its regular parts are. -/

namespace SheetQuery.Pattern

/-- How tightly the place binds that a pattern is written in. -/
inductive Tightness
  | loose
  | alternative
  | sequence
  | repetition
deriving DecidableEq, Repr, Inhabited

def enclosed (b : Bool) (text : List Char) : List Char :=
  if b then "(?:".toList ++ text ++ [')'] else text

def foldedText (folds : Bool) (text : List Char) : List Char :=
  if folds then "(?i:".toList ++ text ++ [')'] else text

def repetitionText (min : Nat) : Option Nat → List Char
  | none =>
    if min = 0 then ['*'] else if min = 1 then ['+']
    else '\x7b' :: min.repr.toList ++ [',', '\x7d']
  | some max =>
    if min = 0 ∧ max = 1 then ['?']
    else if min = max then '\x7b' :: min.repr.toList ++ ['\x7d']
    else '\x7b' :: min.repr.toList ++ ',' :: max.repr.toList ++ ['\x7d']

mutual

/-- A regular pattern as text; what is not regular in it is left out. -/
def text (b : Tightness) : Pattern → List Char
  | char c folds => foldedText folds (quotedChar c)
  | any newline => if newline then "(?s:.)".toList else ['.']
  | place (.textEdge sign) => [sign]
  | place (.lineEdge sign) => "(?m:".toList ++ [sign, ')']
  | set text folds => foldedText folds text
  | concat es => enclosed (b = .sequence ∨ b = .repetition) (textAll es)
  | alt es => enclosed (b ≠ .loose) (textBranches es)
  | group _ e => '(' :: e.text .loose ++ [')']
  | repeated min max e => enclosed (b = .repetition) (e.text .repetition ++ repetitionText min max)
  | _ => []

def textAll : List Pattern → List Char
  | [] => []
  | e :: es => e.text .sequence ++ textAll es

def textBranches : List Pattern → List Char
  | [] => []
  | [e] => e.text .alternative
  | e :: es => e.text .alternative ++ '|' :: textBranches es

end

/-- A regular part of a pattern: patterns in sequence, or one that is matched backwards. -/
inductive Part
  | forwards (es : List Pattern)
  | backwards (e : Pattern)
deriving Repr, Inhabited

/-- Whether the automaton of a part can be built. -/
def Part.isValid : Part → Bool
  | forwards es => ((Regular.parse? (es.flatMap (·.text .alternative))).map Regular.fits).getD false
  | backwards e => ((Regular.parse? (e.text .alternative)).map Regular.fitsBackwards).getD false

/-- The first and the last parts of a sequence that automata can match in one go, and between them what is
given for each of the others. Before the end a part has to have one length, and with `retried` also at the
end: other matches of it may be asked for. -/
def sequenceParts (referred : List Nat) (retried : Bool) (es : List Pattern)
    (each : List (Option (List Part))) : Option (List Part) := do
  let isRegular (e : Pattern) := e.isRegular referred
  let isFixed (e : Pattern) := isRegular e && e.length?.isSome
  let front := es.takeWhile isFixed
  let rest := es.drop front.length
  let back := (rest.reverse.takeWhile (if retried then isFixed else isRegular)).reverse
  let middle := (each.drop front.length).take (rest.length - back.length)
  let between ← middle.mapM id
  let part (es : List Pattern) : List Part := if es.isEmpty then [] else [.forwards es]
  return part front ++ between.flatten ++ part back

mutual

/-- The regular parts of a pattern. With `retried`, what follows may ask for another match of it, so it is
not given to an automaton as a whole. What is looked for backwards has one length or is regular. -/
def parts? (referred : List Nat) (retried : Bool) (e : Pattern) : Option (List Part) :=
  if !retried && e.isRegular referred then some [.forwards [e]]
  else
    match e with
    | char c folds => some (if folds then [.forwards [char c folds]] else [])
    | set text folds => some [.forwards [set text folds]]
    | concat es => sequenceParts referred retried es (partsEach referred true es)
    | alt es => partsAll? referred retried es
    | group _ e => parts? referred retried e
    | atomic e => parts? referred false e
    | repeated min max e' =>
      let retried' := if min = 0 ∧ max = some 1 then retried else true
      parts? referred retried' e'
    | look false _ e => parts? referred false e
    | look true _ (alt es) =>
      if (alt es).length?.isSome then parts? referred false (alt es) else partsBehind? referred es
    | look true _ e =>
      if e.length?.isSome then parts? referred false e
      else if e.isRegular referred then some [.backwards e] else none
    | conditional test yes no => do
      return (← parts? referred retried test) ++ (← parts? referred retried yes)
        ++ (← parts? referred retried no)
    | _ => some []

def partsEach (referred : List Nat) (retried : Bool) : List Pattern → List (Option (List Part))
  | [] => []
  | e :: es => parts? referred retried e :: partsEach referred retried es

def partsAll? (referred : List Nat) (retried : Bool) : List Pattern → Option (List Part)
  | [] => some []
  | e :: es => do return (← parts? referred retried e) ++ (← partsAll? referred retried es)

/-- The parts of alternatives that are looked for backwards, each on its own. -/
def partsBehind? (referred : List Nat) : List Pattern → Option (List Part)
  | [] => some []
  | e :: es => do
    let first ←
      if e.length?.isSome then parts? referred false e
      else if e.isRegular referred then some [.backwards e] else none
    return first ++ (← partsBehind? referred es)

end

/-- A pattern that ends by looking ahead, as one that matches what it looks at and has all before it as its
group 0. -/
def withoutFinalLook : Pattern → Pattern
  | concat es =>
    match es.getLast? with
    | some (look false false e) => concat [group 0 (concat es.dropLast), e]
    | _ => concat es
  | e => e

def isValid (text : String) : Bool :=
  match parse? text with
  | none => false
  | some ⟨e, referred⟩ =>
    match parts? referred false e.withoutFinalLook with
    | some parts => parts.all Part.isValid
    | none => false

end SheetQuery.Pattern
