import SheetQuery.Text.Ascii

/-! Patterns: regular expressions with groups, look-around, references to what groups matched and tests of
it. Only what bears on whether a pattern can be run is kept, so not whether a repetition is reluctant. -/

namespace SheetQuery

inductive Pattern.Place
  | textEdge (sign : Char)
  | lineEdge (sign : Char)
  /-- A word boundary of any kind, or a place that is none. -/
  | word
deriving DecidableEq, Repr, Inhabited

inductive Pattern
  | empty
  | char (c : Char) (foldsCase : Bool)
  /-- Any character, or any but the end of a line. -/
  | any (newline : Bool)
  | place (p : Pattern.Place)
  /-- A set as a regular pattern has it. -/
  | set (text : List Char) (foldsCase : Bool)
  | concat (es : List Pattern)
  | alt (es : List Pattern)
  /-- A group that can be referred to. -/
  | group (number : Nat) (e : Pattern)
  | look (behind negated : Bool) (e : Pattern)
  /-- A part that is not tried again once it has matched. -/
  | atomic (e : Pattern)
  | repeated (min : Nat) (max : Option Nat) (e : Pattern)
  /-- What a group matched, with its length if all that the group matches has one length. -/
  | reference (number : Nat) (length : Option Nat)
  /-- That a group has matched. -/
  | matched (number : Nat)
  | conditional (test yes no : Pattern)
  /-- Where the text to be found begins after all. -/
  | restart
  /-- Where the last match ended. -/
  | lastEnd
deriving Repr, Inhabited

namespace Pattern

def isEmpty : Pattern → Bool
  | empty => true
  | _ => false

/-- Parts in sequence, without the empty ones; one part is itself. -/
def ofParts (es : List Pattern) : Pattern :=
  match es.filter (!·.isEmpty) with
  | [] => empty
  | [e] => e
  | es => concat es

/-- Alternatives; one of them is itself. -/
def ofBranches : List Pattern → Pattern
  | [e] => e
  | es => alt es

/-- What a sign of repetition may follow. Edges and word boundaries are among it, other places are not. -/
def isRepeatable : Pattern → Bool
  | empty | look _ _ _ | matched _ | restart | lastEnd => false
  | _ => true

mutual

/-- The length of what a pattern matches, if that is always the same. -/
def length? : Pattern → Option Nat
  | char _ _ | any _ | set _ _ => some 1
  | empty | place _ | look _ _ _ | matched _ | restart | lastEnd => some 0
  | concat es => lengthSum? es
  | alt es => commonLength? es
  | group _ e | atomic e => e.length?
  | repeated min max e => if max = some min then e.length?.map (min * ·) else none
  | reference _ length => length
  | conditional test yes no =>
    match test.length?, yes.length?, no.length? with
    | some t, some y, some n => if t + y = n then some (t + min y n) else none
    | _, _, _ => none

def lengthSum? : List Pattern → Option Nat
  | [] => some 0
  | e :: es =>
    match e.length?, lengthSum? es with
    | some m, some n => some (m + n)
    | _, _ => none

def commonLength? : List Pattern → Option Nat
  | [] => none
  | [e] => e.length?
  | e :: es => if e.length? = commonLength? es then e.length? else none

end

mutual

/-- Whether an automaton can match a pattern. A group that is referred to has to be matched by
backtracking, since what follows may ask for another match of it. -/
def isRegular (referred : List Nat) : Pattern → Bool
  | empty | char _ _ | any _ | set _ _ => true
  | place p => p != .word
  | concat es | alt es => allRegular referred es
  | group n e => !referred.contains n && e.isRegular referred
  | repeated _ _ e => e.isRegular referred
  | look _ _ _ | atomic _ | reference _ _ | matched _ | conditional _ _ _ | restart | lastEnd => false

def allRegular (referred : List Nat) : List Pattern → Bool
  | [] => true
  | e :: es => e.isRegular referred && allRegular referred es

end

end Pattern

end SheetQuery
