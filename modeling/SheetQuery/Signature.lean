import SheetQuery.Builtin
import SheetQuery.DataType

/-! The contracts of the built-in functions: how many arguments, of which types, and the type of the
result. -/

namespace SheetQuery

inductive Arity
  | exactly (n : Nat)
  | atLeast (n : Nat)
  | atMost (n : Nat)
  | between (least most : Nat)
deriving DecidableEq, Repr, Inhabited

inductive ArgRule
  | unchecked
  /-- One type for every position that the arity names. -/
  | leading (type : DataType)
  /-- One type for every argument. -/
  | every (type : DataType)
  /-- A type for each position; further positions are not checked. -/
  | positions (types : List DataType)
deriving DecidableEq, Repr, Inhabited

/-- The type of a result: fixed, or that of the branches of an `IF` or a `SWITCH`. -/
inductive Returns
  | fixed (type : DataType)
  | ifBranches
  | switchBranches
deriving DecidableEq, Repr, Inhabited

structure Signature where
  function : Builtin
  arity : Arity
  args : ArgRule
  returns : Returns
deriving DecidableEq, Repr, Inhabited

inductive ArityFault
  | requiresExactly (n : Nat)
  | requiresAtLeast (n : Nat)
  | acceptsAtMost (n : Nat)
deriving DecidableEq, Repr, Inhabited

namespace Arity

def fault? (arity : Arity) (count : Nat) : Option ArityFault :=
  match arity with
  | exactly n => if count = n then none else some (.requiresExactly n)
  | atLeast n => if count < n then some (.requiresAtLeast n) else none
  | atMost n => if n < count then some (.acceptsAtMost n) else none
  | between least most =>
    if count < least then some (.requiresAtLeast least)
    else if most < count then some (.acceptsAtMost most)
    else none

def summary : Arity → String
  | exactly n => toString n
  | atLeast n => toString n ++ "+"
  | atMost n => "0.." ++ toString n
  | between least most =>
    if least = most then toString least else toString least ++ ".." ++ toString most

/-- How many positions a single leading type covers. -/
def covered : Arity → Nat
  | exactly n => n
  | atLeast _ => 1
  | atMost n => n
  | between _ most => most

end Arity

def ArityFault.message (function : String) : ArityFault → String
  | requiresExactly n => function ++ " requires exactly " ++ counted n
  | requiresAtLeast n => function ++ " requires at least " ++ counted n
  | acceptsAtMost n => function ++ " accepts at most " ++ counted n
where
  counted (n : Nat) : String := toString n ++ " argument" ++ (if n = 1 then "" else "(s)")

/-- The type of a choice between branches. NULL branches do not count; several types, or text among them,
give text. If no rule applies the first branch decides. -/
def choiceType (branches : List DataType) : DataType :=
  let seen := (branches.filter (· ≠ .null)).eraseDups
  if 1 < seen.length ∨ .text ∈ seen then .text
  else if .numeric ∈ seen then .numeric
  else if seen.any DataType.isBoolean then .boolean
  else if .date ∈ seen then .date
  else branches.head?.getD .unknown

/-- The types at the result positions of a `SWITCH`: every second argument after the first, and the last
one if it is a default. -/
def switchResults (args : List DataType) : List DataType :=
  let values := (args.zipIdx.drop 1).filterMap fun (t, i) => if i % 2 = 0 then some t else none
  if 1 < args.length ∧ args.length % 2 = 0 then values ++ args.getLast?.toList else values

namespace Returns

def typeOf (returns : Returns) (args : List DataType) : DataType :=
  match returns with
  | fixed t => t
  | ifBranches => choiceType (args.drop 1)
  | switchBranches => choiceType (switchResults args)

def summary : Returns → String
  | fixed t => t.label
  | ifBranches | switchBranches => "dynamic"

end Returns

namespace Signature

def arityFault? (s : Signature) (count : Nat) : Option ArityFault := s.arity.fault? count

def isVariadic (s : Signature) : Bool :=
  match s.args with
  | .every _ => true
  | _ => false

def expected? (s : Signature) (index : Nat) : Option DataType :=
  match s.args with
  | .unchecked => none
  | .leading t => if index < s.arity.covered then some t else none
  | .every t => some t
  | .positions ts => ts[index]?

end Signature

namespace Builtin

def signature (f : Builtin) : Signature :=
  let make (arity : Arity) (args : ArgRule) (result : DataType) : Signature :=
    ⟨f, arity, args, .fixed result⟩
  match f with
  | add | sum | avg | min | max => make (.atLeast 1) (.every .numeric) .numeric
  | count | countFilled | countAll => make (.atLeast 1) .unchecked .numeric
  | round | roundUp | roundDown | log => make (.between 1 2) (.leading .numeric) .numeric
  | ceiling | floor | abs | int | even | odd | sqrt | exp =>
    make (.exactly 1) (.leading .numeric) .numeric
  | mod | power => make (.exactly 2) (.leading .numeric) .numeric
  | value => make (.exactly 1) .unchecked .numeric
  | concat => make (.atLeast 1) .unchecked .text
  | trim | upper | lower | urlEncode => make (.exactly 1) (.leading .text) .text
  | len => make (.exactly 1) (.leading .text) .numeric
  | left | right | repeatText => make (.exactly 2) (.positions [.text, .numeric]) .text
  | mid => make (.exactly 3) (.positions [.text, .numeric, .numeric]) .text
  | substr => make (.between 2 3) (.positions [.text, .numeric, .numeric]) .text
  | search | regexMatch => make (.exactly 2) (.leading .text) .numeric
  | replace | regexReplace => make (.exactly 3) (.leading .text) .text
  | url => make (.between 1 2) (.positions [.text, .text]) .text
  | regexExtract => make (.exactly 2) (.leading .text) .text
  | jsonExtract => make (.between 2 2) (.positions [.text, .text]) .text
  | now => make (.exactly 0) .unchecked .date
  | dateAdd => make (.exactly 3) (.positions [.date, .numeric, .text]) .date
  | dateDiff => make (.between 2 3) (.positions [.date, .date, .text]) .numeric
  | dateText => make (.exactly 1) (.leading .date) .text
  | day | month | year | hour => make (.exactly 1) (.leading .date) .numeric
  | weekday => make (.between 1 2) (.positions [.date, .text]) .numeric
  | ifElse => ⟨f, .between 2 3, .unchecked, .ifBranches⟩
  | switch => ⟨f, .atLeast 3, .unchecked, .switchBranches⟩
  | and | or => make (.atLeast 1) (.every .condition) .condition
  | xor => make (.atLeast 1) (.every .condition) .boolean
  | trueValue | falseValue => make (.atMost 0) .unchecked .numeric
  | blank => make (.exactly 0) .unchecked .null
  | isBlank | isNotBlank => make (.exactly 1) .unchecked .boolean
  | arrayUnique | arrayCompact => make (.exactly 1) (.leading .array) .array
  | arraySort => make (.between 1 2) (.positions [.array, .text]) .array
  | arraySlice => make (.between 2 3) (.positions [.array, .numeric, .numeric]) .array
  | recordId => make (.exactly 0) .unchecked .text
  | float => make (.exactly 1) .unchecked .numeric

end Builtin

end SheetQuery
