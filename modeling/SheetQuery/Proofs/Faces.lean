import SheetQuery.Proofs.Precedence
import SheetQuery.Proofs.Shapes

/-! What SQL shows from outside. The face of an expression tells, without its SQL, whether that is a
predicate, which operators stand in it outside brackets, and whether two minus signs meet in it. Most
calls show nothing; some hand on one of their arguments, and then show what the argument shows. -/

namespace SheetQuery.Sql

structure Face where
  predicate : Bool
  /-- The operators outside brackets. -/
  operators : List Operator
  startsMinus : Bool
  /-- Whether two minus signs meet, within brackets or outside. -/
  comment : Bool
deriving DecidableEq, Repr

def Doc.face (neg : Binding → Bool) (predicate : Bool) (g : Doc) : Face :=
  ⟨predicate, g.operators, g.startsMinus neg, g.comment neg⟩

namespace Face

/-- Brackets, a word or a name, with parts in which two minus signs meet or not. -/
def closed (comment : Bool) : Face := ⟨false, [], false, comment⟩

def asPredicate (φ : Face) : Face := { φ with predicate := true }

def asValue (d : Dialect) (φ : Face) : Face :=
  if φ.predicate && !d.predicatesAreValues then closed φ.comment else { φ with predicate := false }

def asCondition (d : Dialect) (φ : Face) : Face :=
  if φ.predicate then φ
  else
    match d with
    | .mssql | .oracle => { φ with predicate := true, operators := φ.operators ++ [.between .ne] }
    | .postgres => (closed φ.comment).asPredicate
    | .mysql | .sqlite => φ.asPredicate

def groupIf (b : Bool) (φ : Face) : Face :=
  if b then { closed φ.comment with predicate := φ.predicate } else φ

def binary (op : InfixOp) (φ ψ : Face) : Face :=
  ⟨false, φ.operators ++ .between op :: ψ.operators, φ.startsMinus, φ.comment || ψ.comment⟩

def minus (φ : Face) : Face := ⟨false, .minus :: φ.operators, true, φ.startsMinus || φ.comment⟩

def not (φ : Face) : Face := ⟨true, [.not], false, φ.comment⟩

end Face

namespace Face

@[simp]
theorem comment_groupIf (b : Bool) (φ : Face) : (φ.groupIf b).comment = φ.comment := by
  cases b <;> rfl

@[simp]
theorem comment_asValue (d : Dialect) (φ : Face) : (φ.asValue d).comment = φ.comment := by
  unfold asValue
  split <;> rfl

@[simp]
theorem comment_asCondition (d : Dialect) (φ : Face) : (φ.asCondition d).comment = φ.comment := by
  unfold asCondition
  split
  · rfl
  · cases d <;> rfl

end Face

structure Sketch where
  expr : Expr
  face : Face

namespace Sketch

def null : Sketch := ⟨.null, .closed false⟩

def value (d : Dialect) (x : Sketch) : Face := x.face.asValue d

def grouped (d : Dialect) (x : Sketch) : Face := (x.value d).groupIf (isOperation x.expr)

def condition (d : Dialect) (x : Sketch) : Face :=
  (x.face.groupIf (!x.face.predicate && isOperation x.expr)).asCondition d

def valueUnder (d : Dialect) (op : BinaryOp) (right : Bool) (x : Sketch) : Face :=
  (x.face.groupIf (clashesUnder op right x.expr)).asValue d

def conditionUnder (d : Dialect) (op : BinaryOp) (right : Bool) (x : Sketch) : Face :=
  (x.face.groupIf (clashesUnder op right x.expr)).asCondition d

end Sketch

namespace Sketch

variable (d : Dialect) (x : Sketch)

@[simp] theorem comment_value : (x.value d).comment = x.face.comment := by simp [value]

@[simp] theorem comment_grouped : (x.grouped d).comment = x.face.comment := by simp [grouped]

@[simp] theorem comment_condition : (x.condition d).comment = x.face.comment := by simp [condition]

end Sketch

/-- The SQL operator that an operator of the language becomes, if it stays one between its operands. -/
def infixOf? (d : Dialect) : BinaryOp → Option InfixOp
  | .add => some .add
  | .sub => some .sub
  | .mul => some .mul
  | .div => some .div
  | .mod => if d.hasPercent then some .mod else none
  | .eq | .eqEq => some .eq
  | .notEq => some .ne
  | .lt => some .lt
  | .gt => some .gt
  | .ltEq => some .le
  | .gtEq => some .ge
  | .and => some .and
  | .or => some .or
  | .concat | .other _ => none

def Sketch.under (d : Dialect) (op : BinaryOp) (right : Bool) (x : Sketch) : Face :=
  if op.isLogical then x.conditionUnder d op right else x.valueUnder d op right

def anyComment (xs : List Sketch) : Bool := xs.any (·.face.comment)

section
variable (xs : List Sketch)

@[simp] theorem comment_null : Sketch.null.face.comment = false := rfl

theorem anyComment_take_one : anyComment (xs.take 1) = (xs.getD 0 .null).face.comment := by
  cases xs <;> simp [anyComment]

theorem anyComment_take_two : anyComment (xs.take 2) =
    ((xs.getD 0 .null).face.comment || (xs.getD 1 .null).face.comment) := by
  rcases xs with _ | ⟨x, _ | ⟨y, xs⟩⟩ <;> simp [anyComment]

theorem anyComment_take_three : anyComment (xs.take 3) = ((xs.getD 0 .null).face.comment ||
    ((xs.getD 1 .null).face.comment || (xs.getD 2 .null).face.comment)) := by
  rcases xs with _ | ⟨x, _ | ⟨y, _ | ⟨z, xs⟩⟩⟩ <;> simp [anyComment]

end

/-- A concatenation is closed, unless it has one part that needs no guard. -/
def concatFace (d : Dialect) : List Sketch → Face
  | [x] =>
    if d = .oracle ∨ d = .sqlite ∧ x.expr.calledName = some "CONCAT" then x.grouped d
    else .closed x.face.comment
  | xs => .closed (anyComment xs)

def binaryFace (d : Dialect) (op : BinaryOp) (l r : Sketch) : Face :=
  match op, infixOf? d op with
  | .concat, _ => concatFace d [l, r]
  | _, none => .closed (anyComment [l, r])
  | op, some o =>
    let face := Face.binary o (l.under d op false) (r.under d op true)
    if op.isLogical || op.isComparison then face.asPredicate else face

def unaryFace (d : Dialect) (neg : Binding → Bool) (op : UnaryOp) (x : Sketch) : Face :=
  match op with
  | .minus =>
    match x.expr.asNumber? with
    | some n => ⟨false, [], neg (.number n.neg), false⟩
    | none => .minus (x.grouped d)
  | .not => .not (x.condition d)
  | .plus | .other _ => x.face

def literalFace (neg : Binding → Bool) : Literal → Face
  | .number n => ⟨false, [], neg (.number n), false⟩
  | .text s => ⟨false, [], neg (.text s), false⟩
  | .boolean b => ⟨false, [], neg (.boolean b), false⟩
  | .null => .closed false

def sumSketch (d : Dialect) : List Sketch → Sketch
  | [] => .null
  | [x] => x
  | x :: xs => ⟨.binary .add x.expr (sumSketch d xs).expr, binaryFace d .add x (sumSketch d xs)⟩

def averageFace (d : Dialect) (neg : Binding → Bool) : List Sketch → Face
  | [] => .closed false
  | [x] => x.value d
  | xs =>
    let count : Literal := .number (.ofNat xs.length)
    (binaryFace d .div ⟨.call (some "SUM") (xs.map Sketch.expr), (sumSketch d xs).value d⟩
      ⟨.literal count, literalFace neg count⟩).asValue d

/-- How many arguments a function writes into its SQL, where that is not all of them. -/
def writtenArgs (d : Dialect) : Builtin → Option Nat
  | .countAll | .trueValue | .falseValue | .blank | .recordId | .arrayUnique | .arraySort
  | .arrayCompact | .arraySlice => some 0
  | .now => if d = .sqlite ∨ d = .oracle then some 0 else none
  | .ceiling | .floor | .even | .odd | .value | .float | .urlEncode | .dateText | .weekday | .isBlank
  | .isNotBlank => some 1
  | .int => if d = .postgres ∨ d = .oracle then none else some 1
  | .trim => if d = .mssql then some 1 else none
  | .day | .month | .year => if d = .mysql ∨ d = .mssql then none else some 1
  | .hour => if d = .mysql then none else some 1
  | .round | .roundUp | .roundDown | .mod | .log | .search | .url | .dateAdd | .dateDiff => some 2
  | .left | .repeatText => if d = .sqlite ∨ d = .oracle then some 2 else none
  | .regexMatch => if d = .mysql then none else some 2
  | .regexExtract => if d = .postgres then some 2 else none
  | .jsonExtract => if d = .mssql ∨ d = .sqlite then none else some 2
  | .mid | .substr => if d = .mssql then some 3 else none
  | .regexReplace => if d = .postgres then some 3 else none
  | .ifElse => some 3
  | _ => none

def closedCall (d : Dialect) (f : Builtin) (args : List Sketch) : Face :=
  let written := match writtenArgs d f with
    | some n => args.take n
    | none => args
  { Face.closed (anyComment written) with predicate := isTest d f }

/-- The last characters: SQLite and Oracle count them by a minus sign. -/
def trailingFace (d : Dialect) (args : List Sketch) : Face :=
  if d = .sqlite ∨ d = .oracle then
    .closed ((args.getD 0 .null).face.comment || (Face.minus ((args.getD 1 .null).grouped d)).comment)
  else .closed (anyComment args)

def builtinFace (d : Dialect) (neg : Binding → Bool) (f : Builtin) (args : List Sketch) : Face :=
  match f, args with
  | .add, xs | .sum, xs => (sumSketch d xs).value d
  | .avg, xs => averageFace d neg xs
  | .min, [x] | .max, [x] => x.value d
  | .and, [x] | .or, [x] => x.condition d
  | .xor, [x] => if d = .mysql then x.condition d else closedCall d .xor [x]
  | .concat, xs => concatFace d xs
  | .right, xs => trailingFace d xs
  | .isBlank, [] | .isNotBlank, [] => ⟨true, [.between .eq], false, false⟩
  | .isBlank, x :: xs =>
    if d = .oracle then (Face.binary .is (x.grouped d) (.closed false)).asPredicate
    else closedCall d .isBlank (x :: xs)
  | f, xs => closedCall d f xs

def callFace (d : Dialect) (neg : Binding → Bool) (name : Option String) (args : List Sketch) : Face :=
  match name with
  | none => .closed false
  | some name =>
    match Builtin.ofName? (Text.upper name) with
    | some f => builtinFace d neg f args
    | none => .closed (anyComment args)

mutual

def face (d : Dialect) (neg : Binding → Bool) : Expr → Face
  | .literal v => literalFace neg v
  | .column _ => .closed false
  | .binary op l r => binaryFace d op ⟨l, face d neg l⟩ ⟨r, face d neg r⟩
  | .unary op e => unaryFace d neg op ⟨e, face d neg e⟩
  | .call name args => callFace d neg name (sketches d neg args)
  | .unsupported _ => .closed false

def sketches (d : Dialect) (neg : Binding → Bool) : List Expr → List Sketch
  | [] => []
  | e :: es => ⟨e, face d neg e⟩ :: sketches d neg es

end

end SheetQuery.Sql
