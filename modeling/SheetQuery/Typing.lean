import SheetQuery.Calendar
import SheetQuery.Expr.Basic
import SheetQuery.Schema
import SheetQuery.Signature

/-! Types of expressions. `Typed.of` gives every node of an expression its type in one walk, from the
leaves up; a date written as a text is a date exactly where a function expects one. -/

namespace SheetQuery

inductive Typed
  | node (expr : Expr) (type : DataType) (children : List Typed)
deriving Repr, Inhabited

namespace Typed

def expr : Typed → Expr
  | node e _ _ => e

def type : Typed → DataType
  | node _ t _ => t

def children : Typed → List Typed
  | node _ _ cs => cs

/-- The type of a literal where `expected` is asked for. -/
def valueType (expected : Option DataType) : Literal → DataType
  | .number _ => .numeric
  | .text s => if expected = some .date ∧ Calendar.beginsWithDate s then .date else .text
  | .boolean _ => .boolean
  | .null => .null

/-- The types that `+` adds as numbers; with any other it joins texts. -/
def addsAsNumber : DataType → Bool
  | .numeric | .boolean | .logical | .null | .unknown => true
  | _ => false

def operationType (op : BinaryOp) (l r : DataType) : DataType :=
  match op, l, r with
  | .add, .date, .interval | .add, .interval, .date => .date
  | .sub, .date, .interval => .date
  | .sub, .date, .date => .interval
  | .concat, _, _ => .text
  | .add, l, r => if addsAsNumber l && addsAsNumber r then .numeric else .text
  | .other _, _, _ => .unknown
  | op, _, _ => if op.isComparison || op.isLogical then .condition else .numeric

def unaryType : UnaryOp → DataType
  | .minus | .plus => .numeric
  | .not => .condition
  | .other _ => .unknown

mutual

def build (schema : Option Schema) (expected : Option DataType) : Expr → Typed
  | .literal v => node (.literal v) (valueType expected v) []
  | .column name => node (.column name) ((schema.bind (·.get? name)).getD .unknown) []
  | .unary op e => node (.unary op e) (unaryType op) [build schema none e]
  | .binary op l r =>
    let l' := build schema none l
    let r' := build schema none r
    node (.binary op l r) (operationType op l'.type r'.type) [l', r']
  | .call name args =>
    let signature := (name.bind Builtin.lookup).map Builtin.signature
    let args' := buildArgs schema (fun i => signature.bind (·.expected? i)) 0 args
    let type := match signature with
      | some s => s.returns.typeOf (args'.map Typed.type)
      | none => .unknown
    node (.call name args) type args'
  | .unsupported kind => node (.unsupported kind) .unknown []

/-- Types the arguments of a call, the first of which stands at position `i`. -/
def buildArgs (schema : Option Schema) (expected : Nat → Option DataType) (i : Nat) :
    List Expr → List Typed
  | [] => []
  | a :: as => build schema (expected i) a :: buildArgs schema expected (i + 1) as

end

/-- The typed form of an expression. Without a schema all columns are of unknown type. -/
def of (schema : Option Schema) (e : Expr) : Typed := build schema none e

end Typed

end SheetQuery
