import SheetQuery.Number.Basic
import SheetQuery.Operator
import SheetQuery.Text.Upper

/-! Formula expressions: trees of literals, columns, operators and calls. What a tree given from outside
holds beyond that is kept as `unsupported`, with the name of its kind. -/

namespace SheetQuery

inductive Literal
  | number (n : Number)
  | text (s : String)
  | boolean (b : Bool)
  | null
deriving DecidableEq, Repr, Inhabited

inductive Expr
  | literal (value : Literal)
  | column (name : String)
  | binary (op : BinaryOp) (left right : Expr)
  | unary (op : UnaryOp) (operand : Expr)
  /-- A call; one that came without a usable name has none. -/
  | call (name : Option String) (args : List Expr)
  | unsupported (kind : String)
deriving Repr, Inhabited

namespace Expr

def number (n : Number) : Expr := literal (.number n)

def text (s : String) : Expr := literal (.text s)

def null : Expr := literal .null

def calledName : Expr → Option String
  | call (some name) _ => some (Text.upper name)
  | _ => none

/-- The number a literal denotes, seen through any signs before it. -/
def asNumber? : Expr → Option Number
  | literal (.number n) => some n
  | unary .minus e => e.asNumber?.map Number.neg
  | unary .plus e => e.asNumber?
  | _ => none

def asText? : Expr → Option String
  | literal (.text s) => some s
  | _ => none

def children : Expr → List Expr
  | binary _ l r => [l, r]
  | unary _ e => [e]
  | call _ args => args
  | _ => []

/-- Induction where a call may assume the statement of each of its arguments. -/
@[elab_as_elim]
theorem induct {P : Expr → Prop} (literal : ∀ v, P (.literal v)) (column : ∀ n, P (.column n))
    (binary : ∀ op l r, P l → P r → P (.binary op l r)) (unary : ∀ op e, P e → P (.unary op e))
    (call : ∀ n args, (∀ a ∈ args, P a) → P (.call n args)) (unsupported : ∀ k, P (.unsupported k))
    (e : Expr) : P e :=
  @Expr.rec P (fun args => ∀ a ∈ args, P a) literal column binary unary call unsupported (by simp)
    (fun a args ha hargs b hb => by
      rcases List.mem_cons.1 hb with rfl | hb
      · exact ha
      · exact hargs b hb) e

end Expr

/-- Equality of literals by value: the two zeros are equal and NaN differs from itself. -/
def Literal.same : Literal → Literal → Bool
  | .number a, .number b => a.same b
  | .text a, .text b => a == b
  | .boolean a, .boolean b => a == b
  | .null, .null => true
  | _, _ => false

mutual
/-- Equality of trees, with literals compared by value. -/
def Expr.same : Expr → Expr → Bool
  | .literal a, .literal b => a.same b
  | .column a, .column b => a == b
  | .binary o l r, .binary o' l' r' => o == o' && Expr.same l l' && Expr.same r r'
  | .unary o e, .unary o' e' => o == o' && Expr.same e e'
  | .call n as, .call n' as' => n == n' && Expr.sameAll as as'
  | .unsupported a, .unsupported b => a == b
  | _, _ => false

def Expr.sameAll : List Expr → List Expr → Bool
  | [], [] => true
  | a :: as, b :: bs => Expr.same a b && Expr.sameAll as bs
  | _, _ => false
end

end SheetQuery
