/-! The operators of the formula language. A tree that was not written as a formula may hold operators the
language does not have; they keep their symbol. -/

namespace SheetQuery

inductive BinaryOp
  | add
  | sub
  | mul
  | div
  | mod
  /-- `=` -/
  | eq
  /-- `==`, the other spelling of `=` -/
  | eqEq
  | notEq
  | lt
  | gt
  | ltEq
  | gtEq
  /-- `&`, text concatenation -/
  | concat
  | and
  | or
  | other (symbol : String)
deriving DecidableEq, Repr, Inhabited

namespace BinaryOp

def symbol : BinaryOp → String
  | add => "+"
  | sub => "-"
  | mul => "*"
  | div => "/"
  | mod => "%"
  | eq => "="
  | eqEq => "=="
  | notEq => "!="
  | lt => "<"
  | gt => ">"
  | ltEq => "<="
  | gtEq => ">="
  | concat => "&"
  | and => "&&"
  | or => "||"
  | other s => s

def ofSymbol (s : String) : BinaryOp :=
  match s with
  | "+" => add
  | "-" => sub
  | "*" => mul
  | "/" => div
  | "%" => mod
  | "=" => eq
  | "==" => eqEq
  | "!=" => notEq
  | "<" => lt
  | ">" => gt
  | "<=" => ltEq
  | ">=" => gtEq
  | "&" => concat
  | "&&" => and
  | "||" => or
  | s => other s

def isComparison : BinaryOp → Bool
  | eq | eqEq | notEq | lt | gt | ltEq | gtEq => true
  | _ => false

def isEquality : BinaryOp → Bool
  | eq | eqEq | notEq => true
  | _ => false

def isLogical : BinaryOp → Bool
  | and | or => true
  | _ => false

/-- How tightly an operator binds, from 1 for `||` to 7 for `*`; unknown operators come last. -/
def precedence : BinaryOp → Nat
  | or => 1
  | and => 2
  | eq | eqEq | notEq => 3
  | lt | gt | ltEq | gtEq => 4
  | concat => 5
  | add | sub => 6
  | mul | div | mod => 7
  | other _ => 0

/-- Whether `a op (b op c)` differs from `(a op b) op c`. -/
def groupsLeft : BinaryOp → Bool
  | sub | div | mod => true
  | op => op.isComparison

end BinaryOp

inductive UnaryOp
  | minus
  | plus
  | not
  | other (symbol : String)
deriving DecidableEq, Repr, Inhabited

namespace UnaryOp

def symbol : UnaryOp → String
  | minus => "-"
  | plus => "+"
  | not => "!"
  | other s => s

def ofSymbol (s : String) : UnaryOp :=
  match s with
  | "-" => minus
  | "+" => plus
  | "!" => not
  | s => other s

end UnaryOp

end SheetQuery
