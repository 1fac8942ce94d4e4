import SheetQuery.Expr.Basic
import SheetQuery.Number.Layout
import SheetQuery.Token.Lexer

/-! Expressions as formula text in one canonical spelling: call names in upper case, texts in single quotes,
columns in braces unless the bare name reads back as the column, and only the parentheses that the tree
needs. -/

namespace SheetQuery.Printer

def textChar : Char → List Char
  | '\'' => ['\\', '\'']
  | '\\' => ['\\', '\\']
  | '\n' => ['\\', 'n']
  | '\t' => ['\\', 't']
  | '\r' => ['\\', 'r']
  | c => [c]

def literal : Literal → String
  | .number n => n.plain
  | .text s => String.ofList ('\'' :: s.toList.flatMap textChar ++ ['\''])
  | .boolean true => "true"
  | .boolean false => "false"
  | .null => "null"

/-- Whether a column name stands for itself without braces. -/
def standsBare (name : String) : Bool :=
  match name.toList with
  | [] => false
  | c :: cs =>
    (c == '_' || c == '$' || Text.isLetter c) && cs.all Lexer.isNameChar &&
      !(name == "true" || name == "false" || name == "null")

def column (name : String) : String :=
  if standsBare name then name else "\x7b" ++ name ++ "\x7d"

def isBinary : Expr → Bool
  | .binary .. => true
  | _ => false

/-- Whether a part binds less tightly than an operator of precedence `p` needs it to. -/
def bindsBelow (p : Nat) : Expr → Bool
  | .binary op _ _ => op.precedence < p
  | _ => false

def parenthesize (needed : Bool) (s : String) : String :=
  if needed then "(" ++ s ++ ")" else s

mutual

def expr : Expr → String
  | .literal v => literal v
  | .column name => column name
  | .unary op e => op.symbol ++ parenthesize (isBinary e) (expr e)
  | .binary op l r =>
    -- a right operand of the same precedence was grouped by hand
    parenthesize (bindsBelow op.precedence l) (expr l) ++ " " ++ op.symbol ++ " " ++
      parenthesize (bindsBelow (op.precedence + 1) r) (expr r)
  | .call name args => (name.map Text.upper).getD "" ++ "(" ++ ", ".intercalate (exprs args) ++ ")"
  | .unsupported kind => kind

def exprs : List Expr → List String
  | [] => []
  | e :: es => expr e :: exprs es

end

end SheetQuery.Printer

namespace SheetQuery

def Expr.format (e : Expr) : String := Printer.expr e

end SheetQuery
