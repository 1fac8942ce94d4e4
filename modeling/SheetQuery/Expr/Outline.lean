import SheetQuery.Number.Layout
import SheetQuery.Text.Quoted
import SheetQuery.Typing

/-! Outlines: expressions as nested parentheses, every node with its kind and parts, for listings. A typed
expression has the type before every node. -/

namespace SheetQuery

def outlineNode (head : String) (parts : List String) : String :=
  "(" ++ " ".intercalate (head :: parts) ++ ")"

def Expr.outlineHead : Expr → String
  | .literal (.number n) => "num " ++ n.display
  | .literal (.text s) => "str " ++ Text.jsonQuoted s
  | .literal (.boolean b) => if b then "bool true" else "bool false"
  | .literal .null => "null"
  | .column name => "id " ++ Text.jsonQuoted name
  | .binary (.other s) _ _ => "bin-other " ++ Text.jsonQuoted s
  | .binary op _ _ => "bin " ++ op.symbol
  | .unary (.other s) _ => "un-other " ++ Text.jsonQuoted s
  | .unary op _ => "un " ++ op.symbol
  | .call (some name) _ => "call " ++ Text.jsonQuoted name
  | .call none _ => "call-nameless"
  | .unsupported kind => "unsupported " ++ Text.jsonQuoted kind

mutual

def Expr.outline : Expr → String
  | .binary op l r => outlineNode (Expr.outlineHead (.binary op l r)) [Expr.outline l, Expr.outline r]
  | .unary op e => outlineNode (Expr.outlineHead (.unary op e)) [Expr.outline e]
  | .call name args => outlineNode (Expr.outlineHead (.call name args)) (Expr.outlines args)
  | .literal v => outlineNode (Expr.outlineHead (.literal v)) []
  | .column name => outlineNode (Expr.outlineHead (.column name)) []
  | .unsupported kind => outlineNode (Expr.outlineHead (.unsupported kind)) []

def Expr.outlines : List Expr → List String
  | [] => []
  | e :: es => Expr.outline e :: Expr.outlines es

end

mutual

def Typed.outline : Typed → String
  | .node e type parts => type.code ++ ":" ++ outlineNode e.outlineHead (Typed.outlines parts)

def Typed.outlines : List Typed → List String
  | [] => []
  | t :: ts => Typed.outline t :: Typed.outlines ts

end

end SheetQuery
