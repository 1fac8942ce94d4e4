import SheetQuery.Expr.Basic
import SheetQuery.Text.Ascii

/-! The canonical form of expressions. Six passes, in order, reduce the sugar of the language: averages to
sums and divisions, sums to chains of `+`, links to concatenations, `&` to `CONCAT`, `==` to `=`, and the
dividend of every division to a float. -/

namespace SheetQuery

mutual

def Expr.rebuild (f : Expr → Expr) : Expr → Expr
  | .binary op l r => f (.binary op (Expr.rebuild f l) (Expr.rebuild f r))
  | .unary op e => f (.unary op (Expr.rebuild f e))
  | .call name args => f (.call name (Expr.rebuildAll f args))
  | .literal v => f (.literal v)
  | .column name => f (.column name)
  | .unsupported kind => f (.unsupported kind)

def Expr.rebuildAll (f : Expr → Expr) : List Expr → List Expr
  | [] => []
  | e :: es => Expr.rebuild f e :: Expr.rebuildAll f es

end

/-- A step that changes one node whose parts are done. -/
structure Pass where
  name : String
  step : Expr → Expr

def Pass.run (p : Pass) (e : Expr) : Expr := e.rebuild p.step

namespace Canonical

/-- Whether a call has this name, up to the case of ASCII letters. -/
def hasName (name : Option String) (expected : String) : Bool :=
  match name with
  | some n => Text.sameLetters n expected
  | none => false

/-- The sum of the terms, grouped to the right; an empty sum is NULL. -/
def sumOf : List Expr → Expr
  | [] => .null
  | [e] => e
  | e :: es => .binary .add e (sumOf es)

/-- The average of the terms; that of one term is the term. -/
def averageOf : List Expr → Expr
  | [] => .null
  | [e] => e
  | es => .binary .div (.call (some "SUM") es) (.number (.ofNat es.length))

def linkOf (args : List Expr) : Expr :=
  let target := args.head?.getD .null
  let label := match args[1]? with
    | some e => [.text " LABEL::(", e, .text ")"]
    | none => []
  .call (some "CONCAT") ([.text "URI::(", target, .text ")"] ++ label)

def averageCalls : Expr → Expr
  | .call name args =>
    if hasName name "AVG" && !args.isEmpty then averageOf args else .call name args
  | e => e

def sumCalls : Expr → Expr
  | .call name args =>
    if (hasName name "ADD" || hasName name "SUM") && !args.isEmpty then sumOf args
    else .call name args
  | e => e

def linkCalls : Expr → Expr
  | .call name args =>
    if hasName name "URL" && !args.isEmpty then linkOf args else .call name args
  | e => e

def concatParts : Expr → List Expr
  | .call name args => if hasName name "CONCAT" then args else [.call name args]
  | e => [e]

def joinConcat : Expr → Expr
  | .binary .concat l r => .call (some "CONCAT") (concatParts l ++ concatParts r)
  | e => e

def unifyEquality : Expr → Expr
  | .binary .eqEq l r => .binary .eq l r
  | e => e

def floatDividend : Expr → Expr
  | .binary .div l r =>
    if l.calledName = some "FLOAT" then .binary .div l r
    else .binary .div (.call (some "FLOAT") [l]) r
  | e => e

/-- The passes to canonical form. The order matters: an average becomes a sum and a division, which later
passes reduce further. -/
def passes : List Pass := [
  ⟨"expand_average", averageCalls⟩,
  ⟨"fold_sum", sumCalls⟩,
  ⟨"expand_url", linkCalls⟩,
  ⟨"concat_operator", joinConcat⟩,
  ⟨"normalize_equality", unifyEquality⟩,
  ⟨"float_division", floatDividend⟩]

def runAll (ps : List Pass) (e : Expr) : Expr := ps.foldl (fun e p => p.run e) e

end Canonical

def Expr.canonical (e : Expr) : Expr := Canonical.runAll Canonical.passes e

end SheetQuery
