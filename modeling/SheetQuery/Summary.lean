import SheetQuery.Builtin
import SheetQuery.Expr.Basic

/-! What an expression uses: its columns and functions in the order in which they first occur, the
functions that are not built in, and how deep it is. One walk collects all of it. -/

namespace SheetQuery

structure Summary where
  columns : List String
  functions : List String
  unknownFunctions : List String
deriving DecidableEq, Repr, Inhabited

namespace Summary

/-- The list with `x` at its end unless it is there already. -/
def addNew (xs : List String) (x : String) : List String :=
  if x ∈ xs then xs else xs ++ [x]

def addColumn (s : Summary) (name : String) : Summary :=
  { s with columns := addNew s.columns name }

def addFunction (s : Summary) (name : String) : Summary :=
  { s with
    functions := addNew s.functions name
    unknownFunctions :=
      if (Builtin.lookup name).isNone then addNew s.unknownFunctions name else s.unknownFunctions }

mutual

/-- Adds what an expression uses to what is known; also gives its depth. -/
def walk (s : Summary) : Expr → Summary × Nat
  | .literal _ => (s, 1)
  | .column name => (s.addColumn name, 1)
  | .unsupported _ => (s, 1)
  | .unary _ e =>
    let (s, n) := walk s e
    (s, n + 1)
  | .binary _ l r =>
    let (s, n) := walk s l
    let (s, m) := walk s r
    (s, max n m + 1)
  | .call name args =>
    let s := match name with
      | some n => s.addFunction (Text.upper n)
      | none => s
    let (s, n) := walkAll s args
    (s, n + 1)

/-- The same for a list of expressions, with the greatest of their depths. -/
def walkAll (s : Summary) : List Expr → Summary × Nat
  | [] => (s, 0)
  | e :: es =>
    let (s, n) := walk s e
    let (s, m) := walkAll s es
    (s, max n m)

end

end Summary

/-- What the expression uses, and its depth; a leaf has depth 1. -/
def Expr.summary (e : Expr) : Summary × Nat := Summary.walk ⟨[], [], []⟩ e

end SheetQuery
