import SheetQuery.Sql.Arithmetic

/-! SQL of the functions that choose and of those that test. -/

namespace SheetQuery.Sql

def ifElse (d : Dialect) (args : List Operand) : Noted Fragment := do
  let test ← match args.head? with
    | some x => x.condition d
    | none => pure "1 = 0"
  let yes ← arg d args 1
  if 2 < args.length then
    let no ← arg d args 2
    return "CASE WHEN " ++ test ++ " THEN " ++ yes ++ " ELSE " ++ no ++ " END"
  else return "CASE WHEN " ++ test ++ " THEN " ++ yes ++ " END"

/-- The branches of a choice by value: a case and its result each, and perhaps a last result for all
else. -/
def branches (d : Dialect) : List Operand → Noted Fragment
  | [] => pure Fragment.empty
  | [x] => return " ELSE " ++ (← x.value d)
  | case :: result :: rest => do
    let case ← case.value d
    let result ← result.value d
    let more ← branches d rest
    return " WHEN " ++ case ++ " THEN " ++ result ++ more

def switch (d : Dialect) (args : List Operand) : Noted Fragment := do
  let subject ← arg d args 0
  let more ← branches d (args.drop 1)
  return "CASE " ++ subject ++ more ++ " END"

/-- Conditions joined by a word; one condition stands alone. -/
def allOf (d : Dialect) (word : String) : List Operand → Noted Fragment
  | [x] => x.condition d
  | xs => do
    let conditions ← Noted.all (xs.map (Operand.groupedCondition d))
    return (Fragment.join (" " ++ word ++ " ") conditions).parenthesized.asPredicate

/-- Whether an odd number of conditions hold; only MySQL has a word for it. -/
def xor (d : Dialect) (args : List Operand) : Noted Fragment :=
  match d with
  | .mysql => allOf d "XOR" args
  | _ => do
    let conditions ← Noted.all (args.map (Operand.condition d))
    let total := (Fragment.join " + " (conditions.map oneIf)).parenthesized
    return ("(" ++ remainder d total "2" ++ " = 1)").asPredicate

def isBlank (d : Dialect) (args : List Operand) : Noted Fragment :=
  match args.head? with
  | none => pure (Fragment.raw "1 = 1").asPredicate
  | some x => do
    let v ← x.grouped d
    return Fragment.asPredicate <|
      if d = .oracle then v ++ " IS NULL"
      else "(" ++ v ++ " IS NULL OR " ++ castText d v ++ " = '')"

def isNotBlank (d : Dialect) (args : List Operand) : Noted Fragment :=
  match args.head? with
  | none => pure (Fragment.raw "1 = 0").asPredicate
  | some x => Fragment.parenthesized <$> isFilled d x

/-- Functions on arrays need the rows of a linked table, which one row does not have. -/
def arrayFunction : Noted Fragment := do
  Noted.notice .arrayFunction
  return .null

end SheetQuery.Sql
