import SheetQuery.Sql.Basic

/-! SQL of the numeric functions. -/

namespace SheetQuery.Sql

/-- A sum as a chain of `+` grouped to the right. -/
def sumChain (d : Dialect) : List Operand → Operand
  | [] => .null
  | [x] => x
  | x :: xs => joined d .add x (sumChain d xs)

def sum (d : Dialect) (args : List Operand) : Noted Fragment := (sumChain d args).value d

def average (d : Dialect) : List Operand → Noted Fragment
  | [] => Operand.null.value d
  | [x] => x.value d
  | xs =>
    let total : Operand := ⟨.call (some "SUM") (xs.map Operand.expr), sum d xs⟩
    (joined d .div total (.literal (.number (.ofNat xs.length)))).value d

/-- The least or greatest argument; that of one argument is the argument. SQL Server has no function for
it and asks an aggregate over rows. -/
def extreme (d : Dialect) (name aggregate : String) : List Operand → Noted Fragment
  | [x] => x.value d
  | xs =>
    match d with
    | .mssql => do
      let vs ← values d xs
      let rows := Fragment.join ", " (vs.map fun v => "(" ++ v ++ ")")
      return ("(SELECT " ++ aggregate ++ "(v) FROM (VALUES ") ++ rows ++ ") AS t(v))"
    | .sqlite => nativeCall d aggregate xs
    | _ => nativeCall d name xs

def countIf (test : Operand → Noted Fragment) (args : List Operand) : Noted Fragment :=
  match args with
  | [] => pure "0"
  | args => do
    let terms ← Noted.all (args.map test)
    return (Fragment.join " + " (terms.map oneIf)).parenthesized

def isPresent (d : Dialect) (x : Operand) : Noted Fragment :=
  return (← x.grouped d) ++ " IS NOT NULL"

/-- Neither NULL nor the empty text, which Oracle does not tell apart. -/
def isFilled (d : Dialect) (x : Operand) : Noted Fragment := do
  let v ← x.grouped d
  return Fragment.asPredicate <|
    if d = .oracle then v ++ " IS NOT NULL"
    else v ++ " IS NOT NULL AND " ++ castText d v ++ " <> ''"

/-- The digits to round to, by default none. -/
def precision (d : Dialect) (args : List Operand) : Noted Fragment :=
  if 1 < args.length then arg d args 1 else pure "0"

/-- PostgreSQL rounds to digits only what is NUMERIC. -/
def round (d : Dialect) (args : List Operand) : Noted Fragment := do
  let v ← arg d args 0
  let digits ← precision d args
  return match d with
    | .postgres => "ROUND(" ++ castTo "NUMERIC" v ++ ", " ++ castTo "INTEGER" digits ++ ")"
    | _ => "ROUND(" ++ v ++ ", " ++ digits ++ ")"

/-- SQLite rounds up by a comparison with what truncation gives. -/
def roundedUp (d : Dialect) (v : Fragment) : Fragment :=
  match d with
  | .mssql => "CEILING(" ++ v ++ ")"
  | .sqlite => "(" ++ castTo "INTEGER" v ++ " + (" ++ v ++ " > " ++ castTo "INTEGER" v ++ "))"
  | _ => "CEIL(" ++ v ++ ")"

def roundedDown (d : Dialect) (v : Fragment) : Fragment :=
  match d with
  | .sqlite => "(" ++ castTo "INTEGER" v ++ " - (" ++ v ++ " < " ++ castTo "INTEGER" v ++ "))"
  | _ => "FLOOR(" ++ v ++ ")"

/-- Rounds in one direction at a number of digits. -/
def roundTowards (direction : Dialect → Fragment → Fragment) (d : Dialect) (args : List Operand) :
    Noted Fragment := do
  let v ← groupedArg d args 0
  let digits ← precision d args
  let power := "POWER(10.0, " ++ digits ++ ")"
  return "(" ++ direction d (v ++ " * " ++ power) ++ " / " ++ power ++ ")"

/-- Away from zero to an even number. -/
def even (d : Dialect) (args : List Operand) : Noted Fragment := do
  let v ← arg d args 0
  let half := castFloat d v ++ " / 2"
  return "CASE WHEN " ++ v ++ " >= 0 THEN " ++ roundedUp d half ++ " * 2 ELSE " ++ roundedDown d half
    ++ " * 2 END"

/-- Away from zero to an odd number. -/
def odd (d : Dialect) (args : List Operand) : Noted Fragment := do
  let v ← arg d args 0
  let up := roundedUp d ("(" ++ castFloat d v ++ " + 1) / 2")
  let down := roundedDown d ("(" ++ castFloat d v ++ " - 1) / 2")
  return "CASE WHEN " ++ v ++ " >= 0 THEN " ++ up ++ " * 2 - 1 ELSE " ++ down ++ " * 2 + 1 END"

def modulo (d : Dialect) (args : List Operand) : Noted Fragment := do
  let l ← groupedArg d args 0
  let r ← groupedArg d args 1
  return groupedRemainder d l r

/-- The natural logarithm of one argument, or that of the second to the base of the first. SQL Server
takes the base last. -/
def logarithm (d : Dialect) (args : List Operand) : Noted Fragment := do
  let first ← arg d args 0
  if args.length < 2 then
    return (if d = .mssql then "LOG(" else "LN(") ++ first ++ ")"
  else
    let second ← arg d args 1
    return match d with
      | .mssql => "LOG(" ++ second ++ ", " ++ first ++ ")"
      | _ => "LOG(" ++ first ++ ", " ++ second ++ ")"

/-- The whole part, where the database has no function of that form. -/
def wholePart (d : Dialect) (args : List Operand) : Noted Fragment := do
  let v ← arg d args 0
  return match d with
    | .mysql => "TRUNCATE(" ++ v ++ ", 0)"
    | .mssql => castTo "BIGINT" v
    | _ => castTo "INTEGER" v

/-- What a text of a number may hold besides digits, point and minus. -/
def numberMarks : List String := ["$", "€", "£", "¥", ",", "%", "+", " "]

/-- A text without the marks, or NULL if nothing else is in it. -/
def withoutMarks (text : Fragment) : Fragment :=
  "NULLIF(" ++ numberMarks.foldl (fun f mark => replaceIn mark "" f) text ++ ", '')"

def numberOfText (d : Dialect) (args : List Operand) : Noted Fragment := do
  let v ← arg d args 0
  return match d with
    | .mysql => "(NULLIF(REGEXP_REPLACE(" ++ v ++ ", '[^0-9.-]', ''), '') + 0)"
    | .postgres =>
      castTo "DOUBLE PRECISION" ("NULLIF(REGEXP_REPLACE(" ++ castText d v ++ ", '[^0-9.-]', '', 'g'), '')")
    | .mssql => "TRY_CAST(" ++ withoutMarks (castText d v) ++ " AS FLOAT)"
    | .sqlite => castTo "REAL" (withoutMarks (castText d v))
    | .oracle =>
      "TO_NUMBER(REGEXP_REPLACE(" ++ v ++ ", '[^0-9.-]', '') DEFAULT NULL ON CONVERSION ERROR)"

end SheetQuery.Sql
