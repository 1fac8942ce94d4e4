import SheetQuery.Expr.Basic
import SheetQuery.Fragment
import SheetQuery.Notice

/-! Operands and the places they are put in. An operand is an expression with its SQL. As a value, as a
condition, and below an operator it is written differently: predicates become values and values predicates
where the dialect asks for it, and operator expressions get parentheses. -/

namespace SheetQuery

structure Naming where
  /-- The name of the result. -/
  outputName : Option String
  /-- The table that columns are taken from. -/
  tableAlias : Option String
  /-- The column that identifies a record. -/
  recordIdColumn : String
deriving DecidableEq, Repr

def Naming.default : Naming := ⟨none, none, "id"⟩

structure Operand where
  expr : Expr
  sql : Noted Fragment

namespace Sql

def asValue (d : Dialect) (f : Fragment) : Fragment :=
  if f.isPredicate && !d.predicatesAreValues then "CASE WHEN " ++ f ++ " THEN 1 ELSE 0 END"
  else f.asValue

def asCondition (d : Dialect) (f : Fragment) : Fragment :=
  if f.isPredicate then f
  else
    match d with
    | .mssql | .oracle => (f ++ " <> 0").asPredicate
    | .postgres => ("CAST(" ++ f ++ " AS BOOLEAN)").asPredicate
    | .mysql | .sqlite => f.asPredicate

/-- Whether the SQL of an expression is an operator expression. -/
def isOperation : Expr → Bool
  | .binary _ _ _ => true
  | .unary .minus e => e.asNumber?.isNone
  | _ => false

/-- Whether an expression needs parentheses as a side of `op`. -/
def clashesUnder (op : BinaryOp) (right : Bool) : Expr → Bool
  | .binary inner _ _ => op ≠ inner || (right && inner.groupsLeft)
  | _ => false

def groupIf (b : Bool) (f : Fragment) : Fragment := if b then f.parenthesized else f

def castTo (type : String) (f : Fragment) : Fragment := "CAST(" ++ f ++ (" AS " ++ type ++ ")")

def castFloat (d : Dialect) (f : Fragment) : Fragment := castTo d.floatName f

def castText (d : Dialect) (f : Fragment) : Fragment := castTo d.textName f

def remainder (d : Dialect) (l r : Fragment) : Fragment :=
  if d.hasPercent then l ++ " % " ++ r else "MOD(" ++ l ++ ", " ++ r ++ ")"

def groupedRemainder (d : Dialect) (l r : Fragment) : Fragment :=
  groupIf d.hasPercent (remainder d l r)

def callText (name : String) (args : List Fragment) : Fragment :=
  (name ++ "(") ++ Fragment.join ", " args ++ ")"

/-- A text with each occurrence of `old` replaced; neither text may hold a quote. -/
def replaceIn (old new : String) (f : Fragment) : Fragment :=
  "REPLACE(" ++ f ++ (", '" ++ old ++ "', '" ++ new ++ "')")

/-- One for a predicate that holds and zero for any other. -/
def oneIf (f : Fragment) : Fragment := "CASE WHEN " ++ f ++ " THEN 1 ELSE 0 END"

/-- A quoted column, of the table if one is named. -/
def columnText (d : Dialect) (names : Naming) (name : String) : Fragment :=
  match names.tableAlias with
  | some table => d.quote table ++ "." ++ d.quote name
  | none => d.quote name

def literalText : Literal → Fragment
  | .number n => .bind (.number n)
  | .text s => .bind (.text s)
  | .boolean b => .bind (.boolean b)
  | .null => .null

end Sql

namespace Operand

open Sql

def literal (v : Literal) : Operand := ⟨.literal v, pure (literalText v)⟩

def null : Operand := literal .null

def text (s : String) : Operand := literal (.text s)

def value (d : Dialect) (x : Operand) : Noted Fragment := asValue d <$> x.sql

def grouped (d : Dialect) (x : Operand) : Noted Fragment :=
  groupIf (isOperation x.expr) <$> x.value d

def condition (d : Dialect) (x : Operand) : Noted Fragment :=
  (fun f => asCondition d (groupIf (!f.isPredicate && isOperation x.expr) f)) <$> x.sql

/-- As a condition among others. What begins with a parenthesis gets no more of them. -/
def groupedCondition (d : Dialect) (x : Operand) : Noted Fragment :=
  (fun f => groupIf (isOperation x.expr && !f.text.startsWith '(') f) <$> x.condition d

/-- As a side of an operator that takes values. -/
def valueUnder (d : Dialect) (op : BinaryOp) (right : Bool) (x : Operand) : Noted Fragment :=
  (fun f => asValue d (groupIf (clashesUnder op right x.expr) f)) <$> x.sql

/-- As a side of an operator that takes conditions. -/
def conditionUnder (d : Dialect) (op : BinaryOp) (right : Bool) (x : Operand) : Noted Fragment :=
  (fun f => asCondition d (groupIf (clashesUnder op right x.expr) f)) <$> x.sql

end Operand

namespace Sql

/-- The argument at an index as a value; a missing one is NULL. -/
def arg (d : Dialect) (args : List Operand) (i : Nat) : Noted Fragment :=
  (args.getD i .null).value d

def groupedArg (d : Dialect) (args : List Operand) (i : Nat) : Noted Fragment :=
  (args.getD i .null).grouped d

def values (d : Dialect) (args : List Operand) : Noted (List Fragment) :=
  .all (args.map (Operand.value d))

/-- A call of the database's own function with all arguments as values. -/
def nativeCall (d : Dialect) (name : String) (args : List Operand) : Noted Fragment :=
  callText name <$> values d args

/-- Two operands joined by an operator on values. -/
def joined (d : Dialect) (op : BinaryOp) (l r : Operand) : Operand where
  expr := .binary op l.expr r.expr
  sql := do
    let left ← l.valueUnder d op false
    let right ← r.valueUnder d op true
    return left ++ (" " ++ op.symbol ++ " ") ++ right

def literalArg? (args : List Operand) (i : Nat) : Option String :=
  args[i]?.bind (·.expr.asText?)

def numberArg? (args : List Operand) (i : Nat) : Option Number :=
  args[i]?.bind (·.expr.asNumber?)

end Sql

end SheetQuery
