import SheetQuery.Canonical
import SheetQuery.Sql.Table

/-! Expressions to SQL. An expression is brought to canonical form and then written bottom-up. Functions
that are not built in are called by their own name, and what cannot be written is NULL; both give a
notice. -/

namespace SheetQuery

namespace Sql

def binary (d : Dialect) (op : BinaryOp) (l r : Operand) : Noted Fragment :=
  match op with
  | .and => logical "AND"
  | .or => logical "OR"
  | .eqEq => comparison "="
  | .notEq => comparison "<>"
  | .eq | .lt | .gt | .ltEq | .gtEq => comparison op.symbol
  | .concat => concat d [l, r]
  | .other s => do
    Noted.notice (.unknownOperator s)
    let left ← l.valueUnder d op false
    let right ← r.valueUnder d op true
    -- braces in the symbol count as part of the pattern
    return .template ("\x7b\x7d " ++ s ++ " \x7b\x7d") [left, right]
  | .mod =>
    if d.hasPercent then (joined d op l r).sql
    else do
      let left ← l.value d
      let right ← r.value d
      return remainder d left right
  | .add | .sub | .mul | .div => (joined d op l r).sql
where
  logical (word : String) : Noted Fragment := do
    let left ← l.conditionUnder d op false
    let right ← r.conditionUnder d op true
    return (left ++ (" " ++ word ++ " ") ++ right).asPredicate
  comparison (symbol : String) : Noted Fragment := do
    let left ← l.valueUnder d op false
    let right ← r.valueUnder d op true
    return (left ++ (" " ++ symbol ++ " ") ++ right).asPredicate

/-- A prefix operator before its operand. A negative literal is one value. -/
def unary (d : Dialect) (op : UnaryOp) (x : Operand) : Noted Fragment :=
  match op with
  | .minus =>
    match x.expr.asNumber? with
    | some n => pure (.bind (.number n.neg))
    | none => (fun f => "-" ++ f) <$> x.grouped d
  | .plus => x.sql
  | .not => return ("NOT (" ++ (← x.condition d) ++ ")").asPredicate
  | .other s => do
    Noted.notice (.unknownUnary s)
    let f ← x.grouped d
    return .template (s ++ "\x7b\x7d") [f]

/-- A call of a function by its name in any case. -/
def call (d : Dialect) (names : Naming) (name : Option String) (args : List Operand) :
    Noted Fragment :=
  match name with
  | none => do
    Noted.notice .namelessCall
    return .null
  | some name =>
    match Builtin.ofName? (Text.upper name) with
    | some f =>
      match entry d names f with
      | .native own => nativeCall d own args
      | .shaped write => write args
    | none => do
      Noted.notice (.passThrough name)
      nativeCall d name args

mutual

def write (d : Dialect) (names : Naming) : Expr → Noted Fragment
  | .literal v => pure (literalText v)
  | .column name => pure (columnText d names name)
  | .binary op l r => binary d op ⟨l, write d names l⟩ ⟨r, write d names r⟩
  | .unary op e => unary d op ⟨e, write d names e⟩
  | .call name args => call d names name (operands d names args)
  | .unsupported kind => do
    Noted.notice (.unknownKind kind)
    return .null

def operands (d : Dialect) (names : Naming) : List Expr → List Operand
  | [] => []
  | e :: es => ⟨e, write d names e⟩ :: operands d names es

end

end Sql

structure Compiled where
  fragment : Fragment
  notices : List Notice
deriving Repr, Inhabited

def Expr.operand (d : Dialect) (names : Naming) (e : Expr) : Operand :=
  ⟨e.canonical, Sql.write d names e.canonical⟩

/-- Compiles an expression as a value, under its output name if there is one. -/
def Expr.compile (d : Dialect) (names : Naming) (e : Expr) : Compiled :=
  let noted := (e.operand d names).value d
  let fragment := match names.outputName with
    | some name => noted.result.push (" AS " ++ d.quote name)
    | none => noted.result
  ⟨fragment, Notice.firsts noted.notices⟩

def Expr.compileCondition (d : Dialect) (names : Naming) (e : Expr) : Compiled :=
  let noted := (e.operand d names).condition d
  ⟨noted.result, Notice.firsts noted.notices⟩

/-- Compiles an expression as a value where every notice is an error. -/
def Expr.compileStrict (d : Dialect) (names : Naming) (e : Expr) : Except Notice Fragment :=
  let compiled := e.compile d names
  match compiled.notices with
  | [] => .ok compiled.fragment
  | n :: _ => .error n

end SheetQuery
