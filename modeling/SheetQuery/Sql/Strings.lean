import SheetQuery.Sql.Basic

/-! SQL of the functions on text, with patterns and JSON documents. -/

namespace SheetQuery.Sql

def piped : List Fragment → Fragment
  | [] => "''"
  | [f] => f
  | fs => (Fragment.join " || " fs).parenthesized

/-- A concatenation in which NULL counts as the empty text. PostgreSQL has a function that does that and
Oracle an operator; elsewhere each part is replaced if it is NULL. SQL Server wants at least two parts. -/
def concat (d : Dialect) (args : List Operand) : Noted Fragment :=
  match d with
  | .postgres => nativeCall d "CONCAT" args
  | .mysql => do
    let vs ← values d args
    return callText "CONCAT" (vs.map fun v => "IFNULL(" ++ v ++ ", '')")
  | .mssql => do
    let vs ← values d args
    return callText "CONCAT" (if vs.length < 2 then vs ++ [.raw "''"] else vs)
  | .oracle => piped <$> Noted.all (args.map (Operand.grouped d))
  | .sqlite =>
    -- a concatenation among the parts is never NULL
    let part (x : Operand) : Noted Fragment := do
      let v ← x.grouped d
      return if x.expr.calledName = some "CONCAT" then v else "COALESCE(" ++ v ++ ", '')"
    piped <$> Noted.all (args.map part)

/-- A link to the first argument, labelled with the second if there is one. -/
def link (d : Dialect) (args : List Operand) : Noted Fragment :=
  let label := match args[1]? with
    | some x => [.text " LABEL::(", x, .text ")"]
    | none => []
  asValue d <$> concat d ([.text "URI::(", args.head?.getD .null, .text ")"] ++ label)

/-- The characters that are escaped in a link, the escape sign before all others. -/
def linkEscapes : List (String × String) := [
  ("%", "%25"), (" ", "%20"), ("\"", "%22"), ("#", "%23"), ("&", "%26"), ("+", "%2B"), (",", "%2C"),
  ("/", "%2F"), (":", "%3A"), (";", "%3B"), ("=", "%3D"), ("?", "%3F"), ("@", "%40")]

def linkEncoded (d : Dialect) (args : List Operand) : Noted Fragment :=
  return linkEscapes.foldl (fun f (plain, escaped) => replaceIn plain escaped f) (← arg d args 0)

def trimmed (d : Dialect) (args : List Operand) : Noted Fragment :=
  return "LTRIM(RTRIM(" ++ (← arg d args 0) ++ "))"

def leading (d : Dialect) (args : List Operand) : Noted Fragment := do
  let text ← arg d args 0
  let count ← arg d args 1
  return "SUBSTR(" ++ text ++ ", 1, " ++ count ++ ")"

def trailing (d : Dialect) (args : List Operand) : Noted Fragment := do
  let text ← arg d args 0
  let count ← groupedArg d args 1
  return "SUBSTR(" ++ text ++ ", -" ++ count ++ ")"

/-- SQL Server always wants a length; all of the text is enough. -/
def substring (d : Dialect) (args : List Operand) : Noted Fragment := do
  let text ← arg d args 0
  let start ← arg d args 1
  let length ← match args[2]? with
    | some x => Operand.value d x
    | none => pure ("LEN(" ++ text ++ ")")
  return "SUBSTRING(" ++ text ++ ", " ++ start ++ ", " ++ length ++ ")"

def search (d : Dialect) (args : List Operand) : Noted Fragment := do
  let text ← arg d args 0
  let sought ← arg d args 1
  return match d with
    | .mysql => "LOCATE(" ++ sought ++ ", " ++ text ++ ")"
    | .postgres => "POSITION(" ++ sought ++ " IN " ++ text ++ ")"
    | .mssql => "CHARINDEX(" ++ sought ++ ", " ++ text ++ ")"
    | .sqlite | .oracle => "INSTR(" ++ text ++ ", " ++ sought ++ ")"

def repeated (d : Dialect) (args : List Operand) : Noted Fragment := do
  let text ← arg d args 0
  match d with
  | .oracle =>
    let count ← groupedArg d args 1
    return "RPAD(" ++ text ++ ", LENGTH(" ++ text ++ ") * " ++ count ++ ", " ++ text ++ ")"
  | _ =>
    let count ← arg d args 1
    return "REPLACE(HEX(ZEROBLOB(" ++ count ++ ")), '00', " ++ text ++ ")"

/-- Whether a text matches a pattern; in SQLite the answer is a value. -/
def patternMatch (d : Dialect) (args : List Operand) : Noted Fragment :=
  match d with
  | .postgres => do
    let text ← groupedArg d args 0
    let pattern ← groupedArg d args 1
    return ("(" ++ text ++ " ~ " ++ pattern ++ ")").asPredicate
  | .sqlite => do
    let text ← groupedArg d args 0
    let pattern ← groupedArg d args 1
    return "(" ++ text ++ " REGEXP " ++ pattern ++ ")"
  | _ => do
    let text ← arg d args 0
    let pattern ← arg d args 1
    return ("REGEXP_LIKE(" ++ text ++ ", " ++ pattern ++ ")").asPredicate

/-- The part of a text that matches, in PostgreSQL's form. -/
def patternExtract (d : Dialect) (args : List Operand) : Noted Fragment := do
  let text ← arg d args 0
  let pattern ← arg d args 1
  return "SUBSTRING(" ++ text ++ " FROM " ++ pattern ++ ")"

/-- All matches replaced, in PostgreSQL's form. -/
def patternReplace (d : Dialect) (args : List Operand) : Noted Fragment := do
  let text ← arg d args 0
  let pattern ← arg d args 1
  let replacement ← arg d args 2
  return "REGEXP_REPLACE(" ++ text ++ ", " ++ pattern ++ ", " ++ replacement ++ ", 'g')"

/-- A member of a JSON document as text. Oracle reads the path only as a literal, so there it is written
into the SQL. -/
def jsonMember (d : Dialect) (args : List Operand) : Noted Fragment := do
  let document ← arg d args 0
  match d with
  | .oracle =>
    match literalArg? args 1 with
    | some path =>
      return "JSON_VALUE(" ++ document ++ (", '" ++ Text.replaceChar '\'' ['\'', '\''] path ++ "')")
    | none =>
      Noted.notice .jsonPath
      let path ← arg d args 1
      return "JSON_VALUE(" ++ document ++ ", " ++ path ++ ")"
  | .postgres =>
    let path ← arg d args 1
    return "(JSONB_PATH_QUERY_FIRST(" ++ castTo "JSONB" document ++ ", " ++ castTo "JSONPATH" path
      ++ ") #>> '\x7b\x7d')"
  | _ =>
    let path ← arg d args 1
    return "JSON_UNQUOTE(JSON_EXTRACT(" ++ document ++ ", " ++ path ++ "))"

end SheetQuery.Sql
