import SheetQuery.Check
import SheetQuery.CommandLine.Command
import SheetQuery.Compile
import SheetQuery.Expr.Printer
import SheetQuery.Json.Printer
import SheetQuery.Pattern.Parts
import SheetQuery.Settings
import SheetQuery.Source

/-! What the commands print. A run is a function of the command line, of standard input, of the settings file and
of the readers that formulas are checked with. -/

namespace SheetQuery.CommandLine

def notJsonText : String := "the text is not a JSON value"

def readers : Readers where
  patternFault? s := if Pattern.isValid s then none else some "the text is not a pattern that can be run"
  jsonFault? s := if (Json.parse? s).isSome then none else some notJsonText

structure Outcome where
  code : Nat
  stdout : String
  stderr : String
deriving DecidableEq, Repr, Inhabited

/-- Why a run fails, with a cause for some of the reasons. -/
inductive RunError
  | input (e : InputError)
  | invalidColumn (spec : String)
  | unknownColumnType (name type : String)
  | refused (n : Notice)
deriving Repr, Inhabited

def RunError.message : RunError → String
  | input e => e.message
  | invalidColumn spec => "invalid column '" ++ spec ++ "', expected NAME=TYPE"
  | unknownColumnType name type => "unknown column type '" ++ type ++ "' for '" ++ name ++ "'"
  | refused n => n.refusal

def RunError.cause? : RunError → Option String
  | input .notJson => some notJsonText
  | _ => none

def RunError.report (e : RunError) : String :=
  let cause := match e.cause? with
    | some c => "\n\nCaused by:\n    " ++ c
    | none => ""
  "Error: " ++ e.message ++ cause ++ "\n"

def lines (ls : List String) : String := String.join (ls.map (· ++ "\n"))

/-- The formula of an argument; a hyphen stands for standard input. -/
def formulaText (stdin arg : String) : String := if arg = "-" then Text.trimEnd stdin else arg

/-- A column with its type, written `name=type`. -/
def addColumn (schema : Schema) (spec : String) : Except RunError Schema :=
  let name := spec.toList.takeWhile (· != '=')
  match spec.toList.drop name.length with
  | [] => .error (.invalidColumn spec)
  | _ :: type =>
    let name := String.ofList name
    let type := String.ofList type
    match DataType.ofName? (Text.trim type) with
    | some t => .ok (schema.insert (Text.trim name) t)
    | none => .error (.unknownColumnType name type)

def schemaOf (columns : List String) : Except RunError (Option Schema) :=
  match columns with
  | [] => .ok none
  | columns => do return some (← columns.foldlM addColumn .empty)

def readExpr (text : String) (isTree : Bool) : Except RunError Expr :=
  (if isTree then InputForm.tree.read text else Expr.ofInput text).mapError .input

def bindingJson : Binding → Json
  | .number n => .number n
  | .text s => .text s
  | .boolean b => .bool b

def noticeKind (n : Notice) : String := if n.isPassThrough then "pass_through" else "unsupported"

def noticeJson (n : Notice) : Json :=
  .object [("detail", .text n.detail), ("kind", .text (noticeKind n))]

def noticeLine (n : Notice) : String :=
  "note: " ++ (if n.isPassThrough then "PassThrough(" else "Unsupported(") ++ Text.listed n.detail ++ ")"

/-- What a compilation prints: SQL with its bindings, or all of it as JSON. -/
def compiledOutput (c : CompileCommand) (d : Dialect) (compiled : Compiled) : Outcome :=
  let fragment := compiled.fragment
  let sql := if c.inline then fragment.inline d else fragment.text
  let bindings := if c.inline then [] else fragment.bindings.map bindingJson
  if c.json then
    let shown := Json.object [("bindings", .array bindings), ("dialect", .text d.name),
      ("notices", .array (compiled.notices.map noticeJson)), ("sql", .text sql)]
    ⟨0, lines [shown.pretty], ""⟩
  else
    let bound := if bindings.isEmpty then [] else ["-- bindings: " ++ (Json.array bindings).compact]
    ⟨0, lines (sql :: bound), lines (compiled.notices.map noticeLine)⟩

/-- Compiles with settings that have been read. Columns are checked first, and an error among what is
found ends the run. -/
def compileWith (readers : Readers) (settings : Settings) (stdin : String) (c : CompileCommand) :
    Except RunError Outcome := do
  let e ← readExpr (formulaText stdin c.formula) c.isTree
  let found := match ← schemaOf c.columns with
    | some schema => e.diagnostics readers (some schema) ⟨0, 0⟩
    | none => []
  let report := lines (found.map Diagnostic.line)
  if found.any Diagnostic.isError then return ⟨1, "", report⟩
  let d := c.dialect.getD settings.defaultDialect
  let names := { settings.naming with
    outputName := c.outputName
    tableAlias := c.tableAlias.or settings.tableAlias }
  let compiled := if c.condition then e.compileCondition d names else e.compile d names
  if c.strict || settings.strict then
    if let n :: _ := compiled.notices then
      return ⟨1, "", report ++ (RunError.refused n).report⟩
  let out := compiledOutput c d compiled
  return { out with stderr := report ++ out.stderr }

def diagnosticJson (d : Diagnostic) : Json :=
  .object [("severity", .text d.severity.name), ("message", .text d.message),
    ("span", .object [("start", .nat d.span.start), ("end", .nat d.span.finish)])]

/-- Checks a formula; a syntax tree has no text to place diagnostics in. -/
def checkOutcome (readers : Readers) (stdin formula : String) (columns : List String) (json : Bool) :
    Except RunError Outcome := do
  let text := formulaText stdin formula
  let schema ← schemaOf columns
  let found ←
    if InputForm.tree.accepts text then do
      pure ((← readExpr text true).diagnostics readers schema ⟨0, 0⟩)
    else pure (Diagnostic.ofFormula readers schema text)
  let shown :=
    if json then [(Json.array (found.map diagnosticJson)).pretty]
    else if found.isEmpty then ["ok"]
    else found.map Diagnostic.line
  return ⟨if found.any Diagnostic.isError then 1 else 0, lines shown, ""⟩

def formatOutcome (stdin formula : String) : Except RunError Outcome := do
  let e ← readExpr (formulaText stdin formula) false
  return ⟨0, lines [e.format], ""⟩

def functionJson (f : Builtin) : Json :=
  .object [("name", .text f.name), ("arity", .text f.signature.arity.summary),
    ("returns", .text f.signature.returns.summary)]

def padded (width : Nat) (s : String) : String :=
  s ++ String.ofList (List.replicate (width - s.length) ' ')

def functionLine (name arity returns : String) : String :=
  padded 16 name ++ " " ++ padded 8 arity ++ " " ++ returns

def functionsOutcome (json : Bool) : Outcome :=
  if json then ⟨0, lines [(Json.array (Builtin.registered.map functionJson)).pretty], ""⟩
  else
    let rows := Builtin.registered.map fun f =>
      functionLine f.name f.signature.arity.summary f.signature.returns.summary
    ⟨0, lines (functionLine "FUNCTION" "ARGS" "RETURNS" :: rows), ""⟩

def versionText : String := "formula-sql 0.1.0"

def helpText : String :=
  "Type-check spreadsheet formulas and compile them to SQL\n\n"
    ++ "Usage: formula-sql <compile|check|fmt|functions> [OPTIONS] [FORMULA]"

def outcomeOf (before : String) : Except RunError Outcome → Outcome
  | .ok out => { out with stderr := before ++ out.stderr }
  | .error e => ⟨1, "", before ++ e.report⟩

/-- Compiles with the settings of the file, or with the defaults if the file cannot be read. -/
def compileOutcome (readers : Readers) (file : Option String) (stdin : String) (c : CompileCommand) : Outcome :=
  match Settings.load? file with
  | some settings => outcomeOf "" (compileWith readers settings stdin c)
  | none =>
    outcomeOf "warning: ignoring config file: it is not a valid settings file\n"
      (compileWith readers .default stdin c)

def Command.run (readers : Readers) (file : Option String) (stdin : String) : Command → Outcome
  | .compile c => compileOutcome readers file stdin c
  | .check formula columns json => outcomeOf "" (checkOutcome readers stdin formula columns json)
  | .format formula => outcomeOf "" (formatOutcome stdin formula)
  | .functions json => functionsOutcome json
  | .version => ⟨0, lines [versionText], ""⟩
  | .help => ⟨0, lines [helpText], ""⟩

def run (readers : Readers) (file : Option String) (stdin : String) (args : List String) : Outcome :=
  match Command.ofArgs args with
  | .ok command => command.run readers file stdin
  | .error e => ⟨2, "", "error: " ++ e.message ++ "\n\n" ++ helpText ++ "\n"⟩

def readsInput (args : List String) : Bool :=
  match Command.ofArgs args with
  | .ok (.compile c) => c.formula = "-"
  | .ok (.check formula _ _) => formula = "-"
  | .ok (.format formula) => formula = "-"
  | _ => false

end SheetQuery.CommandLine
