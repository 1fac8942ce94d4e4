import SheetQuery.CommandLine.Args
import SheetQuery.Dialect

/-! The commands of the tool and how they are written. -/

namespace SheetQuery.CommandLine

structure CompileCommand where
  formula : String
  dialect : Option Dialect
  outputName : Option String
  tableAlias : Option String
  columns : List String
  /-- Whether the formula is a syntax tree for certain. -/
  isTree : Bool
  condition : Bool
  strict : Bool
  inline : Bool
  json : Bool
deriving Repr, Inhabited

inductive Command
  | compile (c : CompileCommand)
  | check (formula : String) (columns : List String) (json : Bool)
  | format (formula : String)
  | functions (json : Bool)
  | version
  | help
deriving Repr, Inhabited

def sharedOptions : List OptionSpec := [⟨"verbose", some 'v', .count⟩, ⟨"help", some 'h', .flag⟩]

def topOptions : List OptionSpec := sharedOptions ++ [⟨"version", some 'V', .flag⟩]

def compileArgs : List OptionSpec := sharedOptions ++ [
  ⟨"dialect", some 'd', .value⟩, ⟨"alias", none, .value⟩, ⟨"table", none, .value⟩,
  ⟨"column", none, .values⟩, ⟨"json-ast", none, .flag⟩, ⟨"condition", none, .flag⟩,
  ⟨"strict", none, .flag⟩, ⟨"inline", none, .flag⟩, ⟨"verify", none, .flag⟩, ⟨"json", none, .flag⟩]

def checkOptions : List OptionSpec :=
  sharedOptions ++ [⟨"column", none, .values⟩, ⟨"json", none, .flag⟩]

def functionsOptions : List OptionSpec := sharedOptions ++ [⟨"json", none, .flag⟩]

namespace Arguments

def formula (a : Arguments) : Except UsageError String :=
  match a.plain with
  | [s] => .ok s
  | [] => .error .missingFormula
  | _ :: s :: _ => .error (.unexpected s)

def dialect? (a : Arguments) : Except UsageError (Option Dialect) :=
  match a.value? "dialect" with
  | none => .ok none
  | some name =>
    match Dialect.ofName name with
    | .ok d => .ok (some d)
    | .error _ => .error (.invalidValue "dialect" name)

end Arguments

def readCompile (a : Arguments) : Except UsageError Command := do
  let formula ← a.formula
  let dialect ← a.dialect?
  return .compile {
    formula, dialect
    outputName := a.value? "alias"
    tableAlias := a.value? "table"
    columns := a.values "column"
    isTree := a.has "json-ast"
    condition := a.has "condition"
    strict := a.has "strict"
    inline := a.has "inline"
    json := a.has "json" }

/-- A command's own arguments, unless they ask for help. -/
def withArgs (specs : List OptionSpec) (args : List String) (f : Arguments → Except UsageError Command) :
    Except UsageError Command := do
  let a ← Arguments.read specs args
  if a.has "help" then return .help else f a

def readCommand (name : String) (args : List String) : Except UsageError Command :=
  match name with
  | "compile" => withArgs compileArgs args readCompile
  | "check" => withArgs checkOptions args fun a =>
      return .check (← a.formula) (a.values "column") (a.has "json")
  | "fmt" => withArgs sharedOptions args fun a => return .format (← a.formula)
  | "functions" => withArgs functionsOptions args fun a =>
      match a.plain with
      | [] => return .functions (a.has "json")
      | s :: _ => .error (.unexpected s)
  | "help" => return .help
  | name => .error (.unexpected name)

/-- A whole command line: options of the tool, then a command. -/
def Command.ofArgs : List String → Except UsageError Command
  | [] => .error .missingCommand
  | arg :: rest =>
    if arg = "--" then .error (.unexpected arg)
    else if looksLikeOption arg then do
      match ← option topOptions arg with
      | (given, _) =>
        if given.contains (.flag "version") then return .version
        else if given.contains (.flag "help") then return .help
        else Command.ofArgs rest
    else readCommand arg rest

end SheetQuery.CommandLine
