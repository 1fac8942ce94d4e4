/-! Arguments of a command line. Options may stand anywhere; `--` ends them. An option with a value takes
it after an equals sign or from the next argument, which then may not look like an option; letters may be
written together. -/

namespace SheetQuery.CommandLine

/-- How often an option may be given and whether it has a value. -/
inductive OptionKind
  /-- Without a value, once. -/
  | flag
  /-- Without a value, any number of times. -/
  | count
  /-- With a value, once. -/
  | value
  /-- With a value, any number of times. -/
  | values
deriving DecidableEq, Repr, Inhabited

structure OptionSpec where
  name : String
  letter : Option Char
  kind : OptionKind
deriving DecidableEq, Repr, Inhabited

def OptionSpec.takesValue (s : OptionSpec) : Bool := s.kind == .value || s.kind == .values

inductive UsageError
  | unexpected (arg : String)
  | missingValue (option : String)
  | repeated (option : String)
  | invalidValue (option value : String)
  | missingFormula
  | missingCommand
deriving DecidableEq, Repr, Inhabited

def UsageError.message : UsageError → String
  | unexpected arg => "unexpected argument '" ++ arg ++ "'"
  | missingValue option => "'--" ++ option ++ "' needs a value"
  | repeated option => "'--" ++ option ++ "' is given more than once"
  | invalidValue option value => "invalid value '" ++ value ++ "' for '--" ++ option ++ "'"
  | missingFormula => "a formula is missing"
  | missingCommand => "a command is missing"

inductive Given
  | plain (arg : String)
  | flag (option : String)
  | value (option value : String)
deriving DecidableEq, Repr, Inhabited

/-- Whether an argument looks like an option; a single hyphen does not. -/
def looksLikeOption (arg : String) : Bool := arg.startsWith '-' && arg != "-"

/-- Letters written together. The last may be an option that still needs its value. -/
def letters (specs : List OptionSpec) (arg : String) :
    List Char → Except UsageError (List Given × Option String)
  | [] => .ok ([], none)
  | c :: cs =>
    match specs.find? (·.letter = some c) with
    | none => .error (.unexpected arg)
    | some s =>
      if s.takesValue then
        match cs with
        | [] => .ok ([], some s.name)
        | '=' :: cs => .ok ([.value s.name (String.ofList cs)], none)
        | cs => .ok ([.value s.name (String.ofList cs)], none)
      else
        match letters specs arg cs with
        | .ok (given, pending) => .ok (.flag s.name :: given, pending)
        | .error e => .error e

def named (specs : List OptionSpec) (arg : String) : Except UsageError (List Given × Option String) :=
  let cs := arg.toList.drop 2
  let name := cs.takeWhile (· != '=')
  match specs.find? (·.name = String.ofList name), cs.drop name.length with
  | none, _ => .error (.unexpected arg)
  | some s, [] => .ok (if s.takesValue then ([], some s.name) else ([.flag s.name], none))
  | some s, _ :: value =>
    if s.takesValue then .ok ([.value s.name (String.ofList value)], none) else .error (.unexpected arg)

def option (specs : List OptionSpec) (arg : String) : Except UsageError (List Given × Option String) :=
  if arg.startsWith "--" then named specs arg else letters specs arg (arg.toList.drop 1)

def readArgs (specs : List OptionSpec) : List String → Except UsageError (List Given)
  | [] => .ok []
  | arg :: rest =>
    if arg = "--" then .ok (rest.map .plain)
    else if !looksLikeOption arg then do return .plain arg :: (← readArgs specs rest)
    else
      match option specs arg, rest with
      | .error e, _ => .error e
      | .ok (given, none), rest => do return given ++ (← readArgs specs rest)
      | .ok (_, some name), [] => .error (.missingValue name)
      | .ok (given, some name), value :: rest =>
        if looksLikeOption value then .error (.missingValue name)
        else do return given ++ .value name value :: (← readArgs specs rest)

structure Arguments where
  given : List Given
deriving Repr, Inhabited

namespace Arguments

def plain (a : Arguments) : List String :=
  a.given.filterMap fun
    | .plain s => some s
    | _ => none

def values (a : Arguments) (name : String) : List String :=
  a.given.filterMap fun
    | .value n v => if n = name then some v else none
    | _ => none

def value? (a : Arguments) (name : String) : Option String := (a.values name).head?

def has (a : Arguments) (name : String) : Bool := a.given.contains (.flag name)

def times (a : Arguments) (name : String) : Nat :=
  a.given.countP fun
    | .plain _ => false
    | .flag n => n = name
    | .value n _ => n = name

/-- Reads arguments and refuses an option that is given too often. -/
def read (specs : List OptionSpec) (args : List String) : Except UsageError Arguments := do
  let a : Arguments := ⟨← readArgs specs args⟩
  match specs.find? fun s => (s.kind = .flag || s.kind = .value) && 1 < a.times s.name with
  | some s => .error (.repeated s.name)
  | none => return a

end Arguments

end SheetQuery.CommandLine
