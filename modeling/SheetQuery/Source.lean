import SheetQuery.Expr.Parser
import SheetQuery.Expr.Tree
import SheetQuery.Json.Parser
import SheetQuery.Text.Blank

/-! Input in either of two forms: a syntax tree in JSON, or formula text. Formula text may begin with a
brace too, so only a whole JSON object is taken for a tree; anything else that is not blank is text. -/

namespace SheetQuery

inductive InputForm
  | tree
  | text
deriving DecidableEq, Repr, Inhabited

inductive InputError
  | formula (e : ParseError)
  | notJson
  | noForm
deriving DecidableEq, Repr, Inhabited

def InputError.message : InputError → String
  | formula e => e.message
  | notJson => "invalid JSON expression tree"
  | noForm => "No adapter found that can handle this input"

namespace InputForm

def accepts : InputForm → String → Bool
  | tree, s => (Text.trimStart s).startsWith '{' && (Json.parse? s).any Json.isObject
  | text, s => Text.trim s != ""

def read : InputForm → String → Except InputError Expr
  | tree, s =>
    match Json.parse? s with
    | some v => .ok (.ofJson v)
    | none => .error .notJson
  | text, s =>
    match Expr.parse s with
    | .ok e => .ok e
    | .error e => .error (.formula e)

/-- The forms in the order in which they are tried. -/
def all : List InputForm := [tree, text]

end InputForm

/-- Reads an input in the first form that accepts it. -/
def Expr.ofInput (s : String) : Except InputError Expr :=
  match InputForm.all.find? (·.accepts s) with
  | some form => form.read s
  | none => .error .noForm

end SheetQuery
