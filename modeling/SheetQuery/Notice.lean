/-! Notices: what a compilation could only do as well as it can. A result that comes with notices keeps
them in the order in which they arose. -/

namespace SheetQuery

inductive Notice
  /-- A function that is not built in, called by its name as it stands. -/
  | passThrough (name : String)
  | unknownKind (kind : String)
  | unknownOperator (symbol : String)
  | unknownUnary (symbol : String)
  | namelessCall
  | arrayFunction
  | startDay
  | jsonPath
deriving DecidableEq, Repr, Inhabited

namespace Notice

def isPassThrough : Notice → Bool
  | passThrough _ => true
  | _ => false

def detail : Notice → String
  | passThrough name => name
  | unknownKind kind => "expression type '" ++ kind ++ "'"
  | unknownOperator s => "operator '" ++ s ++ "'"
  | unknownUnary s => "unary operator '" ++ s ++ "'"
  | namelessCall => "function call without a name"
  | arrayFunction => "array functions over lookup columns"
  | startDay => "WEEKDAY start day that is not a literal day name"
  | jsonPath => "JSON_EXTRACT with a non-literal path"

/-- What is said where the notice counts as an error. -/
def refusal (n : Notice) : String :=
  if n.isPassThrough then "unknown function '" ++ n.detail ++ "' cannot be compiled"
  else "unsupported expression: " ++ n.detail

/-- Each notice once, where it first arose. -/
def firsts : List Notice → List Notice
  | [] => []
  | n :: ns => n :: (firsts ns).filter (· != n)

end Notice

/-- A result and the notices that arose on the way to it. -/
structure Noted (α : Type) where
  result : α
  notices : List Notice
deriving Repr, Inhabited

namespace Noted

instance : Monad Noted where
  pure a := ⟨a, []⟩
  bind x f :=
    let y := f x.result
    ⟨y.result, x.notices ++ y.notices⟩

def notice (n : Notice) : Noted Unit := ⟨(), [n]⟩

def all {α : Type} (xs : List (Noted α)) : Noted (List α) :=
  ⟨xs.map Noted.result, xs.flatMap Noted.notices⟩

end Noted

end SheetQuery
