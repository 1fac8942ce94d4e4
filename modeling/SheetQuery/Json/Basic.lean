import SheetQuery.Number.Basic

/-! JSON values. An object keeps its fields as they are written; of two fields with one name the later
counts. -/

namespace SheetQuery

inductive Json
  | null
  | bool (b : Bool)
  | number (n : Number)
  | text (s : String)
  | array (items : List Json)
  | object (fields : List (String × Json))
deriving Repr, Inhabited

namespace Json

def nat (n : Nat) : Json := number (.ofNat n)

def optText : Option String → Json
  | some s => text s
  | none => null

def isObject : Json → Bool
  | object _ => true
  | _ => false

/-- The value of the last field with this name. -/
def lastNamed? {α : Type} (name : String) : List (String × α) → Option α
  | [] => none
  | (key, a) :: fields =>
    match lastNamed? name fields with
    | some b => some b
    | none => if key = name then some a else none

def field? (name : String) : Json → Option Json
  | object fields => lastNamed? name fields
  | _ => none

def text? : Json → Option String
  | text s => some s
  | _ => none

def bool? : Json → Option Bool
  | bool b => some b
  | _ => none

def array? : Json → Option (List Json)
  | array items => some items
  | _ => none

/-- The whole number at or below a number that is not negative. -/
def nat? : Json → Option Nat
  | number n => if n.negative && !n.isZero then none else some n.wholePart
  | _ => none

end Json

end SheetQuery
