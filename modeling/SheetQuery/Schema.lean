import SheetQuery.DataType

/-! The columns a formula may refer to, with their types. -/

namespace SheetQuery

structure Schema where
  columns : List (String × DataType)
deriving DecidableEq, Repr, Inhabited

namespace Schema

def empty : Schema := ⟨[]⟩

def get? (s : Schema) (name : String) : Option DataType := s.columns.lookup name

def contains (s : Schema) (name : String) : Bool := (s.get? name).isSome

/-- Adds a column, or gives a column that is there its new type. -/
def insert (s : Schema) (name : String) (type : DataType) : Schema :=
  if s.contains name then
    ⟨s.columns.map fun (n, t) => if n = name then (n, type) else (n, t)⟩
  else ⟨s.columns ++ [(name, type)]⟩

def size (s : Schema) : Nat := s.columns.length

end Schema

end SheetQuery
