import SheetQuery.Text.Ascii

/-! The types of formula values. -/

namespace SheetQuery

inductive DataType
  | numeric
  | text
  | date
  | boolean
  | logical
  /-- The result of a comparison or a connective. -/
  | condition
  | interval
  /-- The values of a lookup or link column, one for each related row. -/
  | array
  | null
  | unknown
deriving DecidableEq, Repr, Inhabited

namespace DataType

/-- A quiet type draws no diagnostics about types. -/
def isQuiet : DataType → Bool
  | null | unknown => true
  | _ => false

/-- Whether a value may stand where a condition is expected. -/
def fitsCondition : DataType → Bool
  | condition | boolean | logical | numeric => true
  | _ => false

def isBoolean : DataType → Bool
  | boolean | logical => true
  | _ => false

/-- A number beside a boolean; booleans act as 0 and 1. -/
def mixesWith (a b : DataType) : Bool :=
  (a == numeric && b.isBoolean) || (a.isBoolean && b == numeric)

def label : DataType → String
  | numeric => "Number"
  | text => "Text"
  | date => "Date"
  | boolean | logical => "Boolean"
  | condition => "Condition"
  | interval => "Time"
  | array => "Array"
  | null => "Empty"
  | unknown => "Unknown"

def code : DataType → String
  | numeric => "NUMERIC"
  | text => "STRING"
  | date => "DATE"
  | boolean => "BOOLEAN"
  | logical => "LOGICAL"
  | condition => "COND_EXP"
  | interval => "INTERVAL"
  | array => "ARRAY"
  | null => "NULL"
  | unknown => "UNKNOWN"

/-- Reads the spelling of a column type, in any case. -/
def ofName? (name : String) : Option DataType :=
  match Text.asciiLower name with
  | "number" | "numeric" | "decimal" | "integer" => some numeric
  | "text" | "string" => some text
  | "date" | "datetime" => some date
  | "boolean" | "bool" | "checkbox" => some boolean
  | "logical" => some logical
  | "interval" | "time" | "duration" => some interval
  | "array" | "lookup" | "links" => some array
  | "null" => some null
  | "unknown" => some unknown
  | "cond_exp" | "condition" => some condition
  | _ => none

end DataType

end SheetQuery
