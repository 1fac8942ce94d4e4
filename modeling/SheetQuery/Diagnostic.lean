import SheetQuery.Expr.Basic
import SheetQuery.Number.Layout
import SheetQuery.Signature
import SheetQuery.TimeUnit
import SheetQuery.Token.Basic

/-! What can be found in a formula: the causes, how severe each is, and what is said about it. -/

namespace SheetQuery

inductive Severity
  | error
  | warning
  | info
deriving DecidableEq, Repr, Inhabited

def Severity.name : Severity → String
  | error => "error"
  | warning => "warning"
  | info => "info"

/-- A range of byte offsets in formula text. -/
structure Span where
  start : Nat
  finish : Nat
deriving DecidableEq, Repr, Inhabited

inductive Finding
  | unreadable (fault : ParseFault)
  | unsupported (kind : String)
  -- literals and columns
  | dateAsText (s : String)
  | unsafeNumber (n : Number)
  | missingColumn (name : String)
  -- operators
  | divisionByZero
  | joinsNull
  | addsToText (l r : DataType)
  | addsDates
  | addsMixed (l r : DataType)
  | subtractsText
  | subtractsMixed (l r : DataType)
  | booleanFactor
  | factorType (op : BinaryOp) (l r : DataType)
  | comparesMixed (l r : DataType)
  | dateEquality
  | operatorMixed (op : BinaryOp) (l r : DataType)
  | negates (type : DataType)
  | inverts (type : DataType)
  | unknownUnary (symbol : String)
  -- calls
  | invalidCall
  | unknownFunction (name : String)
  | arity (function : Builtin) (fault : ArityFault)
  | booleanArgument (function : Builtin) (index : Nat) (expected : DataType)
  | argumentType (function : Builtin) (index : Nat) (expected actual : DataType)
  -- functions that choose
  | ifCondition (type : DataType)
  | ifBranches (yes no : DataType)
  | switchBranches (types : List DataType)
  | notConditional (function : Builtin)
  -- functions on text
  | concatNull
  | nullInput (function : Builtin)
  | negativePosition
  | nonPositiveLength
  | emptySearch
  | emptyReplacement
  | negativeRepeat
  | largeRepeat
  | linkScheme
  | invalidPattern (fault : String)
  | invalidJson (fault : String)
  | jsonPath
  -- functions on numbers
  | roundPrecision
  | moduloByZero
  | logarithmBase
  | logarithmOf
  | zeroToNegative
  | negativeRoot
  | notNumeric (s : String)
  -- functions on dates and arrays
  | shiftUnit (s : String)
  | elapsedUnit (s : String)
  | startDay (s : String)
  | sortDirection (s : String)
  | slicePosition
  | emptySlice
deriving DecidableEq, Repr, Inhabited

namespace Finding

def severity : Finding → Severity
  | unreadable _ | unsupported _ | missingColumn _ | divisionByZero | subtractsText | factorType _ _ _
  | negates _ | inverts _ | unknownUnary _ | invalidCall | unknownFunction _ | arity _ _
  | negativePosition | nonPositiveLength | negativeRepeat | invalidPattern _ | invalidJson _ | moduloByZero
  | logarithmBase | logarithmOf | zeroToNegative | negativeRoot | shiftUnit _ | elapsedUnit _ | startDay _
  | sortDirection _ | slicePosition => .error
  | unsafeNumber _ | addsDates | addsMixed _ _ | subtractsMixed _ _ | comparesMixed _ _
  | operatorMixed _ _ _ | argumentType _ _ _ _ | ifCondition _ | notConditional _ | concatNull
  | emptySearch | largeRepeat | linkScheme | jsonPath | roundPrecision | notNumeric _ | emptySlice =>
    .warning
  | dateAsText _ | joinsNull | addsToText _ _ | booleanFactor | dateEquality | booleanArgument _ _ _
  | ifBranches _ _ | switchBranches _ | nullInput _ | emptyReplacement => .info

def quoted (s : String) : String := "\"" ++ s ++ "\""

def between (word : String) (l r : DataType) : String := l.label ++ word ++ r.label

def choices : List String → String
  | [] => ""
  | [s] => quoted s
  | words => ", ".intercalate (words.dropLast.map quoted) ++ ", or " ++ quoted (words.getLastD "")

def message : Finding → String
  | unreadable fault => fault.message
  | unsupported kind => "Unsupported expression type: " ++ kind
  | dateAsText s =>
    quoted s ++ " looks like a date but is used as Text. Use a date function if date operations are intended."
  | unsafeNumber n => "Number " ++ n.plain ++ " exceeds safe integer limits and may lose precision"
  | missingColumn name => "Column '" ++ name ++ "' not found"
  | divisionByZero => "Division by zero will result in an error"
  | joinsNull => "Concatenating with a NULL value will result in NULL"
  | addsToText l r => "Mixed types in addition: " ++ between " + " l r ++ " will be converted to Text"
  | addsDates => "Adding two dates is not valid. Use DATETIME_DIFF for date calculations."
  | addsMixed l r => "Mixed types in addition: " ++ between " + " l r ++ " may give unexpected results"
  | subtractsText => "Cannot subtract with Text type"
  | subtractsMixed l r =>
    "Mixed types in subtraction: " ++ between " - " l r ++ " may give unexpected results"
  | booleanFactor => "Boolean values in multiplication/division will be treated as 0 or 1"
  | factorType op l r =>
    (if op = .mul then "Multiplication" else "Division") ++ " requires numeric values, but got "
      ++ between " and " l r
  | comparesMixed l r =>
    "Comparing different types: " ++ between " and " l r ++ " may give unexpected results"
  | dateEquality =>
    "Exact date equality checks may be unreliable. Consider using date range comparisons."
  | operatorMixed op l r => "Mixed types with operator '" ++ op.symbol ++ "': " ++ between " and " l r
  | negates t => "Negation operator requires a number, but got " ++ t.label
  | inverts t => "NOT operator requires a boolean or condition, but got " ++ t.label
  | unknownUnary s => "Unsupported unary operator: " ++ s
  | invalidCall => "Invalid function call"
  | unknownFunction name => "Unknown function: " ++ name
  | arity f fault => fault.message f.name
  | booleanArgument f i expected =>
    "Argument " ++ toString (i + 1) ++ " of " ++ f.name ++ " expects " ++ expected.label
      ++ ". Boolean will be treated as 0 or 1."
  | argumentType f i expected actual =>
    "Argument " ++ toString (i + 1) ++ " of " ++ f.name ++ " should be " ++ expected.label ++ ", but got "
      ++ actual.label
  | ifCondition t => "First argument of IF should be a condition, but got " ++ t.label
  | ifBranches yes no => "IF branches return different types: " ++ between " and " yes no
  | switchBranches ts =>
    "SWITCH branches return multiple types: " ++ ", ".intercalate (ts.map DataType.label)
  | notConditional f => f.name ++ " expects boolean values or conditions"
  | concatNull => "CONCAT with NULL values will result in NULL"
  | nullInput f =>
    f.name ++ (if f = .len then "()" else "") ++ " with NULL input will return NULL"
  | negativePosition => "Position/length parameter cannot be negative"
  | nonPositiveLength => "Length parameter must be positive"
  | emptySearch => "Search string cannot be empty"
  | emptyReplacement => "Replacing with empty string will remove all occurrences of the search string"
  | negativeRepeat => "REPEAT count cannot be negative"
  | largeRepeat => "Very large REPEAT count may cause performance issues"
  | linkScheme => "URL should start with http:// or https://"
  | invalidPattern fault => "Invalid regular expression: " ++ fault
  | invalidJson fault => "Invalid JSON: " ++ fault
  | jsonPath => "JSON path should start with '.' or '['"
  | roundPrecision => "Rounding precision should be a non-negative integer (0-20)"
  | moduloByZero => "MOD by zero will result in an error"
  | logarithmBase => "Logarithm base must be positive and not equal to 1"
  | logarithmOf => "Cannot take logarithm of non-positive number"
  | zeroToNegative => "Cannot raise zero to a negative power"
  | negativeRoot => "Cannot take square root of negative number"
  | notNumeric s => quoted s ++ " may not be convertible to a number"
  | shiftUnit s => "Invalid time unit: " ++ quoted s ++ ". Use " ++ choices ShiftUnit.names ++ "."
  | elapsedUnit s => "Invalid time unit: " ++ quoted s ++ "."
  | startDay s => "Invalid start day: " ++ quoted s ++ ". Use a day name like \"monday\""
  | sortDirection s => "Invalid sort direction: " ++ quoted s ++ ". Use \"asc\" or \"desc\"."
  | slicePosition => "ARRAYSLICE positions must be whole numbers starting at 1"
  | emptySlice => "ARRAYSLICE end is before start, the result is empty"

end Finding

structure Diagnostic where
  finding : Finding
  span : Span
deriving DecidableEq, Repr, Inhabited

namespace Diagnostic

def severity (d : Diagnostic) : Severity := d.finding.severity

def message (d : Diagnostic) : String := d.finding.message

def isError (d : Diagnostic) : Bool := d.severity == .error

def line (d : Diagnostic) : String :=
  d.severity.name ++ " [" ++ toString d.span.start ++ ".." ++ toString d.span.finish ++ "]: " ++ d.message

end Diagnostic

end SheetQuery
