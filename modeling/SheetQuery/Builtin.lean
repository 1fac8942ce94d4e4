import SheetQuery.Text.Upper

/-! The built-in functions. All but one are offered to users; `FLOAT` is what the canonical form of a
division casts with, and only the compiler knows it. -/

namespace SheetQuery

inductive Builtin
  -- numbers
  | add | sum | avg | min | max | count | countFilled | countAll | round | roundUp | roundDown
  | ceiling | floor | abs | int | even | odd | sqrt | exp | mod | power | log | value
  -- text
  | concat | trim | upper | lower | len | left | right | mid | substr | search | replace
  | repeatText | url | urlEncode | regexMatch | regexExtract | regexReplace | jsonExtract
  -- dates
  | now | dateAdd | dateDiff | dateText | day | month | year | hour | weekday
  -- logic
  | ifElse | switch | and | or | xor | trueValue | falseValue | blank | isBlank | isNotBlank
  -- arrays and records
  | arrayUnique | arraySort | arrayCompact | arraySlice | recordId
  -- the cast before a division
  | float
deriving DecidableEq, Repr, Inhabited

namespace Builtin

def name : Builtin → String
  | add => "ADD"
  | sum => "SUM"
  | avg => "AVG"
  | min => "MIN"
  | max => "MAX"
  | count => "COUNT"
  | countFilled => "COUNTA"
  | countAll => "COUNTALL"
  | round => "ROUND"
  | roundUp => "ROUNDUP"
  | roundDown => "ROUNDDOWN"
  | ceiling => "CEILING"
  | floor => "FLOOR"
  | abs => "ABS"
  | int => "INT"
  | even => "EVEN"
  | odd => "ODD"
  | sqrt => "SQRT"
  | exp => "EXP"
  | mod => "MOD"
  | power => "POWER"
  | log => "LOG"
  | value => "VALUE"
  | concat => "CONCAT"
  | trim => "TRIM"
  | upper => "UPPER"
  | lower => "LOWER"
  | len => "LEN"
  | left => "LEFT"
  | right => "RIGHT"
  | mid => "MID"
  | substr => "SUBSTR"
  | search => "SEARCH"
  | replace => "REPLACE"
  | repeatText => "REPEAT"
  | url => "URL"
  | urlEncode => "URLENCODE"
  | regexMatch => "REGEX_MATCH"
  | regexExtract => "REGEX_EXTRACT"
  | regexReplace => "REGEX_REPLACE"
  | jsonExtract => "JSON_EXTRACT"
  | now => "NOW"
  | dateAdd => "DATEADD"
  | dateDiff => "DATETIME_DIFF"
  | dateText => "DATESTR"
  | day => "DAY"
  | month => "MONTH"
  | year => "YEAR"
  | hour => "HOUR"
  | weekday => "WEEKDAY"
  | ifElse => "IF"
  | switch => "SWITCH"
  | and => "AND"
  | or => "OR"
  | xor => "XOR"
  | trueValue => "TRUE"
  | falseValue => "FALSE"
  | blank => "BLANK"
  | isBlank => "ISBLANK"
  | isNotBlank => "ISNOTBLANK"
  | arrayUnique => "ARRAYUNIQUE"
  | arraySort => "ARRAYSORT"
  | arrayCompact => "ARRAYCOMPACT"
  | arraySlice => "ARRAYSLICE"
  | recordId => "RECORD_ID"
  | float => "FLOAT"

/-- The functions offered to users, in the order in which they are listed. -/
def registered : List Builtin := [
  add, sum, avg, min, max, count, countFilled, countAll, round, roundUp, roundDown, ceiling, floor,
  abs, int, even, odd, sqrt, exp, mod, power, log, value,
  concat, trim, upper, lower, len, left, right, mid, substr, search, replace, repeatText, url,
  urlEncode, regexMatch, regexExtract, regexReplace, jsonExtract,
  now, dateAdd, dateDiff, dateText, day, month, year, hour, weekday,
  ifElse, switch, and, or, xor, trueValue, falseValue, blank, isBlank, isNotBlank,
  arrayUnique, arraySort, arrayCompact, arraySlice, recordId]

def all : List Builtin := float :: registered

/-- The function with this name, which is compared as it is. -/
def ofName? (name : String) : Option Builtin :=
  all.find? fun f => f.name == name

/-- The user's function with this name, in any case. -/
def lookup (name : String) : Option Builtin :=
  let key := Text.upper name
  registered.find? fun f => f.name == key

end Builtin

end SheetQuery
