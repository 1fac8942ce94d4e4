import SheetQuery.Builtin
import SheetQuery.Sql.Arithmetic
import SheetQuery.Sql.Dates
import SheetQuery.Sql.Logic
import SheetQuery.Sql.Strings

/-! How each dialect writes each built-in function: under a name of its own with the same arguments, or
in a shape of its own. Every function has an entry in every dialect. -/

namespace SheetQuery

inductive Entry
  | native (name : String)
  | shaped (write : List Operand → Noted Fragment)

namespace Sql

def numericEntry (d : Dialect) : Builtin → Entry
  | .add | .sum => .shaped (sum d)
  | .avg => .shaped (average d)
  | .min => .shaped (extreme d "LEAST" "MIN")
  | .max => .shaped (extreme d "GREATEST" "MAX")
  | .count => .shaped (countIf (isPresent d))
  | .countFilled => .shaped (countIf (isFilled d))
  | .countAll => .shaped fun args => pure (toString args.length)
  | .round => .shaped (round d)
  | .roundUp => .shaped (roundTowards roundedUp d)
  | .roundDown => .shaped (roundTowards roundedDown d)
  | .ceiling => .shaped fun args => roundedUp d <$> arg d args 0
  | .floor => .shaped fun args => roundedDown d <$> arg d args 0
  | .even => .shaped (even d)
  | .odd => .shaped (odd d)
  | .mod => .shaped (modulo d)
  | .log => .shaped (logarithm d)
  | .int =>
    match d with
    | .postgres | .oracle => .native "TRUNC"
    | _ => .shaped (wholePart d)
  | .value => .shaped (numberOfText d)
  | .float => .shaped fun args => castFloat d <$> arg d args 0
  | f => .native f.name

def textEntry (d : Dialect) : Builtin → Entry
  | .concat =>
    match d with
    | .postgres => .native "CONCAT"
    | _ => .shaped (concat d)
  | .trim =>
    match d with
    | .mssql => .shaped (trimmed d)
    | _ => .native "TRIM"
  | .len =>
    match d with
    | .mysql => .native "CHAR_LENGTH"
    | .mssql => .native "LEN"
    | _ => .native "LENGTH"
  | .left =>
    match d with
    | .sqlite | .oracle => .shaped (leading d)
    | _ => .native "LEFT"
  | .right =>
    match d with
    | .sqlite | .oracle => .shaped (trailing d)
    | _ => .native "RIGHT"
  | .mid | .substr =>
    match d with
    | .mssql => .shaped (substring d)
    | _ => .native "SUBSTR"
  | .search => .shaped (search d)
  | .repeatText =>
    match d with
    | .mysql | .postgres => .native "REPEAT"
    | .mssql => .native "REPLICATE"
    | .sqlite | .oracle => .shaped (repeated d)
  | .url => .shaped (link d)
  | .urlEncode => .shaped (linkEncoded d)
  | .regexMatch =>
    match d with
    | .mysql => .native "REGEXP_LIKE"
    | _ => .shaped (patternMatch d)
  | .regexExtract =>
    match d with
    | .postgres => .shaped (patternExtract d)
    | _ => .native "REGEXP_SUBSTR"
  | .regexReplace =>
    match d with
    | .postgres => .shaped (patternReplace d)
    | _ => .native "REGEXP_REPLACE"
  | .jsonExtract =>
    match d with
    | .mssql => .native "JSON_VALUE"
    | .sqlite => .native "JSON_EXTRACT"
    | _ => .shaped (jsonMember d)
  | f => .native f.name

def dateEntry (d : Dialect) : Builtin → Entry
  | .now =>
    match d with
    | .mysql | .postgres => .native "NOW"
    | .mssql => .native "GETDATE"
    | .sqlite => .shaped fun _ => pure "DATETIME('now')"
    | .oracle => .shaped fun _ => pure "CURRENT_TIMESTAMP"
  | .dateAdd => .shaped (dateAdd d)
  | .dateDiff => .shaped (dateDiff d)
  | .dateText => .shaped (dateText d)
  | .day => part .day "DAY"
  | .month => part .month "MONTH"
  | .year => part .year "YEAR"
  | .hour =>
    match d with
    | .mysql => .native "HOUR"
    | _ => .shaped (datePart d .hour)
  | .weekday => .shaped (weekday d)
  | f => .native f.name
where
  part (unit : ShiftUnit) (name : String) : Entry :=
    match d with
    | .mysql | .mssql => .native name
    | _ => .shaped (datePart d unit)

def logicEntry (d : Dialect) (names : Naming) : Builtin → Entry
  | .ifElse => .shaped (ifElse d)
  | .switch => .shaped (switch d)
  | .and => .shaped (allOf d "AND")
  | .or => .shaped (allOf d "OR")
  | .xor => .shaped (xor d)
  | .trueValue => .shaped fun _ => pure "1"
  | .falseValue => .shaped fun _ => pure "0"
  | .blank => .shaped fun _ => pure .null
  | .isBlank => .shaped (isBlank d)
  | .isNotBlank => .shaped (isNotBlank d)
  | .recordId => .shaped fun _ => pure (columnText d names names.recordIdColumn)
  | .arrayUnique | .arraySort | .arrayCompact | .arraySlice => .shaped fun _ => arrayFunction
  | f => .native f.name

def entry (d : Dialect) (names : Naming) (f : Builtin) : Entry :=
  match f with
  | .add | .sum | .avg | .min | .max | .count | .countFilled | .countAll | .round | .roundUp | .roundDown
  | .ceiling | .floor | .abs | .int | .even | .odd | .sqrt | .exp | .mod | .power | .log | .value
  | .float => numericEntry d f
  | .concat | .trim | .upper | .lower | .len | .left | .right | .mid | .substr | .search | .replace
  | .repeatText | .url | .urlEncode | .regexMatch | .regexExtract | .regexReplace | .jsonExtract =>
    textEntry d f
  | .now | .dateAdd | .dateDiff | .dateText | .day | .month | .year | .hour | .weekday => dateEntry d f
  | .ifElse | .switch | .and | .or | .xor | .trueValue | .falseValue | .blank | .isBlank | .isNotBlank
  | .arrayUnique | .arraySort | .arrayCompact | .arraySlice | .recordId => logicEntry d names f

end Sql

end SheetQuery
