import SheetQuery.Text.Ascii
import SheetQuery.Text.Blank

/-! The SQL dialects, and what separates them apart from the spelling of functions. -/

namespace SheetQuery

inductive Dialect
  | mysql
  | postgres
  | mssql
  | sqlite
  | oracle
deriving DecidableEq, Repr, Inhabited

namespace Dialect

def all : List Dialect := [mysql, postgres, mssql, sqlite, oracle]

def name : Dialect → String
  | mysql => "mysql"
  | postgres => "postgres"
  | mssql => "mssql"
  | sqlite => "sqlite"
  | oracle => "oracle"

/-- A dialect's name as users write it: trimmed, in any case, with common other names. A name that is none
comes back as it was compared. -/
def ofName (name : String) : Except String Dialect :=
  match Text.asciiLower (Text.trim name) with
  | "mysql" | "mysql2" | "mariadb" => .ok mysql
  | "postgres" | "postgresql" | "pg" => .ok postgres
  | "mssql" | "sqlserver" | "tsql" => .ok mssql
  | "sqlite" | "sqlite3" => .ok sqlite
  | "oracle" | "oracledb" => .ok oracle
  | other => .error other

def unknownMessage (name : String) : String :=
  "unknown SQL dialect '" ++ name ++ "' (expected mysql, postgres, mssql, sqlite, or oracle)"

def quotes : Dialect → Char × Char
  | mysql => ('\x60', '\x60')
  | mssql => ('[', ']')
  | postgres | sqlite | oracle => ('"', '"')

/-- A quoted identifier; a closing quote inside it is doubled. -/
def quote (d : Dialect) (name : String) : String :=
  let (first, last) := d.quotes
  String.ofList (first :: name.toList.flatMap (fun c => if c = last then [last, last] else [c]) ++ [last])

def floatName : Dialect → String
  | mysql => "DOUBLE"
  | postgres => "DOUBLE PRECISION"
  | mssql => "FLOAT"
  | sqlite => "REAL"
  | oracle => "FLOAT"

def textName : Dialect → String
  | mysql => "CHAR"
  | postgres | sqlite => "TEXT"
  | mssql => "NVARCHAR(MAX)"
  | oracle => "VARCHAR2(4000)"

/-- Whether a predicate may stand where a value is expected. -/
def predicatesAreValues : Dialect → Bool
  | mssql | oracle => false
  | _ => true

/-- Whether `%` is the modulo operator. -/
def hasPercent : Dialect → Bool
  | oracle => false
  | _ => true

end Dialect

end SheetQuery
