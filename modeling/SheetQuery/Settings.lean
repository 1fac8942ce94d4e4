import SheetQuery.Sql.Basic
import SheetQuery.Text.Quoted
import SheetQuery.Toml.Parser

/-! Settings that users keep in a TOML file. A key that is missing has its default and a key that is not
known is passed over, but a known key must have the right type. -/

namespace SheetQuery

structure Settings where
  defaultDialect : Dialect
  /-- Whether notices count as errors. -/
  strict : Bool
  recordIdColumn : String
  tableAlias : Option String
  /-- Whether compiled SQL is to be parsed again. -/
  verify : Bool
deriving DecidableEq, Repr, Inhabited

namespace Settings

def default : Settings := ⟨.postgres, false, "id", none, false⟩

/-- The names that the settings give a compilation, which has no output name yet. -/
def naming (s : Settings) : Naming := ⟨none, s.tableAlias, s.recordIdColumn⟩

def text? : Toml → Option String
  | .text s => some s
  | _ => none

def boolean? : Toml → Option Bool
  | .boolean b => some b
  | _ => none

/-- A dialect by its own name, as a text or as the only key of a table that holds nothing. -/
def dialect? : Toml → Option Dialect
  | .text s => named s
  | .closed [(s, v)] => if holdsNothing v then named s else none
  | .table _ _ [(s, v)] => if holdsNothing v then named s else none
  | _ => none
where
  named (s : String) : Option Dialect := Dialect.all.find? (·.name = s)
  holdsNothing : Toml → Bool
    | .closed [] => true
    | .table _ _ [] => true
    | .array [] => true
    | _ => false

/-- The value under a key, its default if there is none, and nothing if it has the wrong type. -/
def get? {α : Type} (entries : List (String × Toml)) (key : String) (read : Toml → Option α) (default : α) :
    Option α :=
  match entries.lookup key with
  | some v => read v
  | none => some default

def parse? (file : String) : Option Settings := do
  let entries ← Toml.parse? file
  let defaultDialect ← get? entries "default_dialect" dialect? default.defaultDialect
  let strict ← get? entries "strict" boolean? default.strict
  let recordIdColumn ← get? entries "record_id_column" text? default.recordIdColumn
  let tableAlias ← get? entries "table_alias" (fun v => (text? v).map some) default.tableAlias
  let verify ← get? entries "verify" boolean? default.verify
  return ⟨defaultDialect, strict, recordIdColumn, tableAlias, verify⟩

/-- The settings of a file that may not be there. -/
def load? (file : Option String) : Option Settings :=
  match file with
  | some file => parse? file
  | none => some default

/-- The longest run of `c`. -/
def longestRun (c : Char) (s : String) : Nat :=
  (s.toList.foldl (fun (longest, now) d =>
    let now := if d = c then now + 1 else 0
    (max longest now, now)) (0, 0)).1

def tomlChar (c : Char) : List Char :=
  match c with
  | '\x08' => ['\\', 'b']
  | '\t' => ['\\', 't']
  | '\n' => ['\\', 'n']
  | '\x0c' => ['\\', 'f']
  | '\r' => ['\\', 'r']
  | '"' => ['\\', '"']
  | '\\' => ['\\', '\\']
  | c =>
    if c.toNat < 0x20 ∨ c.toNat = 0x7F then
      ['\\', 'u'] ++ Text.padLeft '0' 4 ((Text.hex c.toNat).map Char.toUpper)
    else [c]

/-- A text as TOML. One with double quotes or backslashes is written between single quotes, or between
three of them if it holds single quotes, as far as that is possible. -/
def tomlText (s : String) : String :=
  let isRaw := (s.contains '"' || s.contains '\\') && !s.toList.any Toml.isControl
  let quotes := longestRun '\'' s
  if isRaw && quotes = 0 then "'" ++ s ++ "'"
  else if isRaw && quotes < 3 && !s.endsWith '\'' then "'''" ++ s ++ "'''"
  else String.ofList (['"'] ++ s.toList.flatMap tomlChar ++ ['"'])

def tomlBoolean (b : Bool) : String := if b then "true" else "false"

def save (s : Settings) : String :=
  let line (key value : String) : String := key ++ " = " ++ value ++ "\n"
  let tableAlias := match s.tableAlias with
    | some table => line "table_alias" (tomlText table)
    | none => ""
  line "default_dialect" (tomlText s.defaultDialect.name) ++ line "strict" (tomlBoolean s.strict)
    ++ line "record_id_column" (tomlText s.recordIdColumn) ++ tableAlias
    ++ line "verify" (tomlBoolean s.verify)

end Settings

end SheetQuery
