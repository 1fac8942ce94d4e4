import SheetQuery.Text.Ascii
import SheetQuery.Text.Hidden

/-! Two ways to write a text between double quotes: as a JSON string, and as a readable listing that
shows hidden characters by their code points. -/

namespace SheetQuery.Text

/-- A character inside a JSON string. Only quotes, backslashes and controls are escaped. -/
def jsonChar (c : Char) : List Char :=
  match c with
  | '"' => ['\\', '"']
  | '\\' => ['\\', '\\']
  | '\n' => ['\\', 'n']
  | '\r' => ['\\', 'r']
  | '\t' => ['\\', 't']
  | '\x08' => ['\\', 'b']
  | '\x0c' => ['\\', 'f']
  | c => if c.toNat < 32 then ['\\', 'u'] ++ padLeft '0' 4 (hex c.toNat) else [c]

def jsonQuoted (s : String) : String :=
  String.ofList (['"'] ++ s.toList.flatMap jsonChar ++ ['"'])

/-- A character of a listed text. -/
def listedChar (c : Char) : List Char :=
  match c with
  | '"' => ['\\', '"']
  | '\\' => ['\\', '\\']
  | '\n' => ['\\', 'n']
  | '\r' => ['\\', 'r']
  | '\t' => ['\\', 't']
  | '\x00' => ['\\', '0']
  | c => if isHidden c then ['\\', 'u', '{'] ++ hex c.toNat ++ ['}'] else [c]

def listed (s : String) : String :=
  String.ofList (['"'] ++ s.toList.flatMap listedChar ++ ['"'])

end SheetQuery.Text
