import SheetQuery.Json.Basic
import SheetQuery.Number.Layout
import SheetQuery.Text.Quoted

/-! JSON text of values: compact on one line, or laid out with two blanks per level. -/

namespace SheetQuery.Json

mutual

def compact : Json → String
  | null => "null"
  | bool b => if b then "true" else "false"
  | number n => n.json
  | text s => Text.jsonQuoted s
  | array items => "[" ++ ",".intercalate (compactItems items) ++ "]"
  | object fields => "\x7b" ++ ",".intercalate (compactFields fields) ++ "\x7d"

def compactItems : List Json → List String
  | [] => []
  | v :: vs => compact v :: compactItems vs

def compactFields : List (String × Json) → List String
  | [] => []
  | (name, v) :: fs => (Text.jsonQuoted name ++ ":" ++ compact v) :: compactFields fs

end

def lineBreak (level : Nat) : String := String.ofList ('\n' :: List.replicate (2 * level) ' ')

def block (left right : String) (level : Nat) (parts : List String) : String :=
  if parts.isEmpty then left ++ right
  else
    left ++ lineBreak (level + 1) ++ ("," ++ lineBreak (level + 1)).intercalate parts
      ++ lineBreak level ++ right

mutual

def layout (level : Nat) : Json → String
  | array items => block "[" "]" level (layoutItems (level + 1) items)
  | object fields => block "\x7b" "\x7d" level (layoutFields (level + 1) fields)
  | null => "null"
  | bool b => if b then "true" else "false"
  | number n => n.json
  | text s => Text.jsonQuoted s

def layoutItems (level : Nat) : List Json → List String
  | [] => []
  | v :: vs => layout level v :: layoutItems level vs

def layoutFields (level : Nat) : List (String × Json) → List String
  | [] => []
  | (name, v) :: fs => (Text.jsonQuoted name ++ ": " ++ layout level v) :: layoutFields level fs

end

def pretty (v : Json) : String := layout 0 v

end SheetQuery.Json
