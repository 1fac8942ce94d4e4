import SheetQuery.Number.Decimal
import SheetQuery.Text.Numeral
import SheetQuery.Token.Basic

/-! Formula text to tokens. Each lexeme is found from its first character and what follows, and says how
many of the characters that follow belong to it; the scan skips those and goes on. -/

namespace SheetQuery.Lexer

/-- The blanks between tokens; other Unicode blanks are not among them. -/
def isSpace (c : Char) : Bool :=
  c == ' ' || c == '\t' || c == '\n' || c == '\x0c' || c == '\r'

def isNameChar (c : Char) : Bool :=
  Text.isLetterOrNumeral c || c == '_' || c == '$'

/-- The character that stands for itself and a backslash before it. -/
def unescape : Char → Char
  | 'n' => '\n'
  | 't' => '\t'
  | 'r' => '\r'
  | c => c

/-- The content of a text up to its closing quote, and how many characters that took with the quote. -/
def quoted (quote : Char) : List Char → Option (List Char × Nat)
  | [] => none
  | c :: cs =>
    if c = quote then some ([], 1)
    else if c = '\\' then
      match cs with
      | [] => none
      | d :: ds => (quoted quote ds).map fun (t, n) => (unescape d :: t, n + 2)
    else (quoted quote cs).map fun (t, n) => (c :: t, n + 1)

/-- How many characters of an exponent follow: nothing unless there is a digit. -/
def exponentLength (cs : List Char) : Nat :=
  match cs with
  | c :: ds =>
    if c = 'e' ∨ c = 'E' then
      let (sign, ds) := match ds with
        | s :: r => if s = '+' ∨ s = '-' then (1, r) else (0, ds)
        | [] => (0, ds)
      match (ds.takeWhile Char.isDigit).length with
      | 0 => 0
      | n => 1 + sign + n
    else 0
  | [] => 0

/-- How many characters of a numeral stand at the front: digits, a point with more digits, an exponent. -/
def numeralLength (cs : List Char) : Nat :=
  let whole := (cs.takeWhile Char.isDigit).length
  let rest := cs.drop whole
  let fraction := match rest with
    | '.' :: ds => 1 + (ds.takeWhile Char.isDigit).length
    | _ => 0
  whole + fraction + exponentLength (rest.drop fraction)

/-- The operator at the front, and how many characters follow its first. The longest symbol wins. -/
def operator? : List Char → Option (Lexeme × Nat)
  | '|' :: '|' :: _ => some (.op .or, 1)
  | '&' :: '&' :: _ => some (.op .and, 1)
  | '=' :: '=' :: _ => some (.op .eqEq, 1)
  | '!' :: '=' :: _ => some (.op .notEq, 1)
  | '<' :: '=' :: _ => some (.op .ltEq, 1)
  | '>' :: '=' :: _ => some (.op .gtEq, 1)
  | '=' :: _ => some (.op .eq, 0)
  | '<' :: _ => some (.op .lt, 0)
  | '>' :: _ => some (.op .gt, 0)
  | '&' :: _ => some (.op .concat, 0)
  | '+' :: _ => some (.op .add, 0)
  | '-' :: _ => some (.op .sub, 0)
  | '*' :: _ => some (.op .mul, 0)
  | '/' :: _ => some (.op .div, 0)
  | '%' :: _ => some (.op .mod, 0)
  | '!' :: _ => some (.bang, 0)
  | _ => none

/-- The lexeme that starts with `c`, and how many of the characters `cs` after it belong to it. -/
def lexeme (c : Char) (cs : List Char) : Except ParseFault (Lexeme × Nat) :=
  if c = '(' then .ok (.openParen, 0)
  else if c = ')' then .ok (.closeParen, 0)
  else if c = ',' then .ok (.comma, 0)
  else if c = '\'' ∨ c = '"' then
    match quoted c cs with
    | some (t, n) => .ok (.text (String.ofList t), n)
    | none => .error .unterminatedText
  else if c = '{' then
    let name := cs.takeWhile (· ≠ '}')
    if name.length < cs.length then .ok (.braced (String.ofList name), name.length + 1)
    else .error .unterminatedColumn
  else if c.isDigit ∨ c = '.' then
    let n := numeralLength (c :: cs)
    let text := String.ofList ((c :: cs).take n)
    match Number.ofText? text with
    | some v => .ok (.number v, n - 1)
    | none => .error (.invalidNumber text)
  else if isNameChar c then
    let more := cs.takeWhile isNameChar
    .ok (.name (String.ofList (c :: more)), more.length)
  else
    match operator? (c :: cs) with
    | some r => .ok r
    | none => .error (.unexpectedChar c)

/-- The tokens of the text `cs`, which starts at byte `position` and whose first `skip` characters belong
to the lexeme before it. -/
def tokens (position skip : Nat) : List Char → Except ParseError (List Token)
  | [] => .ok []
  | c :: cs =>
    let next := position + c.utf8Size
    match skip with
    | k + 1 => tokens next k cs
    | 0 =>
      if isSpace c then tokens next 0 cs
      else
        match lexeme c cs with
        | .error fault => .error ⟨position, fault⟩
        | .ok (l, n) =>
          match tokens next n cs with
          | .error e => .error e
          | .ok ts => .ok (⟨l, position⟩ :: ts)

def scan (text : String) : Except ParseError TokenStream :=
  match tokens 0 0 text.toList with
  | .error e => .error e
  | .ok ts => .ok ⟨ts, Text.byteLength text.toList⟩

end SheetQuery.Lexer
