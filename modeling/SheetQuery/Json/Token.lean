import SheetQuery.Json.Numeral

/-! The tokens of JSON text. -/

namespace SheetQuery.Json

inductive Lexeme
  | openBracket
  | closeBracket
  | openBrace
  | closeBrace
  | comma
  | colon
  | text (s : String)
  | number (n : Number)
  | word (b : Option Bool)
deriving DecidableEq, Repr, Inhabited

def isSpace (c : Char) : Bool := c == ' ' || c == '\t' || c == '\n' || c == '\r'

def hexValue? (c : Char) : Option Nat :=
  if c.isDigit then some (c.toNat - '0'.toNat)
  else if 'a' ≤ c ∧ c ≤ 'f' then some (c.toNat - 'a'.toNat + 10)
  else if 'A' ≤ c ∧ c ≤ 'F' then some (c.toNat - 'A'.toNat + 10)
  else none

def unit? (a b c d : Char) : Option Nat := do
  return (((← hexValue? a) * 16 + (← hexValue? b)) * 16 + (← hexValue? c)) * 16 + (← hexValue? d)

def isHighUnit (n : Nat) : Bool := 0xD800 ≤ n && n ≤ 0xDBFF

def isLowUnit (n : Nat) : Bool := 0xDC00 ≤ n && n ≤ 0xDFFF

def pairChar (high low : Nat) : Char :=
  Char.ofNat (0x10000 + (high - 0xD800) * 0x400 + (low - 0xDC00))

/-- The character that a backslash and `c` stand for. -/
def unescape? : Char → Option Char
  | '"' => some '"'
  | '\\' => some '\\'
  | '/' => some '/'
  | 'b' => some '\x08'
  | 'f' => some '\x0c'
  | 'n' => some '\n'
  | 'r' => some '\r'
  | 't' => some '\t'
  | _ => none

/-- The content of a text up to its closing quote, and how many characters that took with the quote.
Controls must be escaped and surrogates must come in pairs. -/
def quoted : List Char → Option (List Char × Nat)
  | [] => none
  | '"' :: _ => some ([], 1)
  | '\\' :: 'u' :: a :: b :: c :: d :: cs => do
    let u ← unit? a b c d
    if isHighUnit u then
      match cs with
      | '\\' :: 'u' :: a :: b :: c :: d :: cs =>
        let low ← unit? a b c d
        if isLowUnit low then
          let (t, n) ← quoted cs
          return (pairChar u low :: t, n + 12)
        else none
      | _ => none
    else if isLowUnit u then none
    else
      let (t, n) ← quoted cs
      return (Char.ofNat u :: t, n + 6)
  | '\\' :: c :: cs => do
    let e ← unescape? c
    let (t, n) ← quoted cs
    return (e :: t, n + 2)
  | c :: cs =>
    if c.toNat < 0x20 ∨ c = '\\' then none
    else (quoted cs).map fun (t, n) => (c :: t, n + 1)

/-- The lexeme that begins with `c`, and how many characters after `c` belong to it. -/
def lexeme? (c : Char) (cs : List Char) : Option (Lexeme × Nat) :=
  match c with
  | '[' => some (.openBracket, 0)
  | ']' => some (.closeBracket, 0)
  | '{' => some (.openBrace, 0)
  | '}' => some (.closeBrace, 0)
  | ',' => some (.comma, 0)
  | ':' => some (.colon, 0)
  | '"' => (quoted cs).map fun (t, n) => (.text (String.ofList t), n)
  | 't' => if cs.take 3 = ['r', 'u', 'e'] then some (.word (some true), 3) else none
  | 'f' => if cs.take 4 = ['a', 'l', 's', 'e'] then some (.word (some false), 4) else none
  | 'n' => if cs.take 3 = ['u', 'l', 'l'] then some (.word none, 3) else none
  | c => do
    let (numeral, n) ← Numeral.read? (c :: cs)
    return (.number (← numeral.value?), n - 1)

/-- The lexemes of a text after `skip` characters, last first, added to those before. -/
def scan : List Lexeme → Nat → List Char → Option (List Lexeme)
  | done, _, [] => some done
  | done, skip + 1, _ :: cs => scan done skip cs
  | done, 0, c :: cs =>
    if isSpace c then scan done 0 cs
    else
      match lexeme? c cs with
      | some (l, n) => scan (l :: done) n cs
      | none => none

def lexemes? (s : String) : Option (List Lexeme) := (scan [] 0 s.toList).map List.reverse

end SheetQuery.Json
