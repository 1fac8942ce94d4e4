import SheetQuery.Calendar
import SheetQuery.Json.Token
import SheetQuery.Toml.Basic

/-! Texts and words of TOML. A value that is no text, array or table is one word: a boolean, a number, a
date or a time. -/

namespace SheetQuery.Toml

/-- Controls do not stand in texts and comments, apart from the tab. -/
def isControl (c : Char) : Bool := (c.toNat < 0x20 && c != '\t') || c.toNat = 0x7F

def isBlank (c : Char) : Bool := c == ' ' || c == '\t'

def codeChar? (digits : List Char) : Option Char := do
  let n ← digits.foldlM (fun n c => (Json.hexValue? c).map (16 * n + ·)) 0
  if n.isValidChar then some (Char.ofNat n) else none

def unescape? : Char → Option Char
  | 'b' => some '\x08'
  | 't' => some '\t'
  | 'n' => some '\n'
  | 'f' => some '\x0c'
  | 'r' => some '\r'
  | '"' => some '"'
  | '\\' => some '\\'
  | _ => none

/-- The character of an escape from after its backslash, and how many characters that took. -/
def escape? : List Char → Option (Char × Nat)
  | 'u' :: cs => if 4 ≤ cs.length then (codeChar? (cs.take 4)).map (·, 5) else none
  | 'U' :: cs => if 8 ≤ cs.length then (codeChar? (cs.take 8)).map (·, 9) else none
  | c :: _ => (unescape? c).map (·, 1)
  | [] => none

/-- The content of a text on one line up to its closing quote, and what is left. -/
def lineText (quote : Char) (escapes : Bool) : Nat → List Char → Option (List Char × List Char)
  | _, [] => none
  | skip + 1, _ :: cs => lineText quote escapes skip cs
  | 0, c :: cs =>
    if c = quote then some ([], cs)
    else if escapes ∧ c = '\\' then do
      let (e, n) ← escape? cs
      let (t, rest) ← lineText quote escapes n cs
      return (e :: t, rest)
    else if isControl c then none
    else (lineText quote escapes 0 cs).map fun (t, rest) => (c :: t, rest)

/-- How many blanks and line breaks a backslash at the end of a line takes away, if it stands at one. -/
def foldedLength? (cs : List Char) : Option Nat :=
  let blanks := cs.takeWhile isBlank
  let isBreak := match cs.drop blanks.length with
    | '\n' :: _ => true
    | '\r' :: '\n' :: _ => true
    | _ => false
  if isBreak then some (cs.takeWhile fun c => isBlank c || c == '\n' || c == '\r').length else none

/-- The content of a text of several lines up to its three closing quotes, and what is left. Up to two
quotes before those belong to the text. -/
def blockText (quote : Char) (escapes : Bool) : Nat → List Char → Option (List Char × List Char)
  | _, [] => none
  | skip + 1, _ :: cs => blockText quote escapes skip cs
  | 0, c :: cs =>
    let closing := (c :: cs).takeWhile (· == quote)
    if 3 ≤ closing.length ∧ closing.length ≤ 5 then
      some (closing.drop 3, cs.drop (closing.length - 1))
    else if 5 < closing.length then none
    else if escapes ∧ c = '\\' then
      match foldedLength? cs with
      | some n => blockText quote escapes n cs
      | none => do
        let (e, n) ← escape? cs
        let (t, rest) ← blockText quote escapes n cs
        return (e :: t, rest)
    else
      match c, cs with
      | '\r', '\n' :: _ => blockText quote escapes 0 cs
      | c, _ =>
        if c ≠ '\n' ∧ isControl c then none
        else (blockText quote escapes 0 cs).map fun (t, rest) => (c :: t, rest)

/-- The text after an opening quote; three quotes open one of several lines, which does not begin with a
line break. -/
def text? (quote : Char) (cs : List Char) : Option (String × List Char) :=
  let escapes := quote == '"'
  let read := match cs with
    | a :: b :: rest =>
      if a = quote ∧ b = quote then
        match rest with
        | '\n' :: rest => blockText quote escapes 0 rest
        | '\r' :: '\n' :: rest => blockText quote escapes 0 rest
        | rest => blockText quote escapes 0 rest
      else lineText quote escapes 0 cs
    | _ => lineText quote escapes 0 cs
  read.map fun (t, rest) => (String.ofList t, rest)

/-- Digits of a base with single underscores between them. -/
def digits? (isDigit : Char → Bool) (cs : List Char) : Option (List Char) :=
  let bare := cs.filter (· != '_')
  let between := (cs.zip (cs.drop 1)).all fun (a, b) => a != '_' || b != '_'
  if !bare.isEmpty && bare.all isDigit && between && cs.head? != some '_' && cs.getLast? != some '_' then
    some bare
  else none

/-- Decimal digits that do not begin with a needless zero. -/
def decimal? (cs : List Char) : Option (List Char) :=
  (digits? Char.isDigit cs).filter fun ds => ds.length == 1 || ds.head? != some '0'

def inWord (n : Int) : Option Int :=
  if -0x8000000000000000 ≤ n ∧ n < 0x8000000000000000 then some n else none

/-- A sign and what follows it. -/
def signed (cs : List Char) : Bool × List Char :=
  match cs with
  | '-' :: cs => (true, cs)
  | '+' :: cs => (false, cs)
  | cs => (false, cs)

def integer? (cs : List Char) : Option Int :=
  let radix (base : Nat) (isDigit : Char → Bool) (ds : List Char) : Option Int := do
    let ds ← digits? isDigit ds
    inWord (ds.foldl (fun n c => base * n + (Json.hexValue? c).getD 0) 0 : Nat)
  match cs with
  | '0' :: 'x' :: ds => radix 16 (fun c => (Json.hexValue? c).isSome) ds
  | '0' :: 'o' :: ds => radix 8 (fun c => '0' ≤ c && c ≤ '7') ds
  | '0' :: 'b' :: ds => radix 2 (fun c => c == '0' || c == '1') ds
  | cs =>
    let (negative, ds) := signed cs
    (decimal? ds).bind fun ds =>
      inWord (if negative then -(Number.digitsValue ds : Int) else Number.digitsValue ds)

/-- A number with a point, an exponent or both, or one of the words for what is no finite number. -/
def real? (cs : List Char) : Option Number := do
  let (negative, ds) := signed cs
  if ds = ['i', 'n', 'f'] then return ⟨negative, Number.infinityRank⟩
  if ds = ['n', 'a', 'n'] then return ⟨negative, Number.nan.rank⟩
  let mantissa := ds.takeWhile fun c => c != 'e' && c != 'E'
  let exponent := ds.drop mantissa.length
  let whole := mantissa.takeWhile (· != '.')
  let fraction := mantissa.drop whole.length
  if fraction.isEmpty ∧ exponent.isEmpty then none
  let whole ← decimal? whole
  let fraction ← if fraction.isEmpty then some [] else digits? Char.isDigit (fraction.drop 1)
  let exponent ←
    if exponent.isEmpty then some (0 : Int)
    else
      let (lowers, es) := signed (exponent.drop 1)
      (digits? Char.isDigit es).map fun es =>
        if lowers then -(Number.digitsValue es : Int) else Number.digitsValue es
  let n := Number.ofDecimal negative (Number.digitsValue (whole ++ fraction)) (exponent - fraction.length)
  if n.isFinite then some n else none

def isDate (cs : List Char) : Bool := cs.length == 10 && Calendar.beginsWithDate (String.ofList cs)

def isPair (bound : Nat) (a b : Char) : Bool :=
  a.isDigit && b.isDigit && Number.digitsValue [a, b] < bound

/-- The difference from universal time, if there is one. -/
def isOffset : List Char → Bool
  | [] => true
  | ['Z'] => true
  | ['z'] => true
  | [s, a, b, ':', c, d] => (s == '+' || s == '-') && isPair 24 a b && isPair 60 c d
  | _ => false

/-- A time of day with seconds, and what is left after it. -/
def time? : List Char → Option (List Char)
  | a :: b :: ':' :: c :: d :: ':' :: e :: f :: rest =>
    if isPair 24 a b && isPair 60 c d && isPair 61 e f then
      match rest with
      | '.' :: fraction =>
        let ds := fraction.takeWhile Char.isDigit
        if ds.isEmpty then none else some (fraction.drop ds.length)
      | rest => some rest
    else none
  | _ => none

def isMoment (cs : List Char) : Bool :=
  if isDate cs then true
  else if time? cs = some [] then true
  else
    isDate (cs.take 10) &&
      match cs.drop 10 with
      | c :: rest => (c == 'T' || c == 't' || c == ' ') && (time? rest).any isOffset
      | [] => false

def word? (cs : List Char) : Option Toml :=
  if cs = ['t', 'r', 'u', 'e'] then some (.boolean true)
  else if cs = ['f', 'a', 'l', 's', 'e'] then some (.boolean false)
  else if isMoment cs then some (.moment (String.ofList cs))
  else
    match integer? cs with
    | some n => some (.integer n)
    | none => (real? cs).map .real

def isWordChar (c : Char) : Bool :=
  c.isAlphanum || c == '+' || c == '-' || c == '_' || c == '.' || c == ':'

/-- How many characters a word has. A blank between a date and a time belongs to the word. -/
def wordLength (cs : List Char) : Nat :=
  let word := cs.takeWhile isWordChar
  if isDate word then
    match cs.drop word.length with
    | ' ' :: d :: rest =>
      if d.isDigit then word.length + 1 + ((d :: rest).takeWhile isWordChar).length else word.length
    | _ => word.length
  else word.length

end SheetQuery.Toml
