import SheetQuery.Json.Token
import SheetQuery.Number.Decimal
import SheetQuery.Pattern.Basic
import SheetQuery.Pattern.Bracket
import SheetQuery.Text.Numeral

/-! The smaller parts of the notation of patterns: blanks and comments, counts, names and escapes. -/

namespace SheetQuery.Pattern

inductive Blank
  | between
  /-- A comment up to the end of its line. -/
  | line
  /-- A comment between parentheses. -/
  | comment
  /-- Such a comment, after a backslash. -/
  | escaped
deriving DecidableEq, Repr, Inhabited

/-- How many characters of blanks and comments come next. Blanks and comments by lines count only if
`ignored`. A comment between parentheses has to end. -/
def blanks? (ignored : Bool) : Blank → List Char → Option Nat
  | .between, [] | .line, [] => some 0
  | .comment, [] | .escaped, [] => none
  | .between, c :: cs =>
    if ignored && (c == ' ' || c == '\t' || c == '\n' || c == '\r') then
      (blanks? ignored .between cs).map (· + 1)
    else if ignored && c == '#' then (blanks? ignored .line cs).map (· + 1)
    else if c == '(' && cs.take 2 == ['?', '#'] then (blanks? ignored .comment cs).map (· + 1)
    else some 0
  | .line, c :: cs => (blanks? ignored (if c = '\n' then .between else .line) cs).map (· + 1)
  | .comment, c :: cs =>
    let next := if c = ')' then Blank.between else if c = '\\' then .escaped else .comment
    (blanks? ignored next cs).map (· + 1)
  | .escaped, _ :: cs => (blanks? ignored .comment cs).map (· + 1)

def afterBlanks? (ignored : Bool) (cs : List Char) : Option (List Char) :=
  (blanks? ignored .between cs).map cs.drop

def countLimit : Nat := 0x10000000000000000

def count? (cs : List Char) : Option (Nat × List Char) :=
  let digits := cs.takeWhile Char.isDigit
  let n := Number.digitsValue digits
  if digits.isEmpty || countLimit ≤ n then none else some (n, cs.drop digits.length)

/-- The bounds of a repetition from after its opening brace, and what is left after its closing one. The
lower bound may be left out, and the greatest count is as good as none. -/
def bounds? (ignored : Bool) (cs : List Char) : Option ((Nat × Option Nat) × List Char) := do
  let cs ← afterBlanks? ignored cs
  let (low, cs) ← if cs.head? = some ',' then some (0, cs) else count? cs
  let cs ← afterBlanks? ignored cs
  let (high, cs) ← match cs with
    | '\x7d' :: _ => some (some low, cs)
    | ',' :: cs => do
      let cs ← afterBlanks? ignored cs
      match count? cs with
      | some (n, cs) => some (if n + 1 = countLimit then none else some n, cs)
      | none => some (none, cs)
    | _ => none
  match ← afterBlanks? ignored cs with
  | '\x7d' :: cs => some ((low, high), cs)
  | _ => none

def isGroupNameChar (c : Char) : Bool := Text.isLetterOrNumeral c || c == '_'

inductive GroupName
  | name (s : String)
  /-- So many groups back from the last that was opened, which is one back. -/
  | back (n : Nat)
  /-- So many groups on from the last that was opened. -/
  | ahead (n : Nat)
deriving DecidableEq, Repr, Inhabited

def groupName? (close : Char) (cs : List Char) : Option (String × List Char) :=
  let name := cs.takeWhile isGroupNameChar
  match cs.drop name.length with
  | c :: rest => if name.isEmpty || c != close then none else some (String.ofList name, rest)
  | [] => none

/-- A name or a distance up to a closing character, and what is left after that. -/
def groupTarget? (close : Char) (cs : List Char) : Option (GroupName × List Char) :=
  match groupName? close cs with
  | some (name, rest) => some (.name name, rest)
  | none =>
    match cs with
    | sign :: ds =>
      match count? ds with
      | some (n, c :: rest) =>
        if c != close || n == 0 then none
        else if sign = '-' then some (.back n, rest)
        else if sign = '+' then some (.ahead n, rest)
        else none
      | _ => none
    | [] => none

inductive Escape
  | literal (c : Char)
  /-- A set, as a regular pattern has it. -/
  | set (text : List Char)
  /-- A part that is no set and no reference. -/
  | part (e : Pattern)
  | groupNumber (n : Nat)
  | group (target : GroupName)
deriving Repr, Inhabited

def codeChar? (n : Nat) : Option Char :=
  if n.isValidChar then some (Char.ofNat n) else none

def hexOf? (cs : List Char) : Option Nat :=
  cs.foldlM (fun n c => (Json.hexValue? c).map (16 * n + ·)) 0

/-- A character by its code: so many hexadecimal digits, or up to eight between braces. Also gives what is
left. -/
def hexChar? (ignored : Bool) (digits : Nat) (cs : List Char) : Option (Char × List Char) := do
  let cs ← afterBlanks? ignored cs
  let isHex c := (Json.hexValue? c).isSome
  let fixed := cs.take digits
  if fixed.length = digits ∧ fixed.all isHex then
    return (← (hexOf? fixed).bind codeChar?, cs.drop digits)
  else
    match cs with
    | '\x7b' :: ds =>
      let code := ds.takeWhile isHex
      if !code.isEmpty && code.length ≤ 8 && ds[code.length]? == some '\x7d' then
        return (← (hexOf? code).bind codeChar?, ds.drop (code.length + 1))
      else none
    | _ => none

/-- The special characters with a letter of their own. -/
def control? : Char → Option Char
  | 'a' => some '\x07'
  | 'b' => some '\x08'
  | 'e' => some '\x1b'
  | 'f' => some '\x0c'
  | 'n' => some '\n'
  | 'r' => some '\r'
  | 't' => some '\t'
  | 'v' => some '\x0b'
  | _ => none

/-- The kinds of word boundary that have names. -/
def boundaryNames : List (List Char) :=
  ["start", "end", "start-half", "end-half"].map String.toList

/-- A word boundary from after `\b`, with what is left. Braces after it are the bounds of a repetition, or
else name the kind of boundary and stand right after it. -/
def boundary? (ignored : Bool) (cs : List Char) : Option (List Char) := do
  match ← afterBlanks? ignored cs with
  | '\x7b' :: ds =>
    if (bounds? ignored ds).isSome then return cs
    else
      match cs with
      | '\x7b' :: ds =>
        let name := ds.takeWhile (· != '\x7d')
        if boundaryNames.contains name && name.length < ds.length then return ds.drop (name.length + 1)
        else none
      | _ => none
  | _ => return cs

/-- A property from after `\p`: a name between braces or one letter. Gives its text and what is left. -/
def propertyText? (cs : List Char) : Option (List Char × List Char) :=
  match cs with
  | '\x7b' :: ds =>
    let name := ds.takeWhile (· != '\x7d')
    if name.length < ds.length then
      some (cs.take (name.length + 2), cs.drop (name.length + 2))
    else none
  | c :: rest => some ([c], rest)
  | [] => none

def hexSet (negated : Bool) : List Char :=
  if negated then "[^0-9A-Fa-f]".toList else "[0-9A-Fa-f]".toList

/-- The letters that stand for themselves after a backslash within a set. -/
def setLetters : List Char := ['k', 'A', 'z', 'B', 'K', 'G']

/-- The escapes that are a place or a kind of part, which no set has. -/
def partEscape? (c : Char) : Option Pattern :=
  match c with
  | 'A' => some (place (.textEdge '^'))
  | 'z' => some (place (.textEdge '$'))
  -- the end of the text or before line ends there
  | 'Z' => some (look false false (set "\n*$".toList false))
  | 'B' | '<' | '>' => some (place .word)
  | 'K' => some restart
  | 'G' => some lastEnd
  | 'O' => some (any true)
  | _ => none

/-- The escape that begins with `c`, from after the backslash, and what is left after it. -/
def escape? (ignored inSet : Bool) (c : Char) (cs : List Char) : Option (Escape × List Char) :=
  if c.isDigit then (count? (c :: cs)).map fun (n, rest) => (.groupNumber n, rest)
  else if (classSet? c).isSome then some (.set ['\\', c], cs)
  else if c = 'h' ∨ c = 'H' then some (.set (hexSet (c = 'H')), cs)
  else if c = 'p' ∨ c = 'P' then
    (propertyText? cs).map fun (text, rest) => (.set ('\\' :: c :: text), rest)
  else if c = 'x' then (hexChar? ignored 2 cs).map fun (x, rest) => (.literal x, rest)
  else if c = 'u' then (hexChar? ignored 4 cs).map fun (x, rest) => (.literal x, rest)
  else if c = 'U' then (hexChar? ignored 8 cs).map fun (x, rest) => (.literal x, rest)
  else if inSet then
    match control? c with
    | some x => some (.literal x, cs)
    | none => if c.isAlpha && !setLetters.contains c then none else some (.literal c, cs)
  else if c = 'b' then (boundary? ignored cs).map fun rest => (.part (place .word), rest)
  else if c = 'k' then
    match cs with
    | '<' :: ds => (groupTarget? '>' ds).map fun (target, rest) => (.group target, rest)
    | '\'' :: ds => (groupTarget? '\'' ds).map fun (target, rest) => (.group target, rest)
    | _ => none
  else
    match partEscape? c, control? c with
    | some e, _ => some (.part e, cs)
    | none, some x => some (.literal x, cs)
    | none, none => if c.isAlpha then none else some (.literal c, cs)

/-- A character as a regular pattern has it. -/
def quotedChar (c : Char) : List Char := if isSign c then ['\\', c] else [c]

/-- The text of a set as a regular pattern has it, from after its opening bracket, and how many characters
it takes. `depth` counts the brackets that are open. -/
def setText? (ignored : Bool) (depth skip : Nat) : List Char → Option (List Char × Nat)
  | [] => none
  | c :: cs =>
    let more (text : List Char) (depth skip : Nat) :=
      (setText? ignored depth skip cs).map fun (rest, n) => (text ++ rest, n + 1)
    match skip with
    | skip + 1 => more [] depth skip
    | 0 =>
      match c with
      | '[' => more [c] (depth + 1) 0
      | ']' => if depth ≤ 1 then some ([c], 1) else more [c] (depth - 1) 0
      | '\\' =>
        match cs with
        | [] => none
        | d :: ds =>
          match escape? ignored true d ds with
          | some (.literal x, rest) => more (quotedChar x) depth (cs.length - rest.length)
          | some (.set text, rest) => more text depth (cs.length - rest.length)
          | _ => none
      | c => more [c] depth 0

/-- The text of a set with its brackets, and how many characters it takes after the opening one. A closing
bracket that comes first stands for itself. -/
def wholeSet? (ignored : Bool) (cs : List Char) : Option (List Char × Nat) :=
  let negated := if cs.head? = some '^' then 1 else 0
  let closing := if cs[negated]? = some ']' then 1 else 0
  (setText? ignored 1 0 (cs.drop (negated + closing))).map fun (text, n) =>
    ('[' :: cs.take (negated + closing) ++ text, negated + closing + n)

end SheetQuery.Pattern
