import SheetQuery.Number.Layout
import SheetQuery.Operator

/-! Tokens of formula text, and the ways in which reading a formula fails. Positions are byte offsets. -/

namespace SheetQuery

/-- A value read from the front of `input` and what is left, which is less than there was. -/
structure Taken (α : Type) {β : Type} (input : List β) where
  value : α
  rest : List β
  shorter : rest.length < input.length

inductive Lexeme
  | number (n : Number)
  | text (s : String)
  | name (s : String)
  /-- A column name between braces. -/
  | braced (s : String)
  | op (o : BinaryOp)
  | bang
  | openParen
  | closeParen
  | comma
deriving DecidableEq, Repr, Inhabited

structure Token where
  lexeme : Lexeme
  position : Nat
deriving DecidableEq, Repr, Inhabited

structure TokenStream where
  tokens : List Token
  finish : Nat
deriving DecidableEq, Repr, Inhabited

def TokenStream.positions (s : TokenStream) : List Nat :=
  s.tokens.map Token.position ++ [s.finish]

def Lexeme.describe : Lexeme → String
  | number n => "number " ++ n.plain
  | text _ => "string"
  | name s => "identifier '" ++ s ++ "'"
  | braced s => "column '\x7b" ++ s ++ "\x7d'"
  | op o => "operator '" ++ o.symbol ++ "'"
  | bang => "operator '!'"
  | openParen => "'('"
  | closeParen => "')'"
  | comma => "','"

/-- The next token as a message calls it; past the last one that is the end of the formula. -/
def describeNext : Option Lexeme → String
  | some l => l.describe
  | none => "end of formula"

/-- Operands nest at most this deep in parentheses, calls and prefix operators. -/
def maxNesting : Nat := 256

/-- Why a formula cannot be read. A fault about a token holds the token, or nothing at the end. -/
inductive ParseFault
  | emptyFormula
  | unterminatedText
  | unterminatedColumn
  | invalidNumber (text : String)
  | unexpectedChar (c : Char)
  | unexpected (found : Option Lexeme)
  | expectedClose (found : Option Lexeme)
  | expectedCommaOrClose (found : Option Lexeme)
  | nestedTooDeep
deriving DecidableEq, Repr, Inhabited

def ParseFault.message : ParseFault → String
  | emptyFormula => "Empty formula"
  | unterminatedText => "Unterminated string"
  | unterminatedColumn => "Unterminated column reference"
  | invalidNumber s => "Invalid number '" ++ s ++ "'"
  | unexpectedChar c => "Unexpected character '" ++ c.toString ++ "'"
  | unexpected l => "Unexpected " ++ describeNext l
  | expectedClose l => "Expected ')' but found " ++ describeNext l
  | expectedCommaOrClose l => "Expected ',' or ')' but found " ++ describeNext l
  | nestedTooDeep => "Formula is nested more than " ++ toString maxNesting ++ " levels deep"

structure ParseError where
  position : Nat
  fault : ParseFault
deriving DecidableEq, Repr, Inhabited

def ParseError.message (e : ParseError) : String :=
  e.fault.message ++ " at position " ++ toString e.position

end SheetQuery
