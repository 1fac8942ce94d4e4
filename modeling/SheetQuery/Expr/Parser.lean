import SheetQuery.Expr.Basic
import SheetQuery.Token.Lexer

/-! Tokens to expressions. An expression is a chain of operands joined by binary operators; the chain is
read first and then grouped by precedence, every operator to the left. Operands are read with the number
of levels they may still nest. -/

namespace SheetQuery.Parser

/-- Joins the pending operators that bind at least as tightly as `p` with the operand after them. The
innermost pending operator comes first. -/
def settle (p : Nat) : List (Expr × BinaryOp) → Expr → List (Expr × BinaryOp) × Expr
  | [], e => ([], e)
  | (l, op) :: pending, e =>
    if p ≤ op.precedence then settle p pending (.binary op l e) else ((l, op) :: pending, e)

/-- Groups an operand and the operators and operands after it, given what is pending on its left. -/
def group : List (Expr × BinaryOp) → Expr → List (BinaryOp × Expr) → Expr
  | pending, e, [] => (settle 0 pending e).2
  | pending, e, (op, x) :: more =>
    let (pending, l) := settle op.precedence pending e
    group ((l, op) :: pending) x more

def prefixOp? : Lexeme → Option UnaryOp
  | .op .sub => some .minus
  | .op .add => some .plus
  | .bang => some .not
  | _ => none

/-- What a bare name denotes: a literal word or a column. -/
def bareName (s : String) : Expr :=
  match s with
  | "true" => .literal (.boolean true)
  | "false" => .literal (.boolean false)
  | "null" => .literal .null
  | s => .column s

def positionOf (finish : Nat) : List Token → Nat
  | [] => finish
  | t :: _ => t.position

def lexemeOf : List Token → Option Lexeme
  | [] => none
  | t :: _ => some t.lexeme

def failAt {α : Type} (finish : Nat) (ts : List Token) (fault : Option Lexeme → ParseFault) :
    Except ParseError α :=
  .error ⟨positionOf finish ts, fault (lexemeOf ts)⟩

mutual

/-- An operand: prefix operators before a literal, a column, a call or a parenthesised expression. -/
def operand (finish room : Nat) (ts : List Token) : Except ParseError (Taken Expr ts) :=
  match room with
  | 0 => .error ⟨positionOf finish ts, .nestedTooDeep⟩
  | room + 1 =>
    match ts with
    | [] => failAt finish [] .unexpected
    | t :: rest =>
      match prefixOp? t.lexeme with
      | some op =>
        match operand finish room rest with
        | .error e => .error e
        | .ok ⟨e, rest', h⟩ => .ok ⟨.unary op e, rest', by simp only [List.length_cons]; omega⟩
      | none =>
        match t.lexeme with
        | .number n => .ok ⟨.number n, rest, by simp⟩
        | .text s => .ok ⟨.text s, rest, by simp⟩
        | .braced s => .ok ⟨.column s, rest, by simp⟩
        | .name s =>
          match rest with
          | ⟨.openParen, _⟩ :: inner =>
            match arguments finish room inner with
            | .error e => .error e
            | .ok ⟨args, rest', h⟩ => .ok ⟨.call (some s) args, rest', by simp only [List.length_cons]; omega⟩
          | rest => .ok ⟨bareName s, rest, by simp⟩
        | .openParen =>
          match chain finish room rest with
          | .error e => .error e
          | .ok ⟨(first, more), rest', h⟩ =>
            match rest' with
            | ⟨.closeParen, _⟩ :: rest'' =>
              .ok ⟨group [] first more, rest'', by simp only [List.length_cons] at h ⊢; omega⟩
            | rest' => failAt finish rest' .expectedClose
        | _ => failAt finish (t :: rest) .unexpected
termination_by (ts.length, 0)
decreasing_by all_goals (simp_wf; omega)

/-- An operand and the binary operators after it, each with its operand. -/
def chain (finish room : Nat) (ts : List Token) :
    Except ParseError (Taken (Expr × List (BinaryOp × Expr)) ts) :=
  match operand finish room ts with
  | .error e => .error e
  | .ok ⟨first, rest, h⟩ =>
    match rest with
    | ⟨.op op, _⟩ :: rest' =>
      match chain finish room rest' with
      | .error e => .error e
      | .ok ⟨(x, more), rest'', h'⟩ =>
        .ok ⟨(first, (op, x) :: more), rest'', by simp only [List.length_cons] at h; omega⟩
    | rest => .ok ⟨(first, []), rest, h⟩
termination_by (ts.length, 1)
decreasing_by
  · omega
  · simp at h; omega

/-- The arguments of a call, from after its opening parenthesis to after the closing one. -/
def arguments (finish room : Nat) (ts : List Token) : Except ParseError (Taken (List Expr) ts) :=
  match ts with
  | ⟨.closeParen, _⟩ :: rest => .ok ⟨[], rest, by simp⟩
  | ts => argumentList finish room ts
termination_by (ts.length, 3)
decreasing_by all_goals omega

/-- At least one argument, separated by commas, up to and with the closing parenthesis. -/
def argumentList (finish room : Nat) (ts : List Token) : Except ParseError (Taken (List Expr) ts) :=
  match chain finish room ts with
  | .error e => .error e
  | .ok ⟨(first, more), rest, h⟩ =>
    match rest with
    | ⟨.comma, _⟩ :: rest' =>
      match argumentList finish room rest' with
      | .error e => .error e
      | .ok ⟨args, rest'', h'⟩ => .ok ⟨group [] first more :: args, rest'', by simp only [List.length_cons] at h; omega⟩
    | ⟨.closeParen, _⟩ :: rest' => .ok ⟨[group [] first more], rest', by simp only [List.length_cons] at h; omega⟩
    | rest => failAt finish rest .expectedCommaOrClose
termination_by (ts.length, 2)
decreasing_by
  · omega
  · simp at h; omega

end

/-- A whole formula from its tokens. -/
def formula (s : TokenStream) : Except ParseError Expr :=
  match s.tokens with
  | [] => .error ⟨0, .emptyFormula⟩
  | ts =>
    match chain s.finish maxNesting ts with
    | .error e => .error e
    | .ok ⟨(first, more), rest, _⟩ =>
      match rest with
      | [] => .ok (group [] first more)
      | rest => failAt s.finish rest .unexpected

end SheetQuery.Parser

namespace SheetQuery

def Expr.parse (text : String) : Except ParseError Expr :=
  match Lexer.scan text with
  | .error e => .error e
  | .ok s => Parser.formula s

theorem Expr.parse_of_scan {text : String} {s : TokenStream} (h : Lexer.scan text = .ok s) :
    parse text = Parser.formula s := by
  rw [parse, h]

end SheetQuery
