import SheetQuery.Expr.Printer
import SheetQuery.Proofs.Everywhere
import SheetQuery.Proofs.FormulaGrammar

/-! The tokens that an expression is printed as. A part gets parentheses where it binds less tightly than its place
asks for. An expression read from text had parentheses there too, so the printed tokens nest no deeper, and they
derive the expression again with the names of its calls in upper case. -/

namespace SheetQuery

def Expr.upperCall : Expr → Expr
  | .call name args => .call (name.map Text.upper) args
  | e => e

def Expr.upperCalls (e : Expr) : Expr := e.rebuild upperCall

namespace Formula

def literalLexeme : Literal → Lexeme
  | .number n => .number n
  | .text s => .text s
  | .boolean true => .name "true"
  | .boolean false => .name "false"
  | .null => .name "null"

def columnLexeme (name : String) : Lexeme := if Printer.standsBare name then .name name else .braced name

def signLexemes : UnaryOp → List Lexeme
  | .minus => [.op .sub]
  | .plus => [.op .add]
  | .not => [.bang]
  | .other _ => []

def wrapped (needed : Bool) (ts : List Lexeme) : List Lexeme :=
  if needed then .openParen :: ts ++ [Lexeme.closeParen] else ts

mutual

def lexemes : Expr → List Lexeme
  | .literal v => [literalLexeme v]
  | .column name => [columnLexeme name]
  | .unary op e => signLexemes op ++ wrapped (Printer.isBinary e) (lexemes e)
  | .binary op l r => wrapped (Printer.bindsBelow op.precedence l) (lexemes l) ++
      .op op :: wrapped (Printer.bindsBelow (op.precedence + 1) r) (lexemes r)
  | .call name args => .name ((name.map Text.upper).getD "") :: .openParen ::
      [Lexeme.comma].intercalate (lexemesAll args) ++ [.closeParen]
  | .unsupported _ => []

def lexemesAll : List Expr → List (List Lexeme)
  | [] => []
  | e :: es => lexemes e :: lexemesAll es

end

theorem lexemesAll_eq_map (es : List Expr) : lexemesAll es = es.map lexemes := by
  induction es with
  | nil => rfl
  | cons e es ih => rw [lexemesAll, ih, List.map_cons]

/-- The symbol that the printed tokens derive from. -/
def symbolOf : Expr → Symbol
  | .binary op _ _ => .level op.precedence
  | _ => .operand

/-- How tightly what derives from a symbol binds. -/
def Symbol.binding : Symbol → Nat
  | .level p => p
  | .operand | .primary => 8

/-- The printed tokens derive the expression, and with one level to spare if a place that asks for `p` puts them
in parentheses. -/
structure Printable (p : Nat) (e : Expr) (n : Nat) : Prop where
  derives : Derives (symbolOf e) (lexemes e) e.upperCalls n
  spare : Printer.bindsBelow p e = true → ∃ m, n = m + 1 ∧ Derives (symbolOf e) (lexemes e) e.upperCalls m
  known : Printer.bindsBelow 1 e = false

variable {e x : Expr} {ts : List Lexeme} {p n : Nat} {sym : Symbol}

theorem Derives.of_symbolOf (h : Derives (symbolOf e) ts x n) (hp : p ≤ 8) (hb : Printer.bindsBelow p e = false) :
    Derives (.level p) ts x n := by
  cases e with
  | binary op l r => exact h.loosen (by simpa [Printer.bindsBelow] using hb)
  | _ => exact (single h).loosen hp

theorem isBinary_eq_bindsBelow (e : Expr) : Printer.isBinary e = Printer.bindsBelow 8 e := by
  cases e with
  | binary op l r => simp [Printer.isBinary, Printer.bindsBelow, Nat.lt_succ_of_le (precedence_le op)]
  | _ => rfl

namespace Printable

theorem parens (h : Printable p e n) (hb : Printer.bindsBelow p e = true) :
    Derives .primary (wrapped true (lexemes e)) e.upperCalls n := by
  obtain ⟨m, rfl, hm⟩ := h.spare hb
  exact .parens (hm.of_symbolOf (by decide) h.known)

theorem level (h : Printable p e n) (hp : p ≤ 8) :
    Derives (.level p) (wrapped (Printer.bindsBelow p e) (lexemes e)) e.upperCalls n := by
  cases hb : Printer.bindsBelow p e with
  | true => exact (Derives.single (.unsigned (h.parens hb))).loosen hp
  | false => exact h.derives.of_symbolOf hp hb

theorem operand (h : Printable 8 e n) :
    Derives .operand (wrapped (Printer.isBinary e) (lexemes e)) e.upperCalls n := by
  rw [isBinary_eq_bindsBelow]
  cases hb : Printer.bindsBelow 8 e with
  | true => exact .unsigned (h.parens hb)
  | false =>
    cases e with
    | binary op l r =>
      rw [← isBinary_eq_bindsBelow] at hb
      cases hb
    | _ => exact h.derives

end Printable

theorem bindsBelow_succ (h : Printer.bindsBelow p e = true) : Printer.bindsBelow (p + 1) e = true := by
  cases e with
  | binary op l r =>
    simp only [Printer.bindsBelow, decide_eq_true_eq] at h ⊢
    omega
  | _ => cases h

theorem derives_column (s : String) (n : Nat) : Derives .primary [columnLexeme s] (.column s) n := by
  unfold columnLexeme
  split
  case isTrue h =>
    refine .name s n fun hs => ?_
    simp only [List.mem_cons, List.not_mem_nil, or_false] at hs
    rcases hs with rfl | rfl | rfl <;> simp [Printer.standsBare] at h
  case isFalse => exact .braced s n

/-- Tokens read once give an expression that can be printed at the same depth. -/
theorem Derives.printable (h : Derives sym ts e n) : Printable sym.binding e n := by
  induction h with
  | @binary op _ _ l r n hop _ _ ihl ihr =>
    have hle := precedence_le op
    refine ⟨.binary hop (ihl.level (Nat.le_succ_of_le hle)) (ihr.level (Nat.succ_le_succ hle)), ?_, ?_⟩
    · simp [Printer.bindsBelow, Symbol.binding]
    · simpa [Printer.bindsBelow] using Nat.ne_of_gt hop
  | tighter _ ih => exact ⟨ih.derives, fun hb => ih.spare (bindsBelow_succ hb), ih.known⟩
  | single _ ih | unsigned _ ih => exact ih
  | signed ht _ ih =>
    refine ⟨?_, nofun, rfl⟩
    cases ht with
    | minus => exact .signed .minus ih.operand
    | plus => exact .signed .plus ih.operand
    | not => exact .signed .not ih.operand
  | number v n => exact ⟨.unsigned (.number v n), nofun, rfl⟩
  | text s n => exact ⟨.unsigned (.text s n), nofun, rfl⟩
  | braced s n | name s n => exact ⟨.unsigned (derives_column s n), nofun, rfl⟩
  | trueWord n => exact ⟨.unsigned (.trueWord n), nofun, rfl⟩
  | falseWord n => exact ⟨.unsigned (.falseWord n), nofun, rfl⟩
  | nullWord n => exact ⟨.unsigned (.nullWord n), nofun, rfl⟩
  | emptyCall s n => exact ⟨.unsigned (.emptyCall _ n), nofun, rfl⟩
  | @call s args n _ ih =>
    have hargs : ∀ a ∈ args.map fun a => (lexemes a.2, a.2.upperCalls), Derives (.level 1) a.1 a.2 n :=
      List.forall_mem_map.2 fun a ha => (ih a ha).derives.of_symbolOf (by decide) (ih a ha).known
    refine ⟨.unsigned ?_, nofun, rfl⟩
    simpa [lexemes, lexemesAll_eq_map, Expr.upperCalls, Expr.rebuild, Expr.rebuildAll_eq_map, Expr.upperCall,
      Function.comp_def] using Derives.call (Text.upper s) hargs
  | parens _ ih => exact ⟨ih.derives.mono (Nat.le_succ _), fun _ => ⟨_, rfl, ih.derives⟩, ih.known⟩

end Formula

end SheetQuery
