import SheetQuery.Proofs.Grouping

/-! The grammar of formulas. Binary operators have seven levels and group to the left; below them come prefix
operators, and below these the operands proper, which hold expressions again between parentheses and as
arguments. Operands between operators of several levels make a chain, which derives the tree that groups it by
precedence. -/

namespace SheetQuery

namespace Formula

inductive Symbol
  /-- Binary operators that bind at least as tightly as the level says. No operator has level 8. -/
  | level (p : Nat)
  /-- Prefix operators and what they stand before. -/
  | operand
  | primary

inductive Sign : Lexeme → UnaryOp → Prop
  | minus : Sign (.op .sub) .minus
  | plus : Sign (.op .add) .plus
  | not : Sign .bang .not

/-- The tokens derive the tree from the symbol, and every operand of the derivation lies inside at most so many
enclosing parentheses, calls and prefix operators. -/
inductive Derives : Symbol → List Lexeme → Expr → Nat → Prop
  | binary {op : BinaryOp} {ts us : List Lexeme} {l r : Expr} {n : Nat} (hop : 0 < op.precedence)
    (left : Derives (.level op.precedence) ts l n) (right : Derives (.level (op.precedence + 1)) us r n) :
    Derives (.level op.precedence) (ts ++ .op op :: us) (.binary op l r) n
  | tighter {p : Nat} {ts : List Lexeme} {e : Expr} {n : Nat} (h : Derives (.level (p + 1)) ts e n) :
    Derives (.level p) ts e n
  | single {ts : List Lexeme} {e : Expr} {n : Nat} (h : Derives .operand ts e n) : Derives (.level 8) ts e n
  | signed {t : Lexeme} {op : UnaryOp} {ts : List Lexeme} {e : Expr} {n : Nat} (ht : Sign t op)
    (h : Derives .operand ts e n) : Derives .operand (t :: ts) (.unary op e) (n + 1)
  | unsigned {ts : List Lexeme} {e : Expr} {n : Nat} (h : Derives .primary ts e n) : Derives .operand ts e n
  | number (v : Number) (n : Nat) : Derives .primary [.number v] (.number v) n
  | text (s : String) (n : Nat) : Derives .primary [.text s] (.text s) n
  | braced (s : String) (n : Nat) : Derives .primary [.braced s] (.column s) n
  | trueWord (n : Nat) : Derives .primary [.name "true"] (.literal (.boolean true)) n
  | falseWord (n : Nat) : Derives .primary [.name "false"] (.literal (.boolean false)) n
  | nullWord (n : Nat) : Derives .primary [.name "null"] (.literal .null) n
  | name (s : String) (n : Nat) (hs : s ∉ ["true", "false", "null"]) : Derives .primary [.name s] (.column s) n
  | emptyCall (s : String) (n : Nat) :
    Derives .primary [.name s, .openParen, .closeParen] (.call (some s) []) n
  | call (s : String) {args : List (List Lexeme × Expr)} {n : Nat}
    (h : ∀ a ∈ args, Derives (.level 1) a.1 a.2 n) :
    Derives .primary (.name s :: .openParen :: [Lexeme.comma].intercalate (args.map Prod.fst) ++ [Lexeme.closeParen])
      (.call (some s) (args.map Prod.snd)) (n + 1)
  | parens {ts : List Lexeme} {e : Expr} {n : Nat} (h : Derives (.level 1) ts e n) :
    Derives .primary (.openParen :: ts ++ [Lexeme.closeParen]) e (n + 1)

/-- Operands, each of them a `Q`, with operators of the language between them. -/
inductive Strung (Q : List Lexeme → Expr → Prop) : List Lexeme → Expr → List (BinaryOp × Expr) → Prop
  | last {ts : List Lexeme} {x : Expr} (h : Q ts x) : Strung Q ts x []
  | cons {ts us : List Lexeme} {x y : Expr} {op : BinaryOp} {ms : List (BinaryOp × Expr)} (h : Q ts x)
    (hop : 0 < op.precedence) (more : Strung Q us y ms) : Strung Q (ts ++ .op op :: us) x ((op, y) :: ms)

variable {Q : List Lexeme → Expr → Prop} {sym : Symbol} {ts us w : List Lexeme} {e x y : Expr} {op : BinaryOp}
  {ms ns : List (BinaryOp × Expr)} {n m p q : Nat}

namespace Strung

theorem append (h : Strung Q ts x ms) (hop : 0 < op.precedence) (h' : Strung Q us y ns) :
    Strung Q (ts ++ .op op :: us) x (ms ++ (op, y) :: ns) := by
  induction h with
  | last h => exact .cons h hop h'
  | cons h hop' _ ih => simpa using Strung.cons h hop' ih

theorem split (h : Strung Q ts x (ms ++ (op, y) :: ns)) :
    ∃ us vs, ts = us ++ .op op :: vs ∧ 0 < op.precedence ∧ Strung Q us x ms ∧ Strung Q vs y ns := by
  induction ms generalizing ts x with
  | nil =>
    cases h with
    | cons h hop more => exact ⟨_, _, rfl, hop, .last h, more⟩
  | cons m ms ih =>
    cases h with
    | cons h hop more =>
      obtain ⟨us, vs, rfl, hop', hus, hvs⟩ := ih more
      exact ⟨_, vs, by simp, hop', .cons h hop hus, hvs⟩

theorem precedence_pos (h : Strung Q ts x ms) : ∀ m ∈ ms, 1 ≤ m.1.precedence := by
  induction h with
  | last => simp
  | cons _ hop _ ih => exact List.forall_mem_cons.2 ⟨hop, ih⟩

end Strung

theorem precedence_le (op : BinaryOp) : op.precedence ≤ 7 := by
  cases op <;> simp [BinaryOp.precedence]

namespace Derives

theorem loosen (h : Derives (.level p) ts e n) (hq : q ≤ p) : Derives (.level q) ts e n := by
  obtain ⟨k, rfl⟩ := Nat.exists_eq_add_of_le hq
  induction k with
  | zero => exact h
  | succ k ih => exact ih h.tighter (Nat.le_add_right q k)

/-- A chain of operands derives the tree that groups it. -/
theorem of_grouped (h : Parser.Grouped p e x ms) (hp : p ≤ 8) (hs : Strung (Derives .operand · · n) ts x ms) :
    Derives (.level p) ts e n := by
  induction h generalizing ts with
  | operand p x =>
    cases hs with
    | last h => exact (single h).loosen hp
  | @binary p op _ _ _ _ _ _ hp' _ _ ihl ihr =>
    obtain ⟨us, vs, rfl, hop, hus, hvs⟩ := hs.split
    have hle := precedence_le op
    exact (binary hop (ihl (by omega) hus) (ihr (by omega) hvs)).loosen hp'

theorem of_strung (hs : Strung (Derives .operand · · n) ts x ms) :
    Derives (.level 1) ts (Parser.group [] x ms) n :=
  of_grouped (Parser.grouped_group hs.precedence_pos) (by decide) hs

theorem mono (h : Derives sym ts e n) (hm : n ≤ m) : Derives sym ts e m := by
  induction h generalizing m with
  | binary hop _ _ ihl ihr => exact .binary hop (ihl hm) (ihr hm)
  | tighter _ ih => exact .tighter (ih hm)
  | single _ ih => exact .single (ih hm)
  | unsigned _ ih => exact .unsigned (ih hm)
  | number v => exact .number v m
  | text s => exact .text s m
  | braced s => exact .braced s m
  | trueWord => exact .trueWord m
  | falseWord => exact .falseWord m
  | nullWord => exact .nullWord m
  | name s _ hs => exact .name s m hs
  | emptyCall s => exact .emptyCall s m
  | signed ht _ ih =>
    obtain ⟨k, rfl⟩ := Nat.exists_eq_add_of_le' (Nat.le_of_add_left_le hm)
    exact .signed ht (ih (by omega))
  | call s _ ih =>
    obtain ⟨k, rfl⟩ := Nat.exists_eq_add_of_le' (Nat.le_of_add_left_le hm)
    exact .call s fun a ha => ih a ha (by omega)
  | parens _ ih =>
    obtain ⟨k, rfl⟩ := Nat.exists_eq_add_of_le' (Nat.le_of_add_left_le hm)
    exact .parens (ih (by omega))

end Derives

end Formula

end SheetQuery
