import Mathlib.Data.List.Induction
import SheetQuery.Expr.Parser

/-! Chains of operands and operators grouped by precedence. `Grouped p e x ms` says what the grouping is, with
no order of reading: an operator takes on its left what binds at least as tightly and on its right what binds
more tightly. Reading the chain with a stack of pending operators gives that tree, and there is no other. -/

namespace SheetQuery.Parser

/-- The operand `x` and the operators and operands `ms` after it make the tree `e`, in which no operator of the
chain binds looser than `p`. -/
inductive Grouped : Nat → Expr → Expr → List (BinaryOp × Expr) → Prop
  | operand (p : Nat) (x : Expr) : Grouped p x x []
  | binary {p : Nat} {op : BinaryOp} {l r x y : Expr} {ms ns : List (BinaryOp × Expr)} (hp : p ≤ op.precedence)
    (left : Grouped op.precedence l x ms) (right : Grouped (op.precedence + 1) r y ns) :
    Grouped p (.binary op l r) x (ms ++ (op, y) :: ns)

variable {p q : Nat} {e x y : Expr} {op : BinaryOp} {ms : List (BinaryOp × Expr)} {pending : List (Expr × BinaryOp)}

theorem Grouped.mono (h : Grouped p e x ms) (hq : q ≤ p) : Grouped q e x ms := by
  cases h with
  | operand => exact .operand q e
  | binary hp left right => exact .binary (Nat.le_trans hq hp) left right

/-- One more operator either takes the whole tree on its left or goes into the right operand. -/
theorem Grouped.snoc (h : Grouped p e x ms) (hop : p ≤ op.precedence) (y : Expr) :
    ∃ e', Grouped p e' x (ms ++ [(op, y)]) := by
  induction h with
  | operand p x => exact ⟨.binary op x y, .binary hop (.operand _ x) (.operand _ y)⟩
  | @binary p inner l r x z ms ns hp left right _ ih =>
    by_cases hle : op.precedence ≤ inner.precedence
    · exact ⟨.binary op (.binary inner l r) y, .binary hop (.binary hle left right) (.operand _ y)⟩
    · obtain ⟨r', hr⟩ := ih (by omega)
      exact ⟨.binary inner l r', by simpa using Grouped.binary hp left hr⟩

theorem exists_grouped (x : Expr) (h : ∀ m ∈ ms, p ≤ m.1.precedence) : ∃ e, Grouped p e x ms := by
  induction ms using List.reverseRecOn with
  | nil => exact ⟨x, .operand p x⟩
  | append_singleton ms m ih =>
    obtain ⟨e, he⟩ := ih fun m' hm' => h m' (by simp [hm'])
    exact he.snoc (h m (by simp)) m.2

theorem settle_of_lt (h : ∀ w ∈ pending.head?, w.2.precedence < p) (e : Expr) :
    settle p pending e = (pending, e) := by
  cases pending with
  | nil => rfl
  | cons w pending => rw [settle, if_neg (Nat.not_le.2 (h w rfl))]

/-- Reading a chain ends with operators pending that any operator which binds no tighter would settle to its
tree. -/
theorem Grouped.settles (h : Grouped p e x ms) (pending : List (Expr × BinaryOp))
    (hpending : ∀ w ∈ pending.head?, w.2.precedence < p) :
    ∃ pending' x', (∀ more, group pending x (ms ++ more) = group pending' x' more) ∧
      ∀ q ≤ p, settle q pending' x' = settle q pending e := by
  induction h generalizing pending with
  | operand p x => exact ⟨pending, x, fun _ => rfl, fun _ _ => rfl⟩
  | @binary p op l r x y ms ns hp _ _ ihl ihr =>
    have hbelow : ∀ w ∈ pending.head?, w.2.precedence < op.precedence := fun w hw =>
      Nat.lt_of_lt_of_le (hpending w hw) hp
    obtain ⟨pl, xl, hreadl, hl⟩ := ihl pending hbelow
    obtain ⟨pr, xr, hreadr, hr⟩ := ihr ((l, op) :: pending) (by rintro w ⟨⟩; exact Nat.lt_succ_self _)
    have hleft : settle op.precedence pl xl = (pending, l) := by
      rw [hl _ (Nat.le_refl _), settle_of_lt hbelow]
    refine ⟨pr, xr, fun more => ?_, fun q hq => ?_⟩
    · calc group pending x (ms ++ (op, y) :: ns ++ more)
          = group pl xl ((op, y) :: (ns ++ more)) := by rw [List.append_assoc, hreadl]; rfl
        _ = group ((l, op) :: pending) y (ns ++ more) := by rw [group, hleft]
        _ = group pr xr more := hreadr more
    · rw [hr q (by omega), settle, if_pos (Nat.le_trans hq hp)]

theorem Grouped.group_eq (h : Grouped p e x ms) : group [] x ms = e := by
  obtain ⟨pending, x', hread, hsettle⟩ := h.settles [] (by simp)
  rw [← List.append_nil ms, hread, group, hsettle 0 (Nat.zero_le p), settle]

theorem grouped_group (h : ∀ m ∈ ms, p ≤ m.1.precedence) : Grouped p (group [] x ms) x ms := by
  obtain ⟨e, he⟩ := exists_grouped x h
  rwa [he.group_eq]

end SheetQuery.Parser
