import SheetQuery.Canonical

/-! Conditions on every node of an expression. The passes to canonical form keep a condition that does not look
into the operands, provided it holds of the nodes that the passes bring in. -/

namespace SheetQuery

namespace Expr

inductive Everywhere (P : Expr → Prop) : Expr → Prop
  | literal {v : Literal} (here : P (.literal v)) : Everywhere P (.literal v)
  | column {name : String} (here : P (.column name)) : Everywhere P (.column name)
  | binary {op : BinaryOp} {l r : Expr} (here : P (.binary op l r)) (left : Everywhere P l)
    (right : Everywhere P r) : Everywhere P (.binary op l r)
  | unary {op : UnaryOp} {e : Expr} (here : P (.unary op e)) (operand : Everywhere P e) :
    Everywhere P (.unary op e)
  | call {name : Option String} {args : List Expr} (here : P (.call name args))
    (parts : ∀ a ∈ args, Everywhere P a) : Everywhere P (.call name args)
  | unsupported {kind : String} (here : P (.unsupported kind)) : Everywhere P (.unsupported kind)

/-- A condition on the node alone, which holds of the nodes that the passes to canonical form bring in. -/
structure Stable (P : Expr → Prop) : Prop where
  literal (v : Literal) : P (.literal v)
  binary {op : BinaryOp} {l r l' r' : Expr} : P (.binary op l r) → P (.binary op l' r')
  unary {op : UnaryOp} {e e' : Expr} : P (.unary op e) → P (.unary op e')
  call {name : Option String} {args args' : List Expr} : P (.call name args) → args'.length = args.length →
    P (.call name args')
  operator {op : BinaryOp} (h : op ∈ [.add, .div, .eq]) (l r : Expr) : P (.binary op l r)
  function {name : String} (h : name ∈ ["SUM", "CONCAT", "FLOAT"]) (args : List Expr) : P (.call (some name) args)

theorem rebuildAll_eq_map (f : Expr → Expr) (es : List Expr) : rebuildAll f es = es.map (rebuild f) := by
  induction es with
  | nil => rfl
  | cons e es ih => rw [rebuildAll, ih, List.map_cons]

namespace Everywhere

variable {P Q : Expr → Prop} {e : Expr}

theorem here (h : e.Everywhere P) : P e := by
  cases h <;> assumption

theorem args {n : Option String} {args : List Expr} (h : Everywhere P (.call n args)) :
    ∀ a ∈ args, Everywhere P a := by
  cases h with
  | call _ parts => exact parts

theorem imp (hPQ : ∀ e, P e → Q e) (h : e.Everywhere P) : e.Everywhere Q := by
  induction h with
  | literal h => exact .literal (hPQ _ h)
  | column h => exact .column (hPQ _ h)
  | binary h _ _ ihl ihr => exact .binary (hPQ _ h) ihl ihr
  | unary h _ ih => exact .unary (hPQ _ h) ih
  | call h _ ih => exact .call (hPQ _ h) ih
  | unsupported h => exact .unsupported (hPQ _ h)

theorem and (hP : e.Everywhere P) (hQ : e.Everywhere Q) : e.Everywhere fun e => P e ∧ Q e := by
  induction hP with
  | literal h => exact .literal ⟨h, hQ.here⟩
  | column h => exact .column ⟨h, hQ.here⟩
  | binary h _ _ ihl ihr =>
    cases hQ with
    | binary h' left right => exact .binary ⟨h, h'⟩ (ihl left) (ihr right)
  | unary h _ ih =>
    cases hQ with
    | unary h' operand => exact .unary ⟨h, h'⟩ (ih operand)
  | call h _ ih => exact .call ⟨h, hQ.here⟩ fun a ha => ih a ha (hQ.args a ha)
  | unsupported h => exact .unsupported ⟨h, hQ.here⟩

/-- A step that keeps the condition, once its node's operands are done, keeps it in a whole pass. -/
theorem rebuild (hP : Stable P) {f : Expr → Expr} (hf : ∀ e, Everywhere P e → Everywhere P (f e))
    (he : e.Everywhere P) : (e.rebuild f).Everywhere P := by
  induction he with
  | literal h => exact hf _ (.literal h)
  | column h => exact hf _ (.column h)
  | binary h _ _ ihl ihr => exact hf _ (.binary (hP.binary h) ihl ihr)
  | unary h _ ih => exact hf _ (.unary (hP.unary h) ih)
  | call h _ ih =>
    refine hf _ (.call (hP.call h (by simp [rebuildAll_eq_map])) ?_)
    rw [rebuildAll_eq_map, List.forall_mem_map]
    exact ih
  | unsupported h => exact hf _ (.unsupported h)

end Everywhere

end Expr

namespace Canonical

open SheetQuery.Expr

variable {P : Expr → Prop} (hP : Stable P) {e : Expr} {es : List Expr}
include hP

theorem averageOf_everywhere (h : ∀ e ∈ es, e.Everywhere P) : (averageOf es).Everywhere P := by
  match es with
  | [] => exact .literal (hP.literal _)
  | [e] => exact h e (by simp)
  | e :: e' :: es =>
    exact .binary (hP.operator (by simp) _ _) (.call (hP.function (by simp) _) h) (.literal (hP.literal _))

theorem sumOf_everywhere (h : ∀ e ∈ es, e.Everywhere P) : (sumOf es).Everywhere P := by
  induction es with
  | nil => exact .literal (hP.literal _)
  | cons e es ih =>
    cases es with
    | nil => exact h e (by simp)
    | cons e' es => exact .binary (hP.operator (by simp) _ _) (h e (by simp)) (ih fun a ha => h a (by simp [ha]))

theorem linkOf_everywhere (h : ∀ e ∈ es, e.Everywhere P) : (linkOf es).Everywhere P := by
  have hlit (v : Literal) : Everywhere P (.literal v) := .literal (hP.literal v)
  refine .call (hP.function (by simp) _) ?_
  match es with
  | [] => simp [Expr.null, Expr.text, hlit]
  | [e] => simp [Expr.text, hlit, h]
  | e :: e' :: es => simp [Expr.text, hlit, h]

omit hP in
theorem concatParts_everywhere (h : e.Everywhere P) : ∀ a ∈ concatParts e, a.Everywhere P := by
  unfold concatParts
  split
  · split
    · exact h.args
    · simpa using h
  · simpa using h

theorem step_everywhere {p : Pass} (hp : p ∈ passes) (h : e.Everywhere P) : (p.step e).Everywhere P := by
  simp only [passes, List.mem_cons, List.not_mem_nil, or_false] at hp
  rcases hp with rfl | rfl | rfl | rfl | rfl | rfl
  · simp only [averageCalls]
    split
    · split
      · exact averageOf_everywhere hP h.args
      · exact h
    · exact h
  · simp only [sumCalls]
    split
    · split
      · exact sumOf_everywhere hP h.args
      · exact h
    · exact h
  · simp only [linkCalls]
    split
    · split
      · exact linkOf_everywhere hP h.args
      · exact h
    · exact h
  · simp only [joinConcat]
    split
    · cases h with
      | binary _ left right =>
        exact .call (hP.function (by simp) _) (List.forall_mem_append.2
          ⟨concatParts_everywhere left, concatParts_everywhere right⟩)
    · exact h
  · simp only [unifyEquality]
    split
    · cases h with
      | binary _ left right => exact .binary (hP.operator (by simp) _ _) left right
    · exact h
  · simp only [floatDividend]
    split
    · split
      · exact h
      · cases h with
        | binary here left right =>
          exact .binary (hP.binary here) (.call (hP.function (by simp) _) (by simpa using left)) right
    · exact h

theorem runAll_everywhere {ps : List Pass} (hps : ps ⊆ passes) (h : e.Everywhere P) :
    (runAll ps e).Everywhere P := by
  induction ps generalizing e with
  | nil => exact h
  | cons p ps ih =>
    refine ih (fun q hq => hps (by simp [hq])) ?_
    exact h.rebuild hP fun _ => step_everywhere hP (hps (by simp))

end Canonical

theorem Expr.Everywhere.canonical {P : Expr → Prop} (hP : Stable P) {e : Expr} (h : e.Everywhere P) :
    e.canonical.Everywhere P :=
  Canonical.runAll_everywhere hP (List.Subset.refl _) h

end SheetQuery
