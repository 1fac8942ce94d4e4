import SheetQuery.Proofs.Sums

/-! The canonical form is a normal form. A reduced node is one that no pass has work for. Every node of a
canonical form is reduced, and an expression of reduced nodes is its own canonical form. -/

namespace SheetQuery

namespace Expr

open Canonical

/-- No sugar at this node: a call of `AVG`, `ADD`, `SUM` or `URL` has no arguments, the operator is neither `&`
nor `==`, and the dividend of a division is a call of `FLOAT`. -/
def IsReduced : Expr → Prop
  | call name args => args = [] ∨ ∀ sugar ∈ ["AVG", "ADD", "SUM", "URL"], hasName name sugar = false
  | binary op l _ => op ≠ .concat ∧ op ≠ .eqEq ∧ (op = .div → l.calledName = some "FLOAT")
  | _ => True

variable {e : Expr} {es : List Expr}

theorem isReduced_call_iff {name : Option String} {args : List Expr} : (call name args).IsReduced ↔
    args = [] ∨ hasName name "AVG" = false ∧ hasName name "ADD" = false ∧ hasName name "SUM" = false ∧
      hasName name "URL" = false := by
  simp [IsReduced]

/-! What the passes build out of reduced parts is reduced. -/

theorem everywhere_isReduced_sumOf (h : ∀ e ∈ es, e.Everywhere IsReduced) :
    (sumOf es).Everywhere IsReduced := by
  induction es with
  | nil => exact .literal trivial
  | cons e es ih =>
    cases es with
    | nil => exact h e (by simp)
    | cons e' es =>
      have hplus : (binary .add e (sumOf (e' :: es))).IsReduced := by simp [IsReduced]
      exact .binary hplus (h e (by simp)) (ih fun a ha => h a (by simp [ha]))

theorem everywhere_isReduced_concat (h : ∀ e ∈ es, e.Everywhere IsReduced) :
    (call (some "CONCAT") es).Everywhere IsReduced :=
  .call (isReduced_call_iff.2 (.inr (by decide))) h

theorem everywhere_isReduced_linkOf (h : ∀ e ∈ es, e.Everywhere IsReduced) :
    (linkOf es).Everywhere IsReduced := by
  have hlit (v : Literal) : (literal v).Everywhere IsReduced := .literal trivial
  apply everywhere_isReduced_concat
  match es with
  | [] => simp [null, text, hlit]
  | [e] => simp [text, hlit, h]
  | e :: e' :: es => simp [text, hlit, h]

theorem everywhere_isReduced_div {l r : Expr} (hl : l.Everywhere IsReduced) (hr : r.Everywhere IsReduced) :
    (binary .div (if l.calledName = some "FLOAT" then l else call (some "FLOAT") [l]) r).Everywhere
      IsReduced := by
  split
  case isTrue hfloat => exact .binary (by simp [IsReduced, hfloat]) hl hr
  case isFalse =>
    have hcast : (call (some "FLOAT") [l]).Everywhere IsReduced :=
      .call (isReduced_call_iff.2 (.inr (by decide))) (by simpa using hl)
    have hname : (call (some "FLOAT") [l]).calledName = some "FLOAT" := rfl
    exact .binary (by simp [IsReduced, hname]) hcast hr

/-- The first pass is done with an average as soon as it is spelled out. -/
theorem canonical_average {name : Option String} (h : hasName name "AVG" = true) (hne : es ≠ []) :
    (call name es).canonical = (averageOf es).canonical := by
  have hpass : (call name es).rebuild averageCalls = (averageOf es).rebuild averageCalls := by
    match es with
    | [e] => simp [rebuild, rebuildAll, averageCalls, averageOf, h]
    | e :: e' :: es =>
      have hsum : hasName (some "SUM") "AVG" = false := by decide
      simp [rebuild, rebuildAll_eq_map, averageCalls, averageOf, number, h, hsum]
  have hpasses : canonical = runAll (passes.drop 1) ∘ rebuild averageCalls := rfl
  rw [hpasses, Function.comp_apply, Function.comp_apply, hpass]

theorem averageOf_of_two (e e' : Expr) (es : List Expr) : averageOf (e :: e' :: es) =
    binary .div (call (some "SUM") (e :: e' :: es)) (number (.ofNat (e :: e' :: es).length)) :=
  rfl

theorem everywhere_isReduced_average (h : ∀ e ∈ es, e.canonical.Everywhere IsReduced) :
    (averageOf es).canonical.Everywhere IsReduced := by
  match es with
  | [] => exact .literal trivial
  | [e] => exact h e (by simp)
  | e :: e' :: es =>
    have hsum : (call (some "SUM") (e :: e' :: es)).canonical = sumOf ((e :: e' :: es).map canonical) :=
      canonical_sum (.inr (by decide)) e (e' :: es)
    rw [averageOf_of_two, canonical_div, hsum]
    exact everywhere_isReduced_div (everywhere_isReduced_sumOf (List.forall_mem_map.2 h)) (.literal trivial)

theorem canonical_call_nil (name : Option String) : (call name []).canonical = call name [] := by
  simp [canonical, runAll, passes, Pass.run, rebuild, rebuildAll, averageCalls, sumCalls, linkCalls, joinConcat,
    unifyEquality, floatDividend]

theorem everywhere_isReduced_call (name : Option String) (h : ∀ e ∈ es, e.canonical.Everywhere IsReduced) :
    (call name es).canonical.Everywhere IsReduced := by
  obtain rfl | ⟨e, es, rfl⟩ : es = [] ∨ ∃ e es', es = e :: es' := by
    cases es <;> simp
  · rw [canonical_call_nil]
    exact .call (isReduced_call_iff.2 (.inl rfl)) (by simp)
  have hparts : ∀ a ∈ (e :: es).map canonical, a.Everywhere IsReduced := List.forall_mem_map.2 h
  by_cases havg : hasName name "AVG" = true
  · rw [canonical_average havg (by simp)]
    exact everywhere_isReduced_average h
  by_cases hsum : hasName name "ADD" = true ∨ hasName name "SUM" = true
  · obtain ⟨n, rfl⟩ : ∃ n, name = some n := by
      cases name <;> simp [hasName] at hsum ⊢
    rw [canonical_sum hsum]
    exact everywhere_isReduced_sumOf hparts
  simp only [not_or, Bool.not_eq_true] at havg hsum
  cases hurl : hasName name "URL" with
  | true =>
    rw [canonical_url havg hsum.1 hsum.2 hurl]
    exact everywhere_isReduced_linkOf hparts
  | false =>
    rw [canonical_call havg hsum.1 hsum.2 (.inl hurl)]
    exact .call (isReduced_call_iff.2 (.inr ⟨havg, hsum.1, hsum.2, hurl⟩)) hparts

/-- Every node of a canonical form is reduced. -/
theorem everywhere_isReduced_canonical (e : Expr) : e.canonical.Everywhere IsReduced := by
  induction e using Expr.induct with
  | literal v => exact .literal trivial
  | column n => exact .column trivial
  | unsupported k => exact .unsupported trivial
  | unary op e ih => exact .unary trivial ih
  | call name args ih => exact everywhere_isReduced_call name ih
  | binary op l r ihl ihr =>
    by_cases hconcat : op = .concat
    · rw [hconcat, canonical_concat]
      exact everywhere_isReduced_concat (List.forall_mem_append.2
        ⟨concatParts_everywhere ihl, concatParts_everywhere ihr⟩)
    by_cases heq : op = .eqEq
    · rw [heq, canonical_eqEq]
      exact .binary (by simp [IsReduced]) ihl ihr
    by_cases hdiv : op = .div
    · rw [hdiv, canonical_div]
      exact everywhere_isReduced_div ihl ihr
    · rw [canonical_binary hconcat heq hdiv]
      exact .binary ⟨hconcat, heq, fun h => absurd h hdiv⟩ ihl ihr

/-! A pass has nothing to do on reduced nodes. -/

theorem rebuild_eq_self {P : Expr → Prop} {f : Expr → Expr} (hf : ∀ e, P e → f e = e) (h : e.Everywhere P) :
    e.rebuild f = e := by
  induction h with
  | literal here | column here | unsupported here => exact hf _ here
  | unary here _ ih => rw [rebuild, ih, hf _ here]
  | binary here _ _ ihl ihr => rw [rebuild, ihl, ihr, hf _ here]
  | call here _ ih =>
    rw [rebuild, rebuildAll_eq_map, List.map_congr_left ih, List.map_id', hf _ here]

theorem joinConcat_binary {op : BinaryOp} (h : op ≠ .concat) (l r : Expr) :
    joinConcat (binary op l r) = binary op l r := by
  cases op
  case concat => exact absurd rfl h
  all_goals rfl

theorem unifyEquality_binary {op : BinaryOp} (h : op ≠ .eqEq) (l r : Expr) :
    unifyEquality (binary op l r) = binary op l r := by
  cases op
  case eqEq => exact absurd rfl h
  all_goals rfl

theorem floatDividend_binary {op : BinaryOp} {l : Expr} (h : op = .div → l.calledName = some "FLOAT") (r : Expr) :
    floatDividend (binary op l r) = binary op l r := by
  cases op
  case div => exact if_pos (h rfl)
  all_goals rfl

theorem step_eq_self {p : Pass} (hp : p ∈ passes) (h : e.IsReduced) : p.step e = e := by
  simp only [passes, List.mem_cons, List.not_mem_nil, or_false] at hp
  cases e with
  | call name args =>
    rcases isReduced_call_iff.1 h with rfl | ⟨havg, hadd, hsum, hurl⟩ <;>
      rcases hp with rfl | rfl | rfl | rfl | rfl | rfl <;>
      simp [averageCalls, sumCalls, linkCalls, joinConcat, unifyEquality, floatDividend, *]
  | binary op l r =>
    obtain ⟨hconcat, heq, hdiv⟩ := h
    rcases hp with rfl | rfl | rfl | rfl | rfl | rfl
    · rfl
    · rfl
    · rfl
    · exact joinConcat_binary hconcat l r
    · exact unifyEquality_binary heq l r
    · exact floatDividend_binary hdiv r
  | _ => rcases hp with rfl | rfl | rfl | rfl | rfl | rfl <;> rfl

theorem runAll_eq_self {ps : List Pass} (hps : ps ⊆ passes) (h : e.Everywhere IsReduced) : runAll ps e = e := by
  induction ps with
  | nil => rfl
  | cons p ps ih =>
    have hp : p.run e = e := rebuild_eq_self (fun _ => step_eq_self (hps (by simp))) h
    have hcons : runAll (p :: ps) e = runAll ps (p.run e) := rfl
    rw [hcons, hp, ih fun q hq => hps (by simp [hq])]

theorem canonical_eq_self (h : e.Everywhere IsReduced) : e.canonical = e :=
  runAll_eq_self (List.Subset.refl _) h

/-- The canonical form has no sugar anywhere; exactly the expressions without sugar are their own canonical
form; so a second run of the passes changes nothing. -/
theorem canonical_normal_form (e : Expr) :
    e.canonical.Everywhere IsReduced ∧ (e.canonical = e ↔ e.Everywhere IsReduced) ∧
      e.canonical.canonical = e.canonical := by
  have hreduced := everywhere_isReduced_canonical e
  refine ⟨hreduced, ⟨fun h => ?_, canonical_eq_self⟩, canonical_eq_self hreduced⟩
  rw [← h]
  exact hreduced

end Expr

end SheetQuery
