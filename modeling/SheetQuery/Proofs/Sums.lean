import SheetQuery.Proofs.CanonicalForm

/-! Sums as chains of `+`. The canonical form of a sum is grouped to the right, and a chain is grouped to
the left as it is written. Neither side of a `+` puts parentheses around another `+`, so the SQL does not
show the difference. -/

namespace SheetQuery

namespace Expr

open Canonical

/-- The terms `e`, `es` with `+` between them, grouped to the left. -/
def plusChain (e : Expr) (es : List Expr) : Expr := es.foldl (.binary .add) e

theorem canonical_plusChain (e : Expr) (es : List Expr) :
    (plusChain e es).canonical = plusChain e.canonical (es.map canonical) := by
  induction es generalizing e with
  | nil => rfl
  | cons a es ih => exact ih (.binary .add e a)

/-- A pass that leaves `+` alone reduces a sum term by term. -/
theorem rebuild_sumOf {f : Expr → Expr} (hadd : ∀ l r, f (.binary .add l r) = .binary .add l r) (e : Expr)
    (es : List Expr) : (sumOf (e :: es)).rebuild f = sumOf ((e :: es).map (rebuild f)) := by
  induction es generalizing e with
  | nil => rfl
  | cons a es ih =>
    have hnode : (sumOf (e :: a :: es)).rebuild f =
        f (.binary .add (e.rebuild f) ((sumOf (a :: es)).rebuild f)) := rfl
    rw [hnode, hadd, ih]
    rfl

theorem runAll_sumOf {ps : List Pass} (hadd : ∀ p ∈ ps, ∀ l r, p.step (.binary .add l r) = .binary .add l r)
    (e : Expr) (es : List Expr) : runAll ps (sumOf (e :: es)) = sumOf ((e :: es).map (runAll ps)) := by
  induction ps generalizing e es with
  | nil =>
    have hnil : runAll [] = id := rfl
    rw [hnil, List.map_id, id]
  | cons p ps ih =>
    have hcons : runAll (p :: ps) = runAll ps ∘ p.run := rfl
    have hp : p.run (sumOf (e :: es)) = sumOf ((e :: es).map p.run) :=
      rebuild_sumOf (hadd p (by simp)) e es
    rw [hcons, Function.comp_apply, hp, List.map_cons, ih fun q hq => hadd q (by simp [hq]), ← List.map_cons,
      List.map_map]

/-- The names of the sum, in letters of any case. -/
def IsSumName (name : String) : Prop :=
  Text.sameLetters name "ADD" = true ∨ Text.sameLetters name "SUM" = true

theorem IsSumName.hasName_avg {name : String} (h : IsSumName name) : hasName (some name) "AVG" = false := by
  rcases h with h | h
  · exact hasName_eq_false (f := .add) (by rw [Text.upper_eq_of_sameLetters h]; rfl) rfl (by decide)
  · exact hasName_eq_false (f := .sum) (by rw [Text.upper_eq_of_sameLetters h]; rfl) rfl (by decide)

/-- The second pass makes the sum, and the passes after it leave its `+` in place. -/
theorem canonical_sum {name : String} (h : IsSumName name) (e : Expr) (es : List Expr) :
    (call (some name) (e :: es)).canonical = sumOf ((e :: es).map canonical) := by
  have hname : (hasName (some name) "ADD" || hasName (some name) "SUM") = true := by
    simpa [hasName, IsSumName] using h
  have hmade : runAll (passes.take 2) (call (some name) (e :: es)) =
      sumOf ((e :: es).map (runAll (passes.take 2))) := by
    have htwo : runAll (passes.take 2) = fun x => (x.rebuild averageCalls).rebuild sumCalls := rfl
    simp [htwo, rebuild, rebuildAll_eq_map, averageCalls, sumCalls, h.hasName_avg, hname, Function.comp_def]
  have hpasses : canonical = runAll (passes.drop 2) ∘ runAll (passes.take 2) := rfl
  have hkeep : ∀ p ∈ passes.drop 2, ∀ l r, p.step (.binary .add l r) = .binary .add l r := by
    simp [passes, linkCalls, joinConcat, unifyEquality, floatDividend]
  rw [hpasses, Function.comp_apply, hmade, List.map_cons, runAll_sumOf hkeep, ← List.map_cons, List.map_map]

end Expr

namespace Sql

open Canonical (sumOf)
open SheetQuery.Expr (plusChain)

variable {d : Dialect} {names : Naming}

def plus (m m' : Noted Fragment) : Noted Fragment := do
  let left ← m
  let right ← m'
  return left ++ " + " ++ right

theorem plus_eq (m m' : Noted Fragment) :
    plus m m' = ⟨m.result ++ " + " ++ m'.result, m.notices ++ m'.notices⟩ := by
  simp [plus, bind, pure]

theorem plus_assoc (a b c : Noted Fragment) : plus (plus a b) c = plus a (plus b c) := by
  have hresult (f g h : Fragment) : f ++ " + " ++ g ++ " + " ++ h = f ++ " + " ++ (g ++ " + " ++ h) := by
    simp only [Fragment.append_assoc]
  simp only [plus_eq, hresult, List.append_assoc]

def term (d : Dialect) (names : Naming) (e : Expr) : Noted Fragment :=
  (Operand.mk e (write d names e)).valueUnder d .add false

theorem write_add (l r : Expr) : write d names (.binary .add l r) = plus (term d names l) (term d names r) := by
  have hright : (Operand.mk r (write d names r)).valueUnder d .add true = term d names r := by
    cases r with
    | binary op l' r' => cases op <;> rfl
    | _ => rfl
  simp only [plus, ← hright]
  rfl

/-- A sum as a term of a sum gets no parentheses. -/
theorem term_add (l r : Expr) : term d names (.binary .add l r) = write d names (.binary .add l r) := by
  have hkept (f g : Fragment) : asValue d (f ++ g) = f ++ g := rfl
  have hterm : term d names (.binary .add l r) = asValue d <$> write d names (.binary .add l r) := rfl
  rw [hterm, write_add, plus_eq]
  simp only [Functor.map, Function.comp_apply, hkept, List.append_nil]

theorem term_plusChain (e a : Expr) (es : List Expr) :
    term d names (plusChain (.binary .add e a) es) = plus (term d names e) (term d names (plusChain a es)) := by
  induction es generalizing e a with
  | nil => exact (term_add e a).trans (write_add e a)
  | cons b es ih =>
    calc term d names (plusChain (.binary .add (.binary .add e a) b) es)
      _ = plus (term d names (.binary .add e a)) (term d names (plusChain b es)) := ih _ b
      _ = plus (term d names e) (plus (term d names a) (term d names (plusChain b es))) := by
        rw [term_add, write_add, plus_assoc]
      _ = plus (term d names e) (term d names (plusChain (.binary .add a b) es)) := by rw [ih a b]

/-- Terms grouped to the right are written like terms grouped to the left. -/
theorem term_sumOf (e : Expr) (es : List Expr) :
    term d names (sumOf (e :: es)) = term d names (plusChain e es) := by
  induction es generalizing e with
  | nil => rfl
  | cons a es ih =>
    calc term d names (.binary .add e (sumOf (a :: es)))
      _ = plus (term d names e) (term d names (sumOf (a :: es))) := by rw [term_add, write_add]
      _ = plus (term d names e) (term d names (plusChain a es)) := by rw [ih a]
      _ = term d names (plusChain (.binary .add e a) es) := (term_plusChain e a es).symm

theorem exists_plusChain_eq (e a : Expr) (es : List Expr) : ∃ l r, plusChain e (a :: es) = .binary .add l r := by
  induction es generalizing e a with
  | nil => exact ⟨e, a, rfl⟩
  | cons b es ih => exact ih (.binary .add e a) b

theorem write_sumOf (d : Dialect) (names : Naming) (e : Expr) (es : List Expr) :
    write d names (sumOf (e :: es)) = write d names (plusChain e es) ∧
      isOperation (sumOf (e :: es)) = isOperation (plusChain e es) := by
  cases es with
  | nil => exact ⟨rfl, rfl⟩
  | cons a es =>
    obtain ⟨l, r, hchain⟩ := exists_plusChain_eq e a es
    have hterm : term d names (sumOf (e :: a :: es)) = term d names (plusChain e (a :: es)) := term_sumOf e _
    rw [hchain] at hterm ⊢
    exact ⟨by rw [← term_add l r, ← hterm]; exact (term_add e (sumOf (a :: es))).symm, rfl⟩

end Sql

namespace Expr

/-- A call of ADD or SUM with at least one argument compiles exactly like the arguments with `+` between
them: the same text, the same bindings and the same notices, as a value and as a condition. -/
theorem compile_sum_eq_plusChain {name : String} (h : IsSumName name) (e : Expr) (es : List Expr) (d : Dialect)
    (names : Naming) :
    (call (some name) (e :: es)).compile d names = (plusChain e es).compile d names ∧
      (call (some name) (e :: es)).compileCondition d names = (plusChain e es).compileCondition d names := by
  obtain ⟨hsql, hoperation⟩ := Sql.write_sumOf d names e.canonical (es.map canonical)
  simp only [compile, compileCondition, operand, Operand.value, Operand.condition, canonical_sum h,
    canonical_plusChain, List.map_cons, hsql, hoperation, and_self]

theorem compile_sum_eq_plusChain_mixed_case :
    IsSumName "Sum" ∧
    (call (some "Sum") [.column "a", .binary .sub (.column "b") (.column "c"), .call none []]).compile
      .postgres .default =
      (binary .add (.binary .add (.column "a") (.binary .sub (.column "b") (.column "c")))
        (.call none [])).compile .postgres .default := by
  have hname : IsSumName "Sum" := .inr (by decide)
  exact ⟨hname, (compile_sum_eq_plusChain hname _ _ _ _).1⟩

end Expr

end SheetQuery
