import SheetQuery.Proofs.CanonicalForm
import SheetQuery.Proofs.Weaving

/-! Expressions under other names. Columns may be named in any way; the name of a function may change in the case of
its letters. The passes to canonical form see no difference, and neither do the places that an operand is put in. -/

namespace SheetQuery

/-- Other names for columns and functions. A function keeps its letters, and the functions that the passes to
canonical form bring in keep their names. -/
structure Relabeling where
  column : String → String
  function : String → String
  letters (name : String) : Text.asciiLower (function name) = Text.asciiLower name
  kept {name : String} (h : name ∈ ["SUM", "CONCAT", "FLOAT"]) : function name = name

namespace Relabeling

def node (ρ : Relabeling) : Expr → Expr
  | .column name => .column (ρ.column name)
  | .call name args => .call (name.map ρ.function) args
  | e => e

variable (ρ : Relabeling)

theorem upper_function (name : String) : Text.upper (ρ.function name) = Text.upper name := by
  rw [← Text.upper_asciiLower, ρ.letters, Text.upper_asciiLower]

theorem hasName_function (name : Option String) (s : String) :
    Canonical.hasName (name.map ρ.function) s = Canonical.hasName name s := by
  cases name with
  | none => rfl
  | some n => simp [Canonical.hasName, Text.sameLetters, ρ.letters]

end Relabeling

namespace Expr

def relabel (ρ : Relabeling) (e : Expr) : Expr := e.rebuild ρ.node

variable (ρ : Relabeling)

@[simp] theorem relabel_literal (v : Literal) : (literal v).relabel ρ = literal v := rfl

@[simp] theorem relabel_column (n : String) : (column n).relabel ρ = column (ρ.column n) := rfl

@[simp] theorem relabel_unsupported (k : String) : (unsupported k).relabel ρ = unsupported k := rfl

@[simp] theorem relabel_unary (op : UnaryOp) (e : Expr) : (unary op e).relabel ρ = unary op (e.relabel ρ) := rfl

@[simp]
theorem relabel_binary (op : BinaryOp) (l r : Expr) :
    (binary op l r).relabel ρ = binary op (l.relabel ρ) (r.relabel ρ) :=
  rfl

@[simp]
theorem relabel_call (name : Option String) (args : List Expr) :
    (call name args).relabel ρ = call (name.map ρ.function) (args.map (relabel ρ)) := by
  simp only [relabel, rebuild, Relabeling.node, rebuildAll_eq_map]
  rfl

theorem asNumber?_relabel (e : Expr) : (e.relabel ρ).asNumber? = e.asNumber? := by
  induction e using Expr.induct with
  | unary op e ih => cases op <;> simp [asNumber?, ih]
  | _ => simp [asNumber?]

theorem calledName_relabel (e : Expr) : (e.relabel ρ).calledName = e.calledName := by
  cases e with
  | call name args => cases name <;> simp [calledName, ρ.upper_function]
  | _ => rfl

theorem asText?_relabel (e : Expr) : (e.relabel ρ).asText? = e.asText? := by
  cases e <;> simp [asText?]

theorem kin_relabel (e : Expr) : e.Kin (e.relabel ρ) where
  isOperation := by
    cases e with
    | unary op e => cases op <;> simp [Sql.isOperation, asNumber?_relabel]
    | _ => simp [Sql.isOperation]
  clashesUnder op right := by cases e <;> simp [Sql.clashesUnder]
  calledName := (calledName_relabel ρ e).symm

end Expr

namespace Canonical

open SheetQuery.Expr

variable (ρ : Relabeling)

theorem relabel_averageOf (es : List Expr) : (averageOf es).relabel ρ = averageOf (es.map (relabel ρ)) := by
  match es with
  | [] => rfl
  | [e] => rfl
  | e :: e' :: es => simp [averageOf, Expr.number, ρ.kept]

theorem relabel_sumOf (es : List Expr) : (sumOf es).relabel ρ = sumOf (es.map (relabel ρ)) := by
  induction es with
  | nil => rfl
  | cons e es ih =>
    cases es with
    | nil => rfl
    | cons e' es => simpa [sumOf] using ih

theorem relabel_linkOf (es : List Expr) : (linkOf es).relabel ρ = linkOf (es.map (relabel ρ)) := by
  match es with
  | [] => simp [linkOf, Expr.null, Expr.text, ρ.kept]
  | [e] => simp [linkOf, Expr.text, ρ.kept]
  | e :: e' :: es => simp [linkOf, Expr.text, ρ.kept]

theorem concatParts_relabel (e : Expr) : concatParts (e.relabel ρ) = (concatParts e).map (relabel ρ) := by
  cases e with
  | call name args =>
    rw [relabel_call, concatParts, concatParts, ρ.hasName_function]
    split <;> simp
  | _ => simp [concatParts]

theorem step_relabel {p : Pass} (hp : p ∈ passes) (e : Expr) : p.step (e.relabel ρ) = (p.step e).relabel ρ := by
  simp only [passes, List.mem_cons, List.not_mem_nil, or_false] at hp
  rcases hp with rfl | rfl | rfl | rfl | rfl | rfl
  · cases e with
    | call name args =>
      simp only [relabel_call, averageCalls, List.isEmpty_map, ρ.hasName_function]
      split <;> simp [relabel_averageOf]
    | _ => simp [averageCalls]
  · cases e with
    | call name args =>
      simp only [relabel_call, sumCalls, List.isEmpty_map, ρ.hasName_function]
      split <;> simp [relabel_sumOf]
    | _ => simp [sumCalls]
  · cases e with
    | call name args =>
      simp only [relabel_call, linkCalls, List.isEmpty_map, ρ.hasName_function]
      split <;> simp [relabel_linkOf]
    | _ => simp [linkCalls]
  · cases e with
    | binary op l r => cases op <;> simp [joinConcat, concatParts_relabel, ρ.kept]
    | _ => simp [joinConcat]
  · cases e with
    | binary op l r => cases op <;> simp [unifyEquality]
    | _ => simp [unifyEquality]
  · cases e with
    | binary op l r =>
      cases op
      case div =>
        simp only [relabel_binary, floatDividend, calledName_relabel]
        split <;> simp [ρ.kept]
      all_goals simp [floatDividend]
    | _ => simp [floatDividend]

theorem run_relabel {p : Pass} (hp : p ∈ passes) (e : Expr) : p.run (e.relabel ρ) = (p.run e).relabel ρ := by
  unfold Pass.run
  induction e using Expr.induct with
  | binary op l r ihl ihr => simp only [relabel_binary, rebuild, ihl, ihr, ← step_relabel ρ hp]
  | unary op e ih => simp only [relabel_unary, rebuild, ih, ← step_relabel ρ hp]
  | call name args ih =>
    simp only [relabel_call, rebuild, rebuildAll_eq_map, ← step_relabel ρ hp, List.map_map]
    exact congrArg (fun args => p.step (.call (name.map ρ.function) args)) (List.map_congr_left ih)
  | literal v => exact step_relabel ρ hp (.literal v)
  | column n => exact step_relabel ρ hp (.column n)
  | unsupported k => exact step_relabel ρ hp (.unsupported k)

theorem runAll_relabel {ps : List Pass} (hps : ps ⊆ passes) (e : Expr) :
    runAll ps (e.relabel ρ) = (runAll ps e).relabel ρ := by
  induction ps generalizing e with
  | nil => rfl
  | cons p ps ih =>
    rw [List.cons_subset] at hps
    simp only [runAll, List.foldl_cons, run_relabel ρ hps.1] at ih ⊢
    exact ih hps.2 _

end Canonical

theorem Expr.canonical_relabel (ρ : Relabeling) (e : Expr) : (e.relabel ρ).canonical = e.canonical.relabel ρ :=
  Canonical.runAll_relabel ρ (List.Subset.refl _) e

end SheetQuery
