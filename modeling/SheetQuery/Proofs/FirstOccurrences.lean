import Mathlib.Data.List.Chain
import Mathlib.Data.List.Nodup
import Mathlib.Order.Bounds.Basic
import SheetQuery.Summary

/-! What a summary lists. The walk goes through an expression from left to right, each node before its parts. Every name
is listed once, where it first occurs, and the depth is the number of nodes on the longest way down. -/

namespace SheetQuery

namespace Expr

mutual

def preorder : Expr → List Expr
  | .literal v => [.literal v]
  | .column n => [.column n]
  | .unsupported k => [.unsupported k]
  | .unary op e => .unary op e :: preorder e
  | .binary op l r => .binary op l r :: (preorder l ++ preorder r)
  | .call n args => .call n args :: preorderAll args

def preorderAll : List Expr → List Expr
  | [] => []
  | e :: es => preorder e ++ preorderAll es

end

theorem preorderAll_eq (es : List Expr) : preorderAll es = es.flatMap preorder := by
  induction es with
  | nil => rfl
  | cons e es ih => rw [preorderAll, ih, List.flatMap_cons]

/-- A node comes before its parts, and these come from left to right. -/
theorem preorder_eq (e : Expr) : e.preorder = e :: e.children.flatMap preorder := by
  cases e with
  | call n args => rw [preorder, preorderAll_eq, children]
  | _ => simp [preorder, children]

/-- Induction where a node may assume the statement of each of its parts. -/
theorem induct_children {P : Expr → Prop} (h : ∀ e : Expr, (∀ part ∈ e.children, P part) → P e) (e : Expr) : P e := by
  induction e using Expr.induct with
  | binary op l r ihl ihr => exact h _ (by simpa [children] using ⟨ihl, ihr⟩)
  | unary op e ih => exact h _ (by simpa [children] using ih)
  | call n args ih => exact h _ ih
  | _ => exact h _ (by simp [children])

def columnName? : Expr → Option String
  | .column n => some n
  | _ => none

/-- The nodes on a way down from an expression, itself included. -/
def IsDescent (e : Expr) (path : List Expr) : Prop := (e :: path).IsChain fun e part => part ∈ e.children

def descents (e : Expr) : Set Nat := {n | ∃ path, e.IsDescent path ∧ n = path.length + 1}

theorem isDescent_cons {e part : Expr} {path : List Expr} :
    e.IsDescent (part :: path) ↔ part ∈ e.children ∧ part.IsDescent path := List.isChain_cons_cons

theorem one_mem_descents (e : Expr) : 1 ∈ e.descents := ⟨[], List.isChain_singleton e, rfl⟩

theorem succ_mem_descents {e part : Expr} {n : Nat} (hpart : part ∈ e.children) (h : n ∈ part.descents) :
    n + 1 ∈ e.descents := by
  obtain ⟨path, hpath, rfl⟩ := h
  exact ⟨part :: path, isDescent_cons.2 ⟨hpart, hpath⟩, rfl⟩

/-- The longest way down is one node longer than the longest from any of the parts. -/
theorem isGreatest_descents {e : Expr} {n : Nat} (hle : ∀ part ∈ e.children, n ∈ upperBounds part.descents)
    (hmem : n = 0 ∨ ∃ part ∈ e.children, n ∈ part.descents) : IsGreatest e.descents (n + 1) := by
  constructor
  · rcases hmem with rfl | ⟨part, hpart, h⟩
    · exact e.one_mem_descents
    · exact succ_mem_descents hpart h
  · rintro _ ⟨path, hpath, rfl⟩
    cases path with
    | nil => simp
    | cons part path =>
      obtain ⟨hpart, hpath⟩ := isDescent_cons.1 hpath
      have hlength : path.length + 1 ≤ n := hle part hpart ⟨path, hpath, rfl⟩
      simpa using hlength

end Expr

/-- `xs` has the members of `ys`, each once, in the order of their first occurrences. -/
structure FirstsOf (xs ys : List String) : Prop where
  nodup : xs.Nodup
  mem_iff (x : String) : x ∈ xs ↔ x ∈ ys
  ordered : xs.Pairwise fun x y => ys.idxOf x < ys.idxOf y

namespace FirstsOf

variable {xs ys : List String}

theorem nil : FirstsOf [] [] := ⟨.nil, fun _ => .rfl, .nil⟩

theorem addNew (h : FirstsOf xs ys) (y : String) : FirstsOf (Summary.addNew xs y) (ys ++ [y]) := by
  -- what occurred before stays where it first occurred
  have hbefore : xs.Pairwise fun x x' => (ys ++ [y]).idxOf x < (ys ++ [y]).idxOf x' := by
    refine h.ordered.imp_of_mem fun {x x'} hx hx' hlt => ?_
    rwa [List.idxOf_append_of_mem ((h.mem_iff x).1 hx), List.idxOf_append_of_mem ((h.mem_iff x').1 hx')]
  unfold Summary.addNew
  split
  case isTrue hy =>
    refine ⟨h.nodup, fun x => ?_, hbefore⟩
    rw [h.mem_iff, List.mem_append, List.mem_singleton]
    exact ⟨.inl, fun hx => hx.elim id fun hxy => hxy ▸ (h.mem_iff y).1 hy⟩
  case isFalse hy =>
    have hnew : y ∉ ys := fun hm => hy ((h.mem_iff y).2 hm)
    refine ⟨h.nodup.append (List.nodup_singleton y) (by simpa using hy), fun x => ?_, ?_⟩
    · simp only [List.mem_append, h.mem_iff]
    · refine List.pairwise_append.2 ⟨hbefore, List.pairwise_singleton _ y, fun x hx y' hy' => ?_⟩
      obtain rfl := List.mem_singleton.1 hy'
      have hx' : x ∈ ys := (h.mem_iff x).1 hx
      rw [List.idxOf_append_of_mem hx', List.idxOf_append_of_notMem hnew]
      exact Nat.lt_add_right _ (List.idxOf_lt_length_of_mem hx')

/-- One more node, which may have a name. -/
theorem addName {name? : Expr → Option String} {es : List Expr} (h : FirstsOf xs (es.filterMap name?)) (e : Expr) :
    FirstsOf ((name? e).elim xs (Summary.addNew xs)) ((es ++ [e]).filterMap name?) := by
  rw [List.filterMap_append, List.filterMap_cons, List.filterMap_nil]
  cases name? e with
  | none => rwa [List.append_nil]
  | some y => exact h.addNew y

end FirstsOf

namespace Summary

theorem filter_addNew (p : String → Bool) (xs : List String) (x : String) :
    (addNew xs x).filter p = if p x = true then addNew (xs.filter p) x else xs.filter p := by
  unfold addNew
  by_cases hx : x ∈ xs <;> by_cases hp : p x = true <;> simp [hx, hp]

def addNode (s : Summary) : Expr → Summary
  | .column n => s.addColumn n
  | .call (some n) _ => s.addFunction (Text.upper n)
  | _ => s

theorem columns_addNode (s : Summary) (e : Expr) :
    (s.addNode e).columns = e.columnName?.elim s.columns (addNew s.columns) := by
  fun_cases addNode s e <;> simp_all [Expr.columnName?, addColumn, addFunction]

theorem functions_addNode (s : Summary) (e : Expr) :
    (s.addNode e).functions = e.calledName.elim s.functions (addNew s.functions) := by
  fun_cases addNode s e <;> simp_all [Expr.calledName, addColumn, addFunction]

/-- The walk adds a node, then goes through its parts. -/
theorem walk_eq (s : Summary) (e : Expr) : walk s e =
    ((walkAll (s.addNode e) e.children).1, (walkAll (s.addNode e) e.children).2 + 1) := by
  cases e with
  | call n args => cases n <;> rfl
  | _ => simp [walk, walkAll, addNode, Expr.children]

theorem walkAll_fst {es : List Expr} (h : ∀ e ∈ es, ∀ s, (walk s e).1 = e.preorder.foldl addNode s) (s : Summary) :
    (walkAll s es).1 = (es.flatMap Expr.preorder).foldl addNode s := by
  induction es generalizing s with
  | nil => rfl
  | cons e es ih =>
    rw [List.forall_mem_cons] at h
    rw [walkAll, List.flatMap_cons, List.foldl_append, ← h.1, ← ih h.2]

/-- The walk meets the nodes one after another. -/
theorem walk_fst (s : Summary) (e : Expr) : (walk s e).1 = e.preorder.foldl addNode s := by
  induction e using Expr.induct_children generalizing s with
  | h e ih => rw [walk_eq, walkAll_fst ih, Expr.preorder_eq, List.foldl_cons]

/-- The summary lists exactly what some nodes name. -/
structure Tells (s : Summary) (es : List Expr) : Prop where
  columns : FirstsOf s.columns (es.filterMap Expr.columnName?)
  functions : FirstsOf s.functions (es.filterMap Expr.calledName)
  unknown : s.unknownFunctions = s.functions.filter fun n => (Builtin.lookup n).isNone

namespace Tells

variable {s : Summary} {es : List Expr}

theorem empty : Tells ⟨[], [], []⟩ [] := ⟨.nil, .nil, rfl⟩

theorem addNode (h : s.Tells es) (e : Expr) : (s.addNode e).Tells (es ++ [e]) where
  columns := by
    rw [columns_addNode]
    exact h.columns.addName e
  functions := by
    rw [functions_addNode]
    exact h.functions.addName e
  unknown := by
    fun_cases Summary.addNode s e with
    | case2 n args => simp only [addFunction, filter_addNew, h.unknown]
    | _ => exact h.unknown

theorem foldl_addNode (h : s.Tells es) (es' : List Expr) : (es'.foldl Summary.addNode s).Tells (es ++ es') := by
  induction es' generalizing s es with
  | nil => simpa using h
  | cons e es' ih => simpa using ih (h.addNode e)

end Tells

/-- The depth that a walk over several expressions gives is that of the deepest. -/
theorem walkAll_snd {es : List Expr} (h : ∀ e ∈ es, ∀ s, IsGreatest e.descents (walk s e).2) (s : Summary) :
    (∀ e ∈ es, (walkAll s es).2 ∈ upperBounds e.descents) ∧
      ((walkAll s es).2 = 0 ∨ ∃ e ∈ es, (walkAll s es).2 ∈ e.descents) := by
  induction es generalizing s with
  | nil => exact ⟨List.forall_mem_nil _, .inl rfl⟩
  | cons e es ih =>
    rw [List.forall_mem_cons] at h
    obtain ⟨hmem, hle⟩ := h.1 s
    obtain ⟨hles, hmems⟩ := ih h.2 (walk s e).1
    have hmax : (walkAll s (e :: es)).2 = max (walk s e).2 (walkAll (walk s e).1 es).2 := rfl
    rw [hmax, List.forall_mem_cons]
    refine ⟨⟨upperBounds_mono_mem (le_max_left _ _) hle, fun e' he' =>
      upperBounds_mono_mem (le_max_right _ _) (hles e' he')⟩, .inr ?_⟩
    rcases le_total (walkAll (walk s e).1 es).2 (walk s e).2 with hfirst | hlater
    · exact ⟨e, List.mem_cons_self, by rwa [max_eq_left hfirst]⟩
    · obtain hzero | ⟨e', he', hmem'⟩ := hmems
      · exact ⟨e, List.mem_cons_self, by rwa [hzero, Nat.max_zero]⟩
      · exact ⟨e', List.mem_cons_of_mem e he', by rwa [max_eq_right hlater]⟩

theorem walk_snd (s : Summary) (e : Expr) : IsGreatest e.descents (walk s e).2 := by
  induction e using Expr.induct_children generalizing s with
  | h e ih =>
    obtain ⟨hle, hmem⟩ := walkAll_snd ih (s.addNode e)
    rw [walk_eq]
    exact Expr.isGreatest_descents hle hmem

end Summary

namespace Expr

/-- A summary lists the columns and the functions of an expression once each, in the order in which a walk first meets
them; the functions that are not built in are those of the listed ones that cannot be looked up; and the depth is the
number of nodes on the longest way down. -/
theorem summary_lists_first_occurrences (e : Expr) :
    FirstsOf e.summary.1.columns (e.preorder.filterMap columnName?) ∧
      FirstsOf e.summary.1.functions (e.preorder.filterMap calledName) ∧
      e.summary.1.unknownFunctions = e.summary.1.functions.filter (fun n => (Builtin.lookup n).isNone) ∧
      IsGreatest e.descents e.summary.2 := by
  have htells : Summary.Tells e.summary.1 e.preorder := by
    rw [summary, Summary.walk_fst]
    exact Summary.Tells.empty.foldl_addNode e.preorder
  exact ⟨htells.columns, htells.functions, htells.unknown, Summary.walk_snd _ e⟩

-- an inner call may come before a column of the outer one
example : (call (some "If") [call (some "foo") [column "b"], column "a", column "b"]).summary =
    (⟨["b", "a"], ["IF", "FOO"], ["FOO"]⟩, 3) := by decide

end Expr

end SheetQuery
