import SheetQuery.Number.Layout
import SheetQuery.Proofs.Everywhere

/-! The canonical form means the same. An interpretation gives values to literals, operators and functions; it is
lawful if the functions that the passes reduce stand for what they are reduced to. Under a lawful interpretation
every step of every pass keeps the value of its node, so every pass keeps the value of an expression, and so do
all of them one after another. -/

namespace SheetQuery

/-- What literals, operators and functions stand for. -/
structure Interpretation (V : Type) where
  literal : Literal → V
  binary : BinaryOp → V → V → V
  unary : UnaryOp → V → V
  call : Option String → List V → V
  unsupported : String → V

namespace Interpretation

variable {V : Type}

mutual

def eval (I : Interpretation V) (columns : String → V) : Expr → V
  | .literal v => I.literal v
  | .column name => columns name
  | .binary op l r => I.binary op (I.eval columns l) (I.eval columns r)
  | .unary op e => I.unary op (I.eval columns e)
  | .call name args => I.call name (I.evalAll columns args)
  | .unsupported kind => I.unsupported kind

def evalAll (I : Interpretation V) (columns : String → V) : List Expr → List V
  | [] => []
  | e :: es => I.eval columns e :: I.evalAll columns es

end

/-- The sum of values, grouped to the right. -/
def total (add : V → V → V) : V → List V → V
  | v, [] => v
  | v, w :: vs => add v (total add w vs)

def text (I : Interpretation V) (s : String) : V := I.literal (.text s)

/-- The functions that the passes reduce stand for what they are reduced to. -/
structure Lawful (I : Interpretation V) : Prop where
  sameLetters {s t : String} : Text.sameLetters s t = true → I.call (some s) = I.call (some t)
  add (v : V) (vs : List V) : I.call (some "ADD") (v :: vs) = total (I.binary .add) v vs
  sum (v : V) (vs : List V) : I.call (some "SUM") (v :: vs) = total (I.binary .add) v vs
  average_one (v : V) : I.call (some "AVG") [v] = v
  average (v w : V) (vs : List V) : I.call (some "AVG") (v :: w :: vs) =
    I.binary .div (I.call (some "SUM") (v :: w :: vs)) (I.literal (.number (.ofNat (v :: w :: vs).length)))
  link (v : V) : I.call (some "URL") [v] = I.call (some "CONCAT") [I.text "URI::(", v, I.text ")"]
  labelled (v w : V) (vs : List V) : I.call (some "URL") (v :: w :: vs) =
    I.call (some "CONCAT") [I.text "URI::(", v, I.text ")", I.text " LABEL::(", w, I.text ")"]
  concat (v w : V) : I.binary .concat v w = I.call (some "CONCAT") [v, w]
  flatten (vs ws us : List V) : I.call (some "CONCAT") (vs ++ I.call (some "CONCAT") ws :: us) =
    I.call (some "CONCAT") (vs ++ ws ++ us)
  eqEq (v w : V) : I.binary .eqEq v w = I.binary .eq v w
  float (v : V) : I.call (some "FLOAT") [v] = v

variable {I : Interpretation V} {columns : String → V}

theorem evalAll_eq_map (es : List Expr) : I.evalAll columns es = es.map (I.eval columns) := by
  induction es with
  | nil => rfl
  | cons e es ih => rw [evalAll, ih, List.map_cons]

@[simp] theorem eval_call (name : Option String) (args : List Expr) :
    I.eval columns (.call name args) = I.call name (args.map (I.eval columns)) := by
  rw [eval, evalAll_eq_map]

@[simp] theorem eval_binary (op : BinaryOp) (l r : Expr) :
    I.eval columns (.binary op l r) = I.binary op (I.eval columns l) (I.eval columns r) := by
  rw [eval]

@[simp] theorem eval_text (s : String) : I.eval columns (.text s) = I.text s := rfl

/-- What keeps the value of each node keeps the value of the whole, for the value is made of those of the
parts. -/
theorem eval_rebuild {f : Expr → Expr} (hf : ∀ e, I.eval columns (f e) = I.eval columns e) (e : Expr) :
    I.eval columns (e.rebuild f) = I.eval columns e := by
  induction e using Expr.induct with
  | literal | column | unsupported => exact hf _
  | binary op l r ihl ihr => rw [Expr.rebuild, hf, eval_binary, eval_binary, ihl, ihr]
  | unary op e ih => rw [Expr.rebuild, hf, eval, eval, ih]
  | call name args ih =>
    rw [Expr.rebuild, hf, eval_call, eval_call, Expr.rebuildAll_eq_map, List.map_map]
    exact congrArg _ (List.map_congr_left ih)

namespace Lawful

open Canonical

variable (hI : I.Lawful)
include hI

theorem call_eq {name : Option String} {s : String} (h : hasName name s = true) : I.call name = I.call (some s) := by
  cases name with
  | none => cases h
  | some n => exact hI.sameLetters h

omit hI in
theorem eval_sumOf (e : Expr) (es : List Expr) :
    I.eval columns (sumOf (e :: es)) = total (I.binary .add) (I.eval columns e) (es.map (I.eval columns)) := by
  induction es generalizing e with
  | nil => rfl
  | cons e' es ih =>
    have hsum : sumOf (e :: e' :: es) = .binary .add e (sumOf (e' :: es)) := rfl
    rw [hsum, eval_binary, ih, List.map_cons, total]

theorem eval_sumCalls (e : Expr) : I.eval columns (sumCalls e) = I.eval columns e := by
  unfold sumCalls
  split
  case h_2 => rfl
  case h_1 name args =>
    split
    case isFalse => rfl
    case isTrue h =>
      rw [Bool.and_eq_true_iff, Bool.or_eq_true_iff] at h
      obtain ⟨hname, hargs⟩ := h
      obtain ⟨a, as, rfl⟩ := List.exists_cons_of_ne_nil (l := args) (by simpa using hargs)
      rw [eval_sumOf, eval_call, List.map_cons]
      rcases hname with h | h
      · rw [hI.call_eq h, hI.add]
      · rw [hI.call_eq h, hI.sum]

theorem eval_averageCalls (e : Expr) : I.eval columns (averageCalls e) = I.eval columns e := by
  unfold averageCalls
  split
  case h_2 => rfl
  case h_1 name args =>
    split
    case isFalse => rfl
    case isTrue h =>
      obtain ⟨hname, hargs⟩ := Bool.and_eq_true_iff.1 h
      rw [eval_call, hI.call_eq hname]
      match args with
      | [] => simp at hargs
      | [a] => exact (hI.average_one _).symm
      | a :: b :: as =>
        simp only [averageOf, eval_binary, eval_call, List.map_cons, hI.average]
        simp [Expr.number, eval]

theorem eval_linkCalls (e : Expr) : I.eval columns (linkCalls e) = I.eval columns e := by
  unfold linkCalls
  split
  case h_2 => rfl
  case h_1 name args =>
    split
    case isFalse => rfl
    case isTrue h =>
      obtain ⟨hname, hargs⟩ := Bool.and_eq_true_iff.1 h
      rw [eval_call, hI.call_eq hname]
      match args with
      | [] => simp at hargs
      | [a] => simp [linkOf, hI.link]
      | a :: b :: as => simp [linkOf, hI.labelled]

/-- A side of `&` may be put in place of its parts anywhere in a concatenation. -/
theorem call_concatParts (vs us : List V) (e : Expr) :
    I.call (some "CONCAT") (vs ++ (concatParts e).map (I.eval columns) ++ us) =
      I.call (some "CONCAT") (vs ++ I.eval columns e :: us) := by
  unfold concatParts
  split
  case h_2 => simp
  case h_1 name args =>
    split
    case isFalse => simp
    case isTrue h => rw [eval_call, hI.call_eq h, hI.flatten]

theorem eval_joinConcat (e : Expr) : I.eval columns (joinConcat e) = I.eval columns e := by
  unfold joinConcat
  split
  case h_2 => rfl
  case h_1 l r =>
    calc I.eval columns (.call (some "CONCAT") (concatParts l ++ concatParts r))
        = I.call (some "CONCAT")
            ((concatParts l).map (I.eval columns) ++ (concatParts r).map (I.eval columns) ++ []) := by simp
      _ = I.call (some "CONCAT") ([] ++ (concatParts l).map (I.eval columns) ++ [I.eval columns r]) := by
          rw [hI.call_concatParts, List.nil_append]
      _ = I.eval columns (.binary .concat l r) := by rw [hI.call_concatParts, eval_binary, hI.concat]; rfl

theorem eval_unifyEquality (e : Expr) : I.eval columns (unifyEquality e) = I.eval columns e := by
  unfold unifyEquality
  split
  · rw [eval_binary, eval_binary, hI.eqEq]
  · rfl

theorem eval_floatDividend (e : Expr) : I.eval columns (floatDividend e) = I.eval columns e := by
  unfold floatDividend
  split
  · split
    · rfl
    · rw [eval_binary, eval_binary, eval_call, List.map_singleton, hI.float]
  · rfl

theorem eval_step {p : Pass} (hp : p ∈ passes) (e : Expr) : I.eval columns (p.step e) = I.eval columns e := by
  simp only [passes, List.mem_cons, List.not_mem_nil, or_false] at hp
  rcases hp with rfl | rfl | rfl | rfl | rfl | rfl
  · exact hI.eval_averageCalls e
  · exact hI.eval_sumCalls e
  · exact hI.eval_linkCalls e
  · exact hI.eval_joinConcat e
  · exact hI.eval_unifyEquality e
  · exact hI.eval_floatDividend e

theorem eval_runAll {ps : List Pass} (hps : ps ⊆ passes) (e : Expr) :
    I.eval columns (runAll ps e) = I.eval columns e := by
  induction ps generalizing e with
  | nil => rfl
  | cons p ps ih =>
    obtain ⟨hp, hps⟩ := List.cons_subset.1 hps
    calc I.eval columns (runAll (p :: ps) e)
        = I.eval columns (runAll ps (p.run e)) := rfl
      _ = I.eval columns (p.run e) := ih hps _
      _ = I.eval columns e := eval_rebuild (hI.eval_step hp) e

end Lawful

/-- The canonical form of an expression has the value of the expression, whatever the columns hold. -/
theorem eval_canonical (hI : I.Lawful) (columns : String → V) (e : Expr) :
    I.eval columns e.canonical = I.eval columns e :=
  hI.eval_runAll (List.Subset.refl _) e

def spelledBinary : BinaryOp → String → String → String
  | .concat, v, w => v ++ w
  | .eqEq, v, w => "(" ++ v ++ "=" ++ w ++ ")"
  | op, v, w => "(" ++ v ++ op.symbol ++ w ++ ")"

def spelledCall : String → List String → String
  | "add", v :: vs | "sum", v :: vs => total (spelledBinary .add) v vs
  | "avg", [v] | "float", [v] => v
  | "avg", v :: vs =>
    spelledBinary .div (total (spelledBinary .add) v vs) (Number.ofNat (v :: vs).length).plain
  | "url", [v] => "URI::(" ++ v ++ ")"
  | "url", v :: w :: _ => "URI::(" ++ v ++ ") LABEL::(" ++ w ++ ")"
  | "concat", vs => String.join vs
  | name, vs => name ++ "(" ++ ", ".intercalate vs ++ ")"

/-- Texts put together. Functions without laws are spelled out. -/
def spelled : Interpretation String where
  literal v := match v with
    | .text s => s
    | .number n => n.plain
    | .boolean b => toString b
    | .null => ""
  binary := spelledBinary
  unary op v := op.symbol ++ v
  call name vs := spelledCall (Text.asciiLower (name.getD "")) vs
  unsupported kind := kind

theorem call_spelled {s t : String} (h : Text.asciiLower s = t) (vs : List String) :
    spelled.call (some s) vs = spelledCall t vs := by
  simp only [spelled, Option.getD_some, h]

theorem lawful_spelled : spelled.Lawful where
  sameLetters {s t} h := by
    funext vs
    rw [call_spelled (eq_of_beq h), call_spelled rfl]
  add v vs := rfl
  sum v vs := rfl
  average_one v := rfl
  average v w vs := by
    rw [call_spelled (show Text.asciiLower "AVG" = "avg" from rfl),
      call_spelled (show Text.asciiLower "SUM" = "sum" from rfl)]
    rfl
  link v := rfl
  labelled v w vs := by
    rw [← String.toList_inj]
    simp [spelled, spelledCall, text, Text.asciiLower]
  concat v w := rfl
  flatten vs ws us := by
    show String.join (vs ++ String.join ws :: us) = String.join (vs ++ ws ++ us)
    simp [String.join_append]
  eqEq v w := rfl
  float v := rfl

theorem eval_canonical_spelled :
    spelled.Lawful ∧
      spelled.eval id (.binary .eqEq (.call (some "Sum") [.column "a", .column "b", .column "c"])
        (.binary .concat (.call (some "url") [.column "d", .column "e", .column "f"]) (.column "g"))) =
          "((a+(b+c))=URI::(d) LABEL::(e)g)" ∧
      spelled.eval id (Expr.canonical (.binary .eqEq (.call (some "Sum") [.column "a", .column "b", .column "c"])
        (.binary .concat (.call (some "url") [.column "d", .column "e", .column "f"]) (.column "g")))) =
          "((a+(b+c))=URI::(d) LABEL::(e)g)" := by
  have h : spelled.eval id (.binary .eqEq (.call (some "Sum") [.column "a", .column "b", .column "c"])
      (.binary .concat (.call (some "url") [.column "d", .column "e", .column "f"]) (.column "g"))) =
        "((a+(b+c))=URI::(d) LABEL::(e)g)" := by
    decide
  exact ⟨lawful_spelled, h, (eval_canonical lawful_spelled id _).trans h⟩

end Interpretation

end SheetQuery
