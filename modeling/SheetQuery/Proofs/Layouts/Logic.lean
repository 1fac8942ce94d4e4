import SheetQuery.Proofs.Layouts.Arithmetic
import SheetQuery.Sql.Logic

/-! The layouts of the functions that choose and of those that test, given those of their arguments. -/

namespace SheetQuery.Sql

variable {d : Dialect} {args : List Operand} {f : Fragment} {g : Doc} {gs : List Doc}

namespace Doc

def given (test yes : Doc) : Doc :=
  .choice (.spaced (.keyword "WHEN") (.spaced test (.spaced (.keyword "THEN") yes)))

def chosen (test yes no : Doc) : Doc :=
  .choice (.spaced (.keyword "WHEN") (.spaced test (.spaced (.keyword "THEN")
    (.spaced yes (.spaced (.keyword "ELSE") no)))))

def branches : Doc → List Doc → Doc
  | g, [] => g
  | g, [v] => .spaced g (.spaced (.keyword "ELSE") v)
  | g, v :: w :: gs => branches (.spaced g (.spaced (.keyword "WHEN") (.spaced v (.spaced (.keyword "THEN") w)))) gs

def xor (d : Dialect) (gs : List Doc) : Doc :=
  .parens (.binary .eq (.remainder d (.parens (.joined .add (gs.map .oneIf))) (.keyword "2")) (.keyword "1"))

def isBlank (d : Dialect) (g : Doc) : Doc :=
  if d = .oracle then .binary .is g (.keyword "NULL")
  else .parens (.binary .or (.binary .is g (.keyword "NULL")) (.binary .eq (.cast g (textDoc d)) (.text "")))

end Doc

namespace Spells

theorem given {test yes : Fragment} {t y : Doc} (ht : Spells d test t) (hy : Spells d yes y) :
    Spells d ("CASE WHEN " ++ test ++ " THEN " ++ yes ++ " END") (.given t y) := by
  constructor
  · simp [Doc.given, ht.text, hy.text]
  · simp [Doc.given, ht.bindings, hy.bindings]

theorem chosen {test yes no : Fragment} {t y n : Doc} (ht : Spells d test t) (hy : Spells d yes y)
    (hn : Spells d no n) :
    Spells d ("CASE WHEN " ++ test ++ " THEN " ++ yes ++ " ELSE " ++ no ++ " END") (.chosen t y n) := by
  constructor
  · simp [Doc.chosen, ht.text, hy.text, hn.text]
  · simp [Doc.chosen, ht.bindings, hy.bindings, hn.bindings]

theorem branches (hs : List.Forall₂ (fun x g => Spells d (x.value d).result g) args gs) (hf : Spells d f g) :
    Spells d (f ++ (branches d args).result) (g.branches gs) := by
  induction args using branches.induct generalizing gs f g with
  | case1 =>
    cases hs
    exact hf.congr (by simp [Sql.branches, Fragment.empty]) (by simp [Sql.branches, Fragment.empty])
  | case2 x =>
    obtain _ | ⟨hv, _ | _⟩ := hs
    constructor
    · simp [Sql.branches, Doc.branches, hf.text, hv.text]
    · simp [Sql.branches, Doc.branches, hf.bindings, hv.bindings]
  | case3 case result rest ih =>
    obtain _ | ⟨hv, _ | ⟨hw, hs⟩⟩ := hs
    refine (ih (f := f ++ " WHEN " ++ (case.value d).result ++ " THEN " ++ (result.value d).result) hs ?_).congr
      (by simp [Sql.branches, String.append_assoc]) (by simp [Sql.branches])
    constructor
    · simp [hf.text, hv.text, hw.text]
    · simp [hf.bindings, hv.bindings, hw.bindings]

theorem switch {v : Doc} (hv : Spells d (arg d args 0).result v)
    (hs : List.Forall₂ (fun x g => Spells d (x.value d).result g) (args.drop 1) gs) :
    Spells d (switch d args).result (.choice (v.branches gs)) := by
  have hb := branches hs hv
  constructor
  · simp [Sql.switch, ← hb.text]
  · simp [Sql.switch, ← hb.bindings]

theorem allOf (op : InfixOp) (hl : args.length ≠ 1)
    (hs : List.Forall₂ (fun x g => Spells d (x.groupedCondition d).result g) args gs) :
    Spells d (allOf d op.text args).result (.parens (.joined op gs)) := by
  have hall : List.Forall₂ (Spells d) (args.map fun x => (x.groupedCondition d).result) gs :=
    List.forall₂_map_left_iff.2 hs
  have hj := (joined op (" " ++ op.text ++ " ") (by simp) hall).parenthesized.asPredicate
  rw [allOf.eq_def]
  split
  case h_1 => simp at hl
  case h_2 => simpa [Function.comp_def] using hj

theorem xor (hd : d ≠ .mysql)
    (hs : List.Forall₂ (fun x g => Spells d (x.condition d).result g) args gs) :
    Spells d (xor d args).result (.xor d gs) := by
  have hall : List.Forall₂ (Spells d) (args.map fun x => Sql.oneIf (x.condition d).result) (gs.map .oneIf) := by
    rw [List.forall₂_map_left_iff, List.forall₂_map_right_iff]
    exact hs.imp fun x g hx => hx.oneIf
  have hj := (joined .add " + " (by simp [InfixOp.text]) hall).parenthesized
  have hr := hj.remainder (.keyword "2" (by decide))
  cases d
  case mysql => exact absurd rfl hd
  all_goals
    constructor
    · simp [Sql.xor, Doc.xor, InfixOp.text, ← hr.text, Function.comp_def]
    · simp [Sql.xor, Doc.xor, ← hr.bindings, Function.comp_def]

section
variable {x : Operand} (hs : Spells d (x.grouped d).result g) (xs : List Operand)
include hs

theorem isBlank : Spells d (isBlank d (x :: xs)).result (g.isBlank d) := by
  have ht := hs.castText
  by_cases hd : d = .oracle
  · subst hd
    constructor
    · simp [Sql.isBlank, Doc.isBlank, InfixOp.text, hs.text]
    · simp [Sql.isBlank, Doc.isBlank, hs.bindings]
  · constructor
    · simp [Sql.isBlank, Doc.isBlank, hd, InfixOp.text, hs.text, ht.text, Text.replaceChar]
    · simp [Sql.isBlank, Doc.isBlank, hd, hs.bindings, ht.bindings]

theorem isNotBlank : Spells d (isNotBlank d (x :: xs)).result (.parens (g.isFilled d)) :=
  hs.isFilled.parenthesized

end

end Spells

end SheetQuery.Sql
