import SheetQuery.Proofs.Patterns
import SheetQuery.Proofs.WovenCalls
import SheetQuery.Proofs.Writing

/-! What literals hold does not reach the SQL text. SQL that differs only in the values bound to it stays so whatever
is put around it. So expressions that differ only in what their literals hold have the same text and notices and as
many values, unless a function looks into the argument. -/

namespace SheetQuery

/-- Fragments that differ only in their values. -/
structure Fragment.Alike (f f' : Fragment) : Prop where
  text : f.text = f'.text
  length : f.bindings.length = f'.bindings.length
  shape : f.shape = f'.shape

namespace Fragment

variable {f f' g g' : Fragment}

theorem Alike.refl (f : Fragment) : f.Alike f := ⟨rfl, rfl, rfl⟩

theorem Alike.append (h : f.Alike f') (h' : g.Alike g') : (f ++ g).Alike (f' ++ g') :=
  ⟨by simp [h.text, h'.text], by simp [h.length, h'.length], rfl⟩

theorem Slot.fill_alike {parts parts' : List Fragment} (h : List.Forall₂ Alike parts parts') (ps : List Slot) :
    (fill ps parts).1 = (fill ps parts').1 ∧ (fill ps parts).2.length = (fill ps parts').2.length := by
  fun_induction fill ps parts generalizing parts' with
  | case1 c ps parts ih =>
    obtain ⟨ht, hl⟩ := ih h
    exact ⟨congrArg (c :: ·) ht, hl⟩
  | case2 ps part parts ih =>
    obtain _ | ⟨hpart, hparts⟩ := h
    obtain ⟨ht, hl⟩ := ih hparts
    simp [fill, hpart.text, hpart.length, ht, hl]
  | case3 ps =>
    cases h
    exact ⟨rfl, rfl⟩
  | case4 => exact ⟨rfl, rfl⟩

theorem template_alike {parts parts' : List Fragment} (h : List.Forall₂ Alike parts parts') (pattern : String) :
    (template pattern parts).Alike (template pattern parts') := by
  obtain ⟨ht, hl⟩ := Slot.fill_alike h (slots pattern.toList)
  rw [← fill_eq, ← fill_eq] at ht hl
  exact ⟨congrArg String.ofList ht, hl, rfl⟩

end Fragment

/-- Expressions that differ only in what their literals hold, and not in the arguments that are looked
into. -/
inductive Expr.Alike : Expr → Expr → Prop
  | number (m n : Number) : Alike (.literal (.number m)) (.literal (.number n))
  | text (s t : String) : Alike (.literal (.text s)) (.literal (.text t))
  | boolean (a b : Bool) : Alike (.literal (.boolean a)) (.literal (.boolean b))
  | null : Alike (.literal .null) (.literal .null)
  | column (name : String) : Alike (.column name) (.column name)
  | binary (op : BinaryOp) {l l' r r' : Expr} (left : Alike l l') (right : Alike r r') :
    Alike (.binary op l r) (.binary op l' r')
  | unary (op : UnaryOp) {e e' : Expr} (operand : Alike e e') : Alike (.unary op e) (.unary op e')
  | call (name : Option String) {args args' : List Expr} (length : args.length = args'.length)
    (parts : ∀ p ∈ args.zip args', Alike p.1 p.2)
    (same : ∀ i, looksInto name i = true → args[i]? = args'[i]?) :
    Alike (.call name args) (.call name args')
  | unsupported (kind : String) : Alike (.unsupported kind) (.unsupported kind)

namespace Expr.Alike

open Sql

variable {e e' : Expr}

theorem isSome_asNumber (h : e.Alike e') : e.asNumber?.isSome = e'.asNumber?.isSome := by
  induction h with
  | unary op _ ih => cases op <;> simp [asNumber?, ih]
  | _ => rfl

theorem kin (h : e.Alike e') : e.Kin e' where
  isOperation := by
    cases h with
    | unary op h => cases op <;> simp [isOperation, ← Option.not_isSome, h.isSome_asNumber]
    | _ => rfl
  clashesUnder op right := by cases h <;> rfl
  calledName := by
    cases h with
    | call name => cases name <;> rfl
    | _ => rfl

end Expr.Alike

namespace Sql

theorem weaving_alike (d : Dialect) (loud : Prop) : Weaving d loud Fragment.Alike where
  isPredicate h := by rw [Fragment.isPredicate, Fragment.isPredicate, h.shape]
  startsGroup h := by rw [h.text]
  asPredicate h := ⟨h.text, h.length, rfl⟩
  asValue h := ⟨h.text, h.length, rfl⟩
  bind _ := .refl _
  fixed _ := .refl _
  before _ h := (Fragment.Alike.refl _).append h
  behind _ h := h.append (.refl _)
  between _ h h' := (h.append (.refl _)).append h'
  path _ := fun _ h => h.append (.refl _)
  headed _ := fun _ h => (Fragment.Alike.refl _).append h
  filled pattern := fun _ h => Fragment.template_alike h pattern

/-- Alike expressions are written alike. -/
theorem write_alike (d : Dialect) (names : Naming) {e e' : Expr} (h : e.Alike e') :
    (write d names e).Twin True Fragment.Alike (write d names e') := by
  have w : Weaving d True Fragment.Alike := weaving_alike d True
  induction h with
  | number | text | boolean => exact .pure ⟨rfl, rfl, rfl⟩
  | null | column | unsupported => exact .refl Fragment.Alike.refl _
  | binary op hl hr ihl ihr => exact binary_twin w ⟨hl.kin, ihl⟩ op ⟨hr.kin, ihr⟩
  | @unary op x x' hx ih =>
    refine unary_twin w ⟨hx.kin, ih⟩ op ?_
    have hnumber := hx.isSome_asNumber
    dsimp only
    generalize x.asNumber? = m, x'.asNumber? = n at hnumber
    cases m <;> cases n <;> simp at hnumber
    · exact .none
    · exact .some ⟨rfl, rfl, rfl⟩
  | call name hlength hparts hsame ih =>
    simp only [write, operands_eq_map]
    refine call_twin w name (fun _ => .refl _) ?_ fun i hi => ?_
    · rw [List.forall₂_map_left_iff, List.forall₂_map_right_iff, List.forall₂_iff_zip]
      exact ⟨hlength, fun hp => ⟨(hparts _ hp).kin, ih _ hp⟩⟩
    · simp [literalArg?, numberArg?, hsame i hi]

end Sql

/-- The same text and notices, and as many values. -/
def Compiled.Alike (c c' : Compiled) : Prop :=
  c.fragment.text = c'.fragment.text ∧ c.notices = c'.notices ∧
    c.fragment.bindings.length = c'.fragment.bindings.length

namespace Expr

/-- What literals hold reaches neither the text nor the notices, and the number of values does not depend on
it. -/
theorem literals_stay_out {e e' : Expr} (h : e.canonical.Alike e'.canonical) (d : Dialect) (names : Naming) :
    (e.compile d names).Alike (e'.compile d names) ∧
      (e.compileCondition d names).Alike (e'.compileCondition d names) := by
  have w : Sql.Weaving d True Fragment.Alike := Sql.weaving_alike d True
  have ho : (e.operand d names).Twin True Fragment.Alike (e'.operand d names) := ⟨h.kin, Sql.write_alike d names h⟩
  have hv := ho.value w
  have hc := ho.condition w
  have halike := hv.result (.inr trivial)
  have hcondition := hc.result (.inr trivial)
  constructor
  · refine ⟨?_, congrArg Notice.firsts (hv.notices trivial), ?_⟩
    all_goals
      simp only [compile]
      split
    · simp [Fragment.push, halike.text]
    · exact halike.text
    · simp [Fragment.push, halike.length]
    · exact halike.length
  · exact ⟨hcondition.text, congrArg Notice.firsts (hc.notices trivial), hcondition.length⟩

/-- Texts that would end their own quotes and a negative number, next to an amount that is looked into. -/
theorem literals_stay_out_if :
    let shift (s : String) : Expr := .call (some "DATEADD") [.text s, .number (.ofNat 2), .text "week"]
    let e (s : String) (n : Nat) : Expr :=
      .call (some "if") [.binary .eqEq (.column "a") (.text s), shift s, .unary .minus (.number (.ofNat n))]
    (e "?' OR '1'='1" 5).canonical.Alike (e "" 0).canonical ∧
      ((e "?' OR '1'='1" 5).compile .sqlite .default).Alike ((e "" 0).compile .sqlite .default) ∧
      ((e "?' OR '1'='1" 5).compileCondition .sqlite .default).Alike ((e "" 0).compileCondition .sqlite .default) := by
  intro shift e
  have hc (s : String) (n : Nat) : (e s n).canonical =
      .call (some "if") [.binary .eq (.column "a") (.text s), shift s, .unary .minus (.number (.ofNat n))] := rfl
  have hshift (s t : String) : (shift s).Alike (shift t) := by
    refine .call _ rfl ?_ fun i hi => ?_
    · simp [Alike.text, Alike.number, Expr.text, Expr.number]
    · have hi : (i == 1 || i == 2) = true := hi
      obtain rfl | rfl : i = 1 ∨ i = 2 := by simpa using hi
      all_goals rfl
  have h (s t : String) (m n : Nat) : (e s m).canonical.Alike (e t n).canonical := by
    rw [hc, hc]
    refine .call _ (by simp) ?_ fun i hi => absurd hi Bool.false_ne_true
    simp [hshift, Alike.binary, Alike.column, Alike.unary, Alike.text, Alike.number, Expr.text, Expr.number]
  exact ⟨h _ _ 5 0, literals_stay_out (h _ _ 5 0) .sqlite .default⟩

end Expr

end SheetQuery
