import Mathlib.Data.List.DropRight
import SheetQuery.Proofs.Readback

/-! Operators and their operands. The items of an expression are a sequence of operands and operators; an
operator takes as its operands what reaches up to the next operator that binds no tighter. Reading a
sequence with a stack of waiting operators gives every operator exactly these operands. -/

namespace SheetQuery.Sql

inductive Operator
  | between (op : InfixOp)
  | not
  | minus
deriving DecidableEq, Repr

/-- OR binds loosest, then AND, NOT, comparisons, `+` and `-`, `*` and `/`, and a minus sign tightest. -/
def Operator.level : Operator → Nat
  | between op => op.level
  | not => 4
  | minus => 8

inductive Kind
  | operand
  | operator (op : InfixOp)
  | not
  /-- A minus between operands or before one. -/
  | sign
  /-- What no expression holds outside brackets. -/
  | separator
deriving DecidableEq, Repr

def InfixOp.ofText? (s : String) : Option InfixOp := InfixOp.all.find? (·.text == s)

def separators : List String := ["AS", "WHEN", "THEN", "ELSE"]

def Item.kind : Item → Kind
  | .word s =>
    if s = "NOT" then .not
    else if separators.contains s then .separator
    else
      match InfixOp.ofText? s with
      | some op => .operator op
      | none => .operand
  | .symbol s =>
    if s = "-" then .sign
    else
      match InfixOp.ofText? s with
      | some op => .operator op
      | none => .separator
  | .comma => .separator
  | _ => .operand

/-- A word of digits is neither an operator nor a separator. -/
theorem kind_of_isDigit {s : String} (hs : ∀ c ∈ s.toList, c.isDigit = true) :
    (Item.word s).kind = .operand := by
  have hwords : ∀ t ∈ "NOT" :: separators ++ InfixOp.all.map InfixOp.text,
      t.toList.all Char.isDigit = false := by decide
  have hne : ∀ t ∈ "NOT" :: separators ++ InfixOp.all.map InfixOp.text, s ≠ t := by
    rintro t ht rfl
    exact absurd (List.all_eq_true.2 hs) (by simp [hwords s ht])
  have hnot : s ≠ "NOT" := hne _ (by simp)
  have hsep : s ∉ separators := fun h => hne s (by simp [h]) rfl
  have hop : InfixOp.ofText? s = none := by
    rw [InfixOp.ofText?, List.find?_eq_none]
    intro op hop h
    have hmem := List.mem_append_right ("NOT" :: separators) (List.mem_map_of_mem (f := InfixOp.text) hop)
    exact hne op.text hmem (beq_iff_eq.1 h).symm
  simp [Item.kind, hnot, hsep, hop]

/-- An operand, as the items that stand side by side in it, or an operator. -/
inductive Mark (α : Type)
  | operand (run : List α)
  | operator (o : Operator)
deriving DecidableEq, Repr

section
variable {α β : Type} (kind : α → Kind)

/-- The operands and operators of an expression, the first operand beginning with `run`. -/
def sequence : List α → List α → Option (List (Mark α))
  | run, [] => if run.isEmpty then none else some [.operand run]
  | run, x :: xs =>
    match kind x, run.isEmpty with
    | .operand, _ => sequence (run ++ [x]) xs
    | .sign, true => (.operator .minus :: ·) <$> sequence [] xs
    | .not, true => (.operator .not :: ·) <$> sequence [] xs
    | .sign, false => (.operand run :: .operator (.between .sub) :: ·) <$> sequence [] xs
    | .operator op, false => (.operand run :: .operator (.between op) :: ·) <$> sequence [] xs
    | _, _ => none

end

def Mark.operators {α : Type} (ms : List (Mark α)) : List Operator :=
  ms.filterMap fun
    | operand _ => none
    | operator o => some o

section
variable {α : Type}

def Mark.looserThan (p : Nat) : Mark α → Bool
  | operand _ => false
  | operator o => o.level < p

/-- The left operand of an operator of level `p` that stands after the sequence. -/
def leftReach (p : Nat) (ms : List (Mark α)) : List (Mark α) := ms.rtakeWhile (!·.looserThan p)

/-- The right operand of an operator of level `p` that stands before the sequence. What an operator
before an operand binds loosely it also keeps from what stands further left. -/
def rightReach : Nat → List (Mark α) → List (Mark α)
  | _, [] => []
  | p, .operand run :: ms => .operand run :: rightReach p ms
  | p, .operator (.between op) :: ms =>
    if op.level ≤ p then [] else .operator (.between op) :: rightReach p ms
  | p, .operator o :: ms => .operator o :: rightReach (min p o.level) ms

end

/-- Whether no operator of a right operand ends it. -/
def unbroken : Nat → List Operator → Bool
  | _, [] => true
  | p, .between op :: os => p < op.level && unbroken p os
  | p, o :: os => unbroken (min p o.level) os

/-- Operators that bind tighter do not end a right operand. -/
theorem unbroken_of_lt {p : Nat} {os : List Operator} (h : ∀ o ∈ os, p < o.level) : unbroken p os = true := by
  induction os with
  | nil => rfl
  | cons o os ih =>
    have ho := h o List.mem_cons_self
    have hos := ih fun u hu => h u (List.mem_cons_of_mem o hu)
    cases o with
    | between op =>
      rw [unbroken, hos, Bool.and_true, decide_eq_true_eq]
      exact ho
    | not | minus =>
      simp only [unbroken, Nat.min_eq_left (Nat.le_of_lt ho)]
      exact hos

/-- Only what stands between operands ends one. -/
theorem unbroken_of_ne_between {os : List Operator} (h : ∀ o ∈ os, ∀ op, o ≠ .between op) (p : Nat) :
    unbroken p os = true := by
  induction os generalizing p with
  | nil => rfl
  | cons o os ih =>
    have hos (q : Nat) : unbroken q os = true := ih (fun u hu => h u (List.mem_cons_of_mem _ hu)) q
    cases o with
    | between op => exact absurd rfl (h _ List.mem_cons_self op)
    | not | minus => exact hos _

/-- The operands and operators of a fragment, if it can be read and is one expression. -/
def marks (d : Dialect) (f : Fragment) : Option (List (Mark Item)) :=
  (items d f).bind (sequence Item.kind [])

section
variable {α : Type}

@[simp]
theorem Mark.operators_append (ms ns : List (Mark α)) : operators (ms ++ ns) = operators ms ++ operators ns :=
  List.filterMap_append

@[simp]
theorem Mark.operators_operand (run : List α) (ms : List (Mark α)) :
    operators (.operand run :: ms) = operators ms := rfl

@[simp]
theorem Mark.operators_operator (o : Operator) (ms : List (Mark α)) :
    operators (.operator o :: ms) = o :: operators ms := rfl

theorem leftReach_eq_self_iff {p : Nat} {ms : List (Mark α)} :
    leftReach p ms = ms ↔ ∀ o ∈ Mark.operators ms, p ≤ o.level := by
  rw [leftReach, List.rtakeWhile_eq_self_iff]
  constructor
  · intro h o ho
    obtain ⟨m, hm, hmo⟩ := List.mem_filterMap.1 ho
    cases m with
    | operand run => simp at hmo
    | operator o' =>
      obtain rfl : o' = o := by simpa using hmo
      simpa [Mark.looserThan] using h _ hm
  · intro h m hm
    cases m with
    | operand run => rfl
    | operator o => simpa [Mark.looserThan] using h o (List.mem_filterMap.2 ⟨_, hm, rfl⟩)

theorem rightReach_eq_self_iff {p : Nat} {ms : List (Mark α)} :
    rightReach p ms = ms ↔ unbroken p (Mark.operators ms) = true := by
  induction ms generalizing p with
  | nil => simp [rightReach, Mark.operators, unbroken]
  | cons m ms ih =>
    cases m with
    | operand run => simp [rightReach, ih]
    | operator o =>
      cases o with
      | between op =>
        rw [rightReach, Mark.operators_operator, unbroken]
        by_cases h : op.level ≤ p
        · simp [h, Nat.not_lt.2 h]
        · simp [h, Nat.not_le.1 h, ih]
      | not => simp [rightReach, unbroken, ih]
      | minus => simp [rightReach, unbroken, ih]

theorem suffix_leftReach_iff {p : Nat} {ls ms : List (Mark α)} (hs : ms <:+ ls) :
    ms <:+ leftReach p ls ↔ ∀ o ∈ Mark.operators ms, p ≤ o.level := by
  rw [← leftReach_eq_self_iff, leftReach, leftReach, List.rtakeWhile_eq_self_iff]
  constructor
  · exact fun h m hm => List.mem_rtakeWhile_imp (p := fun m : Mark α => !m.looserThan p) (h.subset hm)
  · intro h
    obtain ⟨ks, rfl⟩ := hs
    rw [List.rtakeWhile, List.reverse_append, List.takeWhile_append_of_pos (by simpa using h), List.reverse_append,
      List.reverse_reverse]
    exact List.suffix_append _ _

/-- An operand that reaches to its own end reaches no further if an operator follows that binds no tighter. -/
theorem rightReach_append_iff {p : Nat} {ms ns : List (Mark α)} {op : InfixOp} (hp : op.level ≤ p)
    (h : ∀ o ∈ Mark.operators ms, p ≤ o.level) :
    rightReach p (ms ++ .operator (.between op) :: ns) = ms ↔ rightReach p ms = ms := by
  induction ms with
  | nil => simp [rightReach, hp]
  | cons m ms ih =>
    cases m with
    | operand run => simp [rightReach, ih h]
    | operator o =>
      have ho : p ≤ o.level := h o (by simp)
      have ih := ih fun u hu => h u (by simp [hu])
      cases o with
      | between op' =>
        simp only [List.cons_append, rightReach]
        split <;> simp [ih]
      | not | minus => simp [rightReach, Nat.min_eq_left ho, ih]

theorem rightReach_eq_self_of_append {p : Nat} {ms ns : List (Mark α)} (h : rightReach p (ms ++ ns) = ms) :
    rightReach p ms = ms := by
  induction ms generalizing p with
  | nil => rfl
  | cons m ms ih =>
    cases m with
    | operand run => simpa [rightReach] using ih (by simpa [rightReach] using h)
    | operator o =>
      cases o with
      | between op =>
        simp only [List.cons_append, rightReach] at h ⊢
        split at h
        · simp at h
        · rename_i hp
          simp [hp, ih (by simpa using h)]
      | not | minus => simpa [rightReach] using ih (by simpa [rightReach] using h)

end

namespace Doc

def isExpr : Doc → Bool
  | word w _ => (Item.word w.text).kind == .operand
  | value _ | text _ | column _ _ | parens _ | call _ _ | choice _ => true
  | binary _ l r => l.isExpr && r.isExpr
  | minus g | not g => g.isExpr
  | empty | spaced _ _ | listed _ _ => false

def operators : Doc → List Operator
  | binary op l r => l.operators ++ .between op :: r.operators
  | minus g => .minus :: g.operators
  | not g => .not :: g.operators
  | _ => []

def lastRun : Doc → List Item
  | binary _ _ r => r.lastRun
  | minus g | not g => g.lastRun
  | g => g.items

def beforeLast : Doc → List (Mark Item)
  | binary op l r => l.beforeLast ++ .operand l.lastRun :: .operator (.between op) :: r.beforeLast
  | minus g => .operator .minus :: g.beforeLast
  | not g => .operator .not :: g.beforeLast
  | _ => []

def marks (g : Doc) : List (Mark Item) := g.beforeLast ++ [Mark.operand g.lastRun]

@[simp]
theorem marks_binary (op : InfixOp) (l r : Doc) :
    (binary op l r).marks = l.marks ++ .operator (.between op) :: r.marks := by
  simp [marks, beforeLast, lastRun]

@[simp]
theorem marks_minus (g : Doc) : (minus g).marks = .operator .minus :: g.marks := rfl

@[simp]
theorem marks_not (g : Doc) : (not g).marks = .operator .not :: g.marks := rfl

theorem operators_marks (g : Doc) : Mark.operators g.marks = g.operators := by
  induction g with
  | binary op l r ihl ihr => simp [operators, ihl, ihr]
  | minus g ih => simp [operators, ih]
  | not g ih => simp [operators, ih]
  | _ => rfl

end Doc

theorem InfixOp.kind_item (op : InfixOp) :
    op.item.kind = if op = .sub then .sign else .operator op := by
  cases op <;> decide

theorem sequence_op {run : List Item} (h : run ≠ []) (op : InfixOp) (is : List Item) :
    sequence Item.kind run (op.item :: is) =
      (.operand run :: .operator (.between op) :: ·) <$> sequence Item.kind [] is := by
  have hr : run.isEmpty = false := List.isEmpty_eq_false_iff.2 h
  by_cases hop : op = .sub
  · subst hop
    simp only [sequence, InfixOp.kind_item, if_true, hr]
  · simp only [sequence, InfixOp.kind_item, hop, if_false, hr]

theorem sequence_operand {i : Item} (h : i.kind = .operand) (run is : List Item) :
    sequence Item.kind run (i :: is) = sequence Item.kind (run ++ [i]) is := by
  simp only [sequence, h]

theorem Doc.lastRun_ne_nil {g : Doc} (hg : g.isExpr = true) : g.lastRun ≠ [] := by
  induction g with
  | binary op l r _ ihr => exact ihr (by simp_all [isExpr])
  | minus g ih => exact ih hg
  | not g ih => exact ih hg
  | column table name => cases table <;> simp [lastRun, items]
  | empty => simp [isExpr] at hg
  | spaced l r => simp [isExpr] at hg
  | listed l r => simp [isExpr] at hg
  | _ => simp [lastRun, items]

/-- An expression is read up to its last operand, whatever follows. -/
theorem sequence_items {g : Doc} (hg : g.isExpr = true) (is : List Item) :
    sequence Item.kind [] (g.items ++ is) =
      (g.beforeLast ++ ·) <$> sequence Item.kind g.lastRun is := by
  induction g generalizing is with
  | binary op l r ihl ihr =>
    obtain ⟨hl, hr⟩ : l.isExpr = true ∧ r.isExpr = true := by simpa [Doc.isExpr] using hg
    simp only [Doc.items, List.append_assoc, List.cons_append]
    rw [ihl hl, sequence_op (Doc.lastRun_ne_nil hl), ihr hr]
    simp [Doc.beforeLast, Doc.lastRun, Function.comp_def]
  | minus g ih =>
    have hk : (Item.symbol "-").kind = .sign := by decide
    simp only [Doc.items, List.cons_append, sequence, hk, List.isEmpty_nil]
    rw [ih hg]
    simp [Doc.beforeLast, Doc.lastRun, Function.comp_def]
  | not g ih =>
    have hk : (Item.word "NOT").kind = .not := by decide
    simp only [Doc.items, List.cons_append, sequence, hk, List.isEmpty_nil]
    rw [ih hg]
    simp [Doc.beforeLast, Doc.lastRun, Function.comp_def]
  | word w _ =>
    have hk : (Item.word w.text).kind = .operand := by simpa [Doc.isExpr] using hg
    simpa [Doc.items, Doc.beforeLast, Doc.lastRun] using sequence_operand hk [] is
  | column table name =>
    have hk (s : String) : (Item.name s).kind = .operand := rfl
    have hd : (Item.word ".").kind = .operand := by decide
    cases table with
    | none => simpa [Doc.items, Doc.beforeLast, Doc.lastRun] using sequence_operand (hk name) [] is
    | some table =>
      simp only [Doc.items, List.cons_append, List.nil_append]
      rw [sequence_operand (hk table), sequence_operand hd, sequence_operand (hk name)]
      simp [Doc.items, Doc.beforeLast, Doc.lastRun]
  | empty => simp [Doc.isExpr] at hg
  | spaced l r => simp [Doc.isExpr] at hg
  | listed l r => simp [Doc.isExpr] at hg
  | value v =>
    simpa [Doc.items, Doc.beforeLast, Doc.lastRun] using sequence_operand (i := .value v) rfl [] is
  | text s =>
    simpa [Doc.items, Doc.beforeLast, Doc.lastRun] using sequence_operand (i := .text s) rfl [] is
  | parens g =>
    simpa [Doc.items, Doc.beforeLast, Doc.lastRun] using
      sequence_operand (i := .group "" g.items) rfl [] is
  | call name g =>
    simpa [Doc.items, Doc.beforeLast, Doc.lastRun] using
      sequence_operand (i := .group name.text g.items) rfl [] is
  | choice g =>
    simpa [Doc.items, Doc.beforeLast, Doc.lastRun] using sequence_operand (i := .choice g.items) rfl [] is

theorem Doc.sequence_eq {g : Doc} (hg : g.isExpr = true) :
    sequence Item.kind [] g.items = some g.marks := by
  have h := sequence_items hg []
  have hr : g.lastRun.isEmpty = false := List.isEmpty_eq_false_iff.2 (lastRun_ne_nil hg)
  simpa [sequence, hr, marks] using h

namespace Spells

variable {d : Dialect} {f : Fragment} {g : Doc}

theorem marks_eq (h : Spells d f g) (hg : g.isExpr = true) (hc : g.comment noSign = false) :
    marks d f = some g.marks := by
  rw [marks, h.items_eq hc, Option.bind_some, Doc.sequence_eq hg]

theorem marks_eq_none (h : Spells d f g) (hc : g.comment noSign = true) : marks d f = none := by
  rw [marks, h.items_eq_none hc, Option.bind_none]

end Spells

end SheetQuery.Sql
