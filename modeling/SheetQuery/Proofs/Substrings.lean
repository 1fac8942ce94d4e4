import SheetQuery.Proofs.Evaluation

/-! The two ends of a text. SQLite and Oracle have no LEFT and RIGHT and get SUBSTR instead, with a position that counts
from the end where it is negative. The first characters are always right. Of the last ones none cannot be had so: there
is no negative zero, and position 0 is the start. -/

namespace SheetQuery

namespace Sql

/-- How many characters stand before a position. Positions begin at 1, negative ones count from the end, and 0 is the
start. -/
def charsBefore (s : String) (p : Int) : Nat :=
  if 0 < p then p.toNat - 1 else if p = 0 then 0 else s.length - p.natAbs

def substrFrom (s : String) (p : Int) : String := .ofList (s.toList.drop (charsBefore s p))

def substrOf (s : String) (p : Int) (count : Nat) : String := .ofList ((s.toList.drop (charsBefore s p)).take count)

/-- An engine with texts and integers that has SUBSTR. Positions before the first character are left to it. -/
structure Engine.Slices {α : Type} (E : Engine α) (text : String → α) (integer : Int → α) : Prop where
  text_injective : Function.Injective text
  one : E.word "1" = some (integer 1)
  minus (n : Int) : E.minus (integer n) = some (integer (-n))
  rest (s : String) (p : Int) : -s.length ≤ p → E.call "SUBSTR" [text s, integer p] = some (text (substrFrom s p))
  part (s : String) (p : Int) (count : Nat) :
    -s.length ≤ p → E.call "SUBSTR" [text s, integer p, integer count] = some (text (substrOf s p count))

def firstChars (n : Nat) (s : String) : String := .ofList (s.toList.take n)

def lastChars (n : Nat) (s : String) : String := .ofList (s.toList.drop (s.length - n))

theorem substrOf_one (s : String) (n : Nat) : substrOf s 1 n = firstChars n s := rfl

theorem charsBefore_neg (s : String) {n : Nat} (h : n ≠ 0) : charsBefore s (-n) = s.length - n := by
  rw [charsBefore, if_neg (by omega), if_neg (by omega), Int.natAbs_neg, Int.natAbs_natCast]

/-- A position from the end, except that none is the start. -/
theorem substrFrom_neg (s : String) (n : Nat) : substrFrom s (-n) = if n = 0 then s else lastChars n s := by
  split
  case isTrue h => simp [h, substrFrom, charsBefore]
  case isFalse h => rw [substrFrom, charsBefore_neg s h, lastChars]

theorem lastChars_zero (s : String) : lastChars 0 s = "" := by
  rw [lastChars, Nat.sub_zero, ← String.length_toList, List.drop_length, String.ofList_nil]

namespace Doc.Evaluates

variable {α : Type} {E : Engine α} {text : String → α} {integer : Int → α} {g g' : Doc} {s : String} {n : Nat}

theorem leading (hE : E.Slices text integer) (hg : g.Evaluates E (text s)) (hg' : g'.Evaluates E (integer n)) :
    (g.leading g').Evaluates E (text (firstChars n s)) := by
  have hone : (Doc.keyword "1").Evaluates E (integer 1) := keyword (by decide) hE.one
  have hargs : List.Forall₂ (Doc.Evaluates E) [g, .keyword "1", g'] [text s, integer 1, integer n] :=
    .cons hg (.cons hone (.cons hg' .nil))
  refine call hargs (by simp) ?_
  rw [← substrOf_one]
  exact hE.part s 1 n (by omega)

theorem trailing (hE : E.Slices text integer) (hle : n ≤ s.length) (hg : g.Evaluates E (text s))
    (hg' : g'.Evaluates E (integer n)) (ho : unbroken Operator.minus.level g'.operators = true) :
    (g.trailing g').Evaluates E (text (if n = 0 then s else lastChars n s)) := by
  have hargs : List.Forall₂ (Doc.Evaluates E) [g, .minus g'] [text s, integer (-n)] :=
    .cons hg (.cons (hg'.minus ho (hE.minus n)) .nil)
  refine call hargs (by simp) ?_
  rw [← substrFrom_neg]
  exact hE.rest s (-n) (by omega)

end Doc.Evaluates

/-- What a column holds: a text, which may be NULL, or an integer. -/
inductive Cell
  | text (s : Option String)
  | integer (n : Int)
deriving DecidableEq

/-- A text, which is NULL in Oracle if it is empty. -/
def Cell.ofText (d : Dialect) (s : String) : Cell := .text (if d = .oracle ∧ s = "" then none else some s)

/-- An engine for the columns of a row, in which SUBSTR of NULL is NULL. -/
def cellEngine (d : Dialect) (row : String → Option Cell) : Engine Cell where
  word s := if s = "1" then some (.integer 1) else none
  value
    | .number n => if n.isWhole then some (.integer (if n.negative then -n.wholePart else n.wholePart)) else none
    | _ => none
  column _ c := row c
  minus
    | .integer n => some (.integer (-n))
    | .text _ => none
  call
    | "SUBSTR", [.text (some s), .integer p] => some (.ofText d (substrFrom s p))
    | "SUBSTR", [.text (some s), .integer p, .integer k] => some (.ofText d (substrOf s p k.toNat))
    | "SUBSTR", .text none :: _ => some (.text none)
    | _, _ => none

theorem slices_cellEngine (d : Dialect) (row : String → Option Cell) :
    (cellEngine d row).Slices (Cell.ofText d) .integer where
  text_injective s s' h := by
    simp only [Cell.ofText, Cell.text.injEq] at h
    grind
  one := rfl
  minus _ := rfl
  rest s p _ := by
    by_cases hempty : d = .oracle ∧ s = ""
    · simp [cellEngine, Cell.ofText, hempty, substrFrom]
    · simp [cellEngine, Cell.ofText, hempty]
  part s p count _ := by
    by_cases hempty : d = .oracle ∧ s = ""
    · simp [cellEngine, Cell.ofText, hempty, substrOf]
    · simp [cellEngine, Cell.ofText, hempty]

end Sql

namespace Expr

open Sql

/-- Whether a minus sign before an expression takes all of it: it shows no operator that binds less, and no minus sign
comes first. -/
def takesMinus (d : Dialect) (e : Expr) : Bool :=
  unbroken Operator.minus.level ((sketchOf d e).grouped d).operators && !((sketchOf d e).grouped d).startsMinus

variable {α : Type} {E : Engine α} {text : String → α} {integer : Int → α} {d : Dialect} {names : Naming} {e e' : Expr}
  {s : String} {n : Nat} {name : String}

theorem evaluate?_leading (hd : d = .sqlite ∨ d = .oracle) (hname : Text.upper name = "LEFT") (he : e.Worded)
    (he' : e'.Worded) (es : List Expr) (hn : names.outputName = none) (hE : E.Slices text integer)
    (hs : evaluate? E d (e.compile d names).fragment = some (text s))
    (hcount : evaluate? E d (e'.compile d names).fragment = some (integer n)) :
    evaluate? E d ((call (some name) (e :: e' :: es)).compile d names).fragment = some (text (firstChars n s)) := by
  have hbuiltin : Builtin.ofName? (Text.upper name) = some .left := by
    rw [hname]
    decide
  have hentry : Sql.entry d names .left = .shaped (Sql.leading d) := by rcases hd with rfl | rfl <;> rfl
  obtain ⟨g, hg, hc, hv⟩ := exists_evaluates_arg hn he hs (e' :: es)
  obtain ⟨g', hg', hc', hv'⟩ := exists_evaluates_arg hn he' hcount es
  refine evaluate?_call hbuiltin (by decide) rfl hentry (hg.leading hg') ?_ (.leading hE hv hv') hn
  simp [Doc.leading, hc, hc']

theorem evaluate?_trailing (hd : d = .sqlite ∨ d = .oracle) (hname : Text.upper name = "RIGHT") (he : e.Worded)
    (he' : e'.Worded) (es : List Expr) (hn : names.outputName = none) (hE : E.Slices text integer)
    (hs : evaluate? E d (e.compile d names).fragment = some (text s))
    (hcount : evaluate? E d (e'.compile d names).fragment = some (integer n)) (hle : n ≤ s.length)
    (hminus : e'.takesMinus d = true) :
    evaluate? E d ((call (some name) (e :: e' :: es)).compile d names).fragment =
      some (text (if n = 0 then s else lastChars n s)) := by
  have hbuiltin : Builtin.ofName? (Text.upper name) = some .right := by
    rw [hname]
    decide
  have hentry : Sql.entry d names .right = .shaped (Sql.trailing d) := by rcases hd with rfl | rfl <;> rfl
  obtain ⟨g, hg, hc, hv⟩ := exists_evaluates_arg hn he hs (e' :: es)
  obtain ⟨g', hg', hc', hv', ho, hstart⟩ := exists_evaluates_grouped hn he' hcount
  simp only [takesMinus, Bool.and_eq_true, Bool.not_eq_true', ← ho, ← hstart] at hminus
  refine evaluate?_call hbuiltin (by decide) rfl hentry (hg.trailing hg') ?_ (.trailing hE hle hv hv' hminus.1) hn
  simp [Doc.trailing, hc, hc', hminus.2]

/-- LEFT gives the first characters, as many as are asked for. RIGHT, which has a minus sign before the count, gives the
last ones, except that it gives all of the text where none are asked for. -/
theorem ends_of_text (hd : d = .sqlite ∨ d = .oracle) {left right : String} (hleft : Text.upper left = "LEFT")
    (hright : Text.upper right = "RIGHT") (he : e.Worded) (he' : e'.Worded) (es : List Expr)
    (hn : names.outputName = none) (hE : E.Slices text integer)
    (hs : evaluate? E d (e.compile d names).fragment = some (text s))
    (hcount : evaluate? E d (e'.compile d names).fragment = some (integer n)) (hle : n ≤ s.length) :
    let sql (name : String) := ((call (some name) (e :: e' :: es)).compile d names).fragment
    evaluate? E d (sql left) = some (text (firstChars n s)) ∧
      (e'.takesMinus d = true →
        evaluate? E d (sql right) = some (text (if n = 0 then s else lastChars n s)) ∧
        (evaluate? E d (sql right) = some (text (lastChars n s)) ↔ n ≠ 0 ∨ s = "")) := by
  intro sql
  refine ⟨evaluate?_leading hd hleft he he' es hn hE hs hcount, fun hminus => ?_⟩
  have hlast := evaluate?_trailing hd hright he he' es hn hE hs hcount hle hminus
  refine ⟨hlast, ?_⟩
  rw [hlast, Option.some_inj, hE.text_injective.eq_iff]
  by_cases hzero : n = 0
  · simp [hzero, lastChars_zero]
  · simp [hzero]

/-- Three characters of four, counted by a column. -/
theorem ends_of_text_columns :
    let names : Naming := ⟨none, some "t", "id"⟩
    let row (c : String) : Option Cell := if c = "s" then some (.ofText .oracle "abcd") else some (.integer 3)
    let sql (name : String) := ((call (some name) [column "s", column "n"]).compile .oracle names).fragment
    evaluate? (cellEngine .oracle row) .oracle (sql "LEFT") = some (.ofText .oracle "abc") ∧
      evaluate? (cellEngine .oracle row) .oracle (sql "right") = some (.ofText .oracle "bcd") := by
  intro names row sql
  have hs : evaluate? (cellEngine .oracle row) .oracle ((column "s").compile .oracle names).fragment =
      some (.ofText .oracle "abcd") := evaluate?_column rfl rfl
  have hcount : evaluate? (cellEngine .oracle row) .oracle ((column "n").compile .oracle names).fragment =
      some (.integer (3 : Nat)) := evaluate?_column rfl rfl
  have hleft : Text.upper "LEFT" = "LEFT" := by decide
  have hright : Text.upper "right" = "RIGHT" := by decide
  obtain ⟨hfirst, hends⟩ := ends_of_text (.inr rfl) hleft hright (.column trivial) (.column trivial) [] rfl
    (slices_cellEngine .oracle row) hs hcount (by decide)
  exact ⟨hfirst.trans (by decide), (hends (by decide)).1.trans (by decide)⟩

/-- None of the last characters are asked for, and all are given. -/
theorem no_last_chars_gives_all :
    let row (c : String) : Option Cell := if c = "name" then some (.ofText .sqlite "abc") else none
    let f := ((call (some "RIGHT") [column "name", number .zero]).compile .sqlite .default).fragment
    f = ⟨"SUBSTR(\"name\", -?)", [.number .zero], .value⟩ ∧
      evaluate? (cellEngine .sqlite row) .sqlite f = some (.ofText .sqlite "abc") ∧ lastChars 0 "abc" = "" := by
  intro row f
  exact ⟨by decide, by decide +kernel, by decide⟩

end Expr

end SheetQuery
