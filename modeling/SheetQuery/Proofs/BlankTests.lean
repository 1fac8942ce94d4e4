import SheetQuery.Proofs.Evaluation
import SheetQuery.Proofs.NumberText
import SheetQuery.Proofs.Parity

/-! Tests for blanks, and counts. A column is blank if it is NULL or equal to the empty text, which Oracle takes for
NULL. The tests are evaluated with NULL as a third truth value and never give it. The counts sum one for each test that
holds. -/

namespace SheetQuery

namespace Sql

inductive Field
  | text (v : Option String)
  | truth (v : Option Bool)
  | number (n : Nat)
  /-- What a test asks for: NULL, or anything but NULL. -/
  | asked (null : Bool)
deriving DecidableEq, Repr

namespace Field

/-- What an operator gives, where `same` tells which texts the database takes for equal. A comparison with NULL is
NULL. -/
def operate (same : String → String → Bool) : InfixOp → Field → Field → Option Field
  | .is, text v, asked null => some (truth (some (v.isNone == null)))
  | .eq, text v, text w => some (truth (Option.map₂ same v w))
  | .ne, text v, text w => some (truth (Option.map₂ (fun s t => !same s t) v w))
  | .and, truth v, truth w => some (truth (Connective.and.join v w))
  | .or, truth v, truth w => some (truth (Connective.or.join v w))
  | .add, number n, number m => some (number (n + m))
  | _, _, _ => none

def negate : Field → Option Field
  | truth v => some (truth (v.map (!·)))
  | asked null => some (asked !null)
  | _ => none

/-- How a test is written in the place of a value. SQL Server and Oracle have no truth values there. -/
def ofTest (d : Dialect) (b : Bool) : Field := if d.predicatesAreValues then truth (some b) else number b.toNat

end Field

def isTextType : Dialect → Term → Bool
  | .mysql, .word "CHAR" | .postgres, .word "TEXT" | .sqlite, .word "TEXT" => true
  | .mssql, .group "NVARCHAR" [("", .word "MAX")] | .oracle, .group "VARCHAR2" [("", .word "4000")] => true
  | _, _ => false

section
variable (same : String → String → Bool) (d : Dialect) (table : Option String) (row : String → Option String)

/-- Texts, truth values and counts over a row. A choice takes its second branch unless its condition is true. -/
def fieldEngine : Engine Field where
  word s := if s = "NULL" then some (.asked true) else (numeral? s).map .number
  text s := some (.text (if d = .oracle ∧ s = "" then none else some s))
  column t c := if t = none ∨ t = table then some (.text (row c)) else none
  operator := Field.operate same
  not := Field.negate
  convert
    | "CAST", type, .text v => if isTextType d type then some (.text v) else none
    | _, _, _ => none
  holds
    | .truth v => some (v == some true)
    | _ => none

def isBlankText : Option String → Bool
  | none => true
  | some s => d != .oracle && same s ""

end

theorem isBlankText_iff {same : String → String → Bool} {d : Dialect} {v : Option String} :
    isBlankText same d v = true ↔ v = none ∨ d ≠ .oracle ∧ ∃ s, v = some s ∧ same s "" = true := by
  cases v <;> simp [isBlankText]

theorem numeral?_toString (n : Nat) : numeral? (toString n) = some n := by
  have hchars : (toString n).toList = Number.digitsText n := by
    rw [Nat.toString_eq_repr, Nat.toList_repr, Number.digitsText]
  have hne : toString n ≠ "" := by
    intro hempty
    have hnil := congrArg String.toList hempty
    rw [hchars] at hnil
    exact Nat.toDigits_ne_nil hnil
  have hdigits : (toString n).toList.all Char.isDigit = true := List.all_eq_true.2 (isDigit_toString n)
  rw [numeral?, if_pos ⟨hne, hdigits⟩, hchars, Number.digitsValue_digitsText]

namespace Doc.Evaluates

variable {same : String → String → Bool} {d : Dialect} {table : Option String} {row : String → Option String} {g : Doc}
  {v : Option String} {b : Bool} {gs : List Doc} {bs : List Bool}

theorem ofRow (c : String) : (Doc.column table c).Evaluates (fieldEngine same d table row) (.text (row c)) :=
  column (by simp [fieldEngine])

theorem digits {s : String} {n : Nat} {hk} (hs : (Item.word s).kind = .operand) (hn : numeral? s = some n) :
    (Doc.keyword s hk).Evaluates (fieldEngine same d table row) (.number n) := by
  have hnull : numeral? "NULL" = none := by decide
  have hword : s ≠ "NULL" := by
    rintro rfl
    rw [hnull] at hn
    cases hn
  exact keyword hs (by simp [fieldEngine, hword, hn])

theorem isNull (h : g.Evaluates (fieldEngine same d table row) (.text v)) (ho : g.operators = []) :
    (Doc.binary .is g (.keyword "NULL")).Evaluates (fieldEngine same d table row) (.truth (some v.isNone)) := by
  have hnull : (Doc.keyword "NULL").Evaluates (fieldEngine same d table row) (.asked true) := keyword (by decide) rfl
  refine binary h hnull (by simp [ho]) rfl ?_
  simp [fieldEngine, Field.operate]

theorem isPresent (h : g.Evaluates (fieldEngine same d table row) (.text v)) (ho : g.operators = []) :
    g.isPresent.Evaluates (fieldEngine same d table row) (.truth (some v.isSome)) := by
  have hnot : (Doc.not (.keyword "NULL")).Evaluates (fieldEngine same d table row) (.asked false) :=
    ⟨.not (.word "NULL"), ⟨by decide, rfl⟩, rfl⟩
  refine binary h hnot (by simp [ho]) rfl ?_
  cases v <;> rfl

theorem castToText (h : g.Evaluates (fieldEngine same d table row) (.text v)) :
    (Doc.cast g (textDoc d)).Evaluates (fieldEngine same d table row) (.text v) := by
  cases d
  case mysql => exact cast h (.words ["CHAR"] (by decide) (by simp)) rfl
  case postgres | sqlite => exact cast h (.words ["TEXT"] (by decide) (by simp)) rfl
  case mssql =>
    have htype : (textDoc .mssql).Reads (.group "NVARCHAR" [("", .word "MAX")]) :=
      .call (.one (.words ["MAX"] (by decide) (by simp)))
    exact cast h htype.items rfl
  case oracle =>
    have htype : (textDoc .oracle).Reads (.group "VARCHAR2" [("", .word "4000")]) :=
      .call (.one (.words ["4000"] (by decide) (by simp)))
    exact cast h htype.items rfl

/-- A comparison with the empty text, outside Oracle. -/
theorem empty (hd : d ≠ .oracle) : (Doc.text "").Evaluates (fieldEngine same d table row) (.text (some "")) :=
  text (by simp [fieldEngine, hd])

/-- The test for a blank. Where the comparison is NULL, the test for NULL decides. -/
theorem isBlank (h : g.Evaluates (fieldEngine same d table row) (.text v)) (ho : g.operators = []) :
    (g.isBlank d).Evaluates (fieldEngine same d table row) (.truth (some (isBlankText same d v))) := by
  unfold Doc.isBlank
  split
  case isTrue hd =>
    have hblank : isBlankText same d v = v.isNone := by cases v <;> simp [isBlankText, hd]
    rw [hblank]
    exact h.isNull ho
  case isFalse hd =>
    have hequal : (Doc.binary .eq (.cast g (textDoc d)) (.text "")).Evaluates (fieldEngine same d table row)
        (.truth (v.map fun s => same s "")) :=
      binary h.castToText (empty hd) (by simp [Doc.cast, Doc.operators]) rfl (by cases v <;> rfl)
    refine parens (binary (h.isNull ho) hequal (by simp [Doc.operators, ho]; decide) rfl ?_)
    cases v with
    | none => rfl
    | some s =>
      cases hsame : same s "" <;>
        simp [fieldEngine, Field.operate, isBlankText, hd, hsame, Connective.join, Connective.zero]

theorem isFilled (h : g.Evaluates (fieldEngine same d table row) (.text v)) (ho : g.operators = []) :
    (g.isFilled d).Evaluates (fieldEngine same d table row) (.truth (some !isBlankText same d v)) := by
  unfold Doc.isFilled
  split
  case isTrue hd =>
    have hfilled : (!isBlankText same d v) = v.isSome := by cases v <;> simp [isBlankText, hd]
    rw [hfilled]
    exact h.isPresent ho
  case isFalse hd =>
    have hdiffers : (Doc.binary .ne (.cast g (textDoc d)) (.text "")).Evaluates (fieldEngine same d table row)
        (.truth (v.map fun s => !same s "")) :=
      binary h.castToText (empty hd) (by simp [Doc.cast, Doc.operators]) rfl (by cases v <;> rfl)
    refine binary (h.isPresent ho) hdiffers (by simp [Doc.isPresent, Doc.operators, ho]; decide) rfl ?_
    cases v with
    | none => rfl
    | some s =>
      cases hsame : same s "" <;>
        simp [fieldEngine, Field.operate, isBlankText, hd, hsame, Connective.join, Connective.zero]

theorem oneIf (h : g.Evaluates (fieldEngine same d table row) (.truth (some b))) :
    g.oneIf.Evaluates (fieldEngine same d table row) (.number b.toNat) := by
  have hone : (Doc.keyword "1").Evaluates (fieldEngine same d table row) (.number 1) := digits (by decide) (by decide)
  have hzero : (Doc.keyword "0").Evaluates (fieldEngine same d table row) (.number 0) := digits (by decide) (by decide)
  have hchoice := choose h (b := b) (by cases b <;> rfl) hone hzero
  cases b <;> exact hchoice

/-- A sum of tests, begun with some number. -/
theorem foldl_oneIf {n : Nat} (h : g.Evaluates (fieldEngine same d table row) (.number n))
    (ho : ∀ o ∈ g.operators, InfixOp.add.level ≤ o.level)
    (hs : List.Forall₂ (fun g b => g.Evaluates (fieldEngine same d table row) (.truth (some b))) gs bs) :
    ((gs.map .oneIf).foldl (.binary .add) g).Evaluates (fieldEngine same d table row)
      (.number (n + bs.count true)) := by
  induction hs generalizing g n with
  | nil => exact h
  | @cons g' b gs bs hg' _ ih =>
    have hsum := binary h hg'.oneIf ho rfl (x := .number (n + b.toNat)) rfl
    have hlevel : InfixOp.add.level ≤ (Operator.between .add).level := Nat.le_refl _
    have hrest := ih hsum (by simpa [Doc.operators, Doc.oneIf, or_imp, forall_and] using ⟨ho, hlevel⟩)
    rw [Nat.add_assoc] at hrest
    rw [List.count_cons]
    cases b <;> simpa [Nat.add_comm] using hrest

theorem count (hs : List.Forall₂ (fun g b => g.Evaluates (fieldEngine same d table row) (.truth (some b))) gs bs) :
    (Doc.count gs).Evaluates (fieldEngine same d table row) (.number (bs.count true)) := by
  cases hs with
  | nil =>
    have hzero : (Doc.keyword "0").Evaluates (fieldEngine same d table row) (.number 0) :=
      digits (by decide) (by decide)
    exact hzero
  | @cons g b gs bs hg hs =>
    have hsum := foldl_oneIf hg.oneIf (by simp [Doc.oneIf, Doc.operators]) hs
    rw [List.count_cons, Nat.add_comm]
    cases b <;> exact hsum.parens

end Doc.Evaluates

theorem Doc.comment_isFilled (d : Dialect) (table : Option String) (c : String) :
    ((Doc.column table c).isFilled d).comment noSign = false := by
  unfold Doc.isFilled
  split <;> simp [Doc.isPresent]

theorem Spells.groupedOperand (d : Dialect) (names : Naming) (c : String) :
    Spells d (((Expr.column c).operand d names).grouped d).result (.column names.tableAlias c) := by
  rw [Operand.grouped, Noted.result_map]
  exact (Expr.spells_column d names c).groupIf false

end Sql

namespace Expr

open Sql

section
variable {α : Type} {E : Engine α} {v : α} {d : Dialect} {names : Naming} {n : String} {f : Builtin}
  (hf : Builtin.ofName? (Text.upper n) = some f) (h : f ∉ [.avg, .add, .sum, .url]) (htest : isTest d f = true)
  {shape : List Operand → Noted Fragment} (hshape : Sql.entry d names f = .shaped shape) {args : List Expr} {g : Doc}
  (hs : Spells d (shape (args.map (operand d names))).result g) (hc : g.comment noSign = false)

include hf h hshape in
theorem sqlOf_shaped (args : List Expr) :
    sqlOf d names (call (some n) args) = (shape (args.map (operand d names))).result := by
  rw [sqlOf, sql_operand_builtin hf h hshape]

include htest hshape in
theorem isPredicate_shaped (args : List Expr) : (shape (args.map (operand d names))).result.isPredicate = true := by
  have hentry := isPredicate_entry d names (args.map (operand d names)) f
  rwa [hshape, htest, Entry.write] at hentry

include hf h htest hshape hs hc

/-- A test gives as a condition what the layout of its SQL gives. -/
theorem evaluate?_testCondition (hg : g.Evaluates E v) :
    evaluate? E d ((call (some n) args).compileCondition d names).fragment = some v := by
  have hsql := sqlOf_shaped hf h hshape args
  have hpredicate := isPredicate_shaped htest hshape args
  rw [Weighs.compileCondition_of_predicate (by rw [hsql, hpredicate]), hsql]
  exact hg.evaluate? hs hc

/-- As a value it may have to be a choice between one and zero. -/
theorem evaluate?_testValue (hn : names.outputName = none) (hg : (g.toValue d true).Evaluates E v) :
    evaluate? E d ((call (some n) args).compile d names).fragment = some v := by
  have hcomment : (g.toValue d true).comment noSign = false := by
    unfold Doc.toValue
    split <;> simp [hc]
  refine hg.evaluate? ?_ hcomment
  rw [fragment_compile hn, Operand.value, Noted.result_map, sql_operand_builtin hf h hshape,
    ← isPredicate_shaped htest hshape args]
  exact hs.toValue

end

section
variable {same : String → String → Bool} {d : Dialect} {names : Naming} (hn : names.outputName = none)
  {row : String → Option String} {n : String}
include hn

/-- A test of a column gives its truth as a condition, and what stands for it as a value. -/
theorem evaluate?_test {f : Builtin} (hf : Builtin.ofName? (Text.upper n) = some f) (h : f ∉ [.avg, .add, .sum, .url])
    (htest : isTest d f = true) {shape : List Operand → Noted Fragment} (hshape : Sql.entry d names f = .shaped shape)
    {c : String} {g : Doc} {b : Bool} (hs : Spells d (shape [(column c).operand d names]).result g)
    (hc : g.comment noSign = false) (hg : g.Evaluates (fieldEngine same d names.tableAlias row) (.truth (some b))) :
    evaluate? (fieldEngine same d names.tableAlias row) d
        ((call (some n) [column c]).compileCondition d names).fragment = some (.truth (some b)) ∧
      evaluate? (fieldEngine same d names.tableAlias row) d ((call (some n) [column c]).compile d names).fragment =
        some (.ofTest d b) := by
  have hvalue : (g.toValue d true).Evaluates (fieldEngine same d names.tableAlias row) (.ofTest d b) := by
    unfold Doc.toValue Field.ofTest
    cases d.predicatesAreValues with
    | true => exact hg
    | false => exact hg.oneIf
  exact ⟨evaluate?_testCondition hf h htest hshape hs hc hg, evaluate?_testValue hf h htest hshape hs hc hn hvalue⟩

/-- A count over columns gives the number of those that pass the test. -/
theorem evaluate?_count {f : Builtin} (hf : Builtin.ofName? (Text.upper n) = some f) (h : f ∉ [.avg, .add, .sum, .url])
    (htest : isTest d f = false) {test : Operand → Noted Fragment}
    (hshape : Sql.entry d names f = .shaped (countIf test))
    {layout : String → Doc} (hs : ∀ c, Spells d (test ((column c).operand d names)).result (layout c))
    (hc : ∀ c, (layout c).comment noSign = false) {passes : String → Bool}
    (hg : ∀ c, (layout c).Evaluates (fieldEngine same d names.tableAlias row) (.truth (some (passes c))))
    (cs : List String) :
    evaluate? (fieldEngine same d names.tableAlias row) d ((call (some n) (cs.map column)).compile d names).fragment =
      some (.number (cs.countP passes)) := by
  have hspells : Spells d (countIf test ((cs.map column).map (operand d names))).result (.count (cs.map layout)) := by
    refine .countIf ?_
    rw [List.map_map, List.forall₂_map_left_iff, List.forall₂_map_right_iff, List.forall₂_same]
    exact fun c _ => hs c
  have hcomment : (Doc.count (cs.map layout)).comment noSign = false := by
    rw [Doc.comment_count]
    simp [hc]
  have hcounts : (Doc.count (cs.map layout)).Evaluates (fieldEngine same d names.tableAlias row)
      (.number ((cs.map passes).count true)) := by
    refine .count ?_
    rw [List.forall₂_map_left_iff, List.forall₂_map_right_iff, List.forall₂_same]
    exact fun c _ => hg c
  have hnumber : (cs.map passes).count true = cs.countP passes := by
    rw [List.count_eq_countP, List.countP_map]
    congr 1
    funext c
    simp
  rw [hnumber] at hcounts
  exact evaluate?_call hf h htest hshape hspells hcomment hcounts hn

theorem evaluate?_isBlank (hname : Text.upper n = "ISBLANK") (c : String) :
    evaluate? (fieldEngine same d names.tableAlias row) d
        ((call (some n) [column c]).compileCondition d names).fragment =
          some (.truth (some (isBlankText same d (row c)))) ∧
      evaluate? (fieldEngine same d names.tableAlias row) d ((call (some n) [column c]).compile d names).fragment =
        some (.ofTest d (isBlankText same d (row c))) := by
  have hf : Builtin.ofName? (Text.upper n) = some .isBlank := by
    rw [hname]
    decide
  have hcomment : ((Doc.column names.tableAlias c).isBlank d).comment noSign = false := by
    unfold Doc.isBlank
    split <;> simp
  exact evaluate?_test hn hf (by decide) rfl rfl ((Spells.groupedOperand d names c).isBlank []) hcomment
    (.isBlank (.ofRow c) rfl)

theorem evaluate?_isNotBlank (hname : Text.upper n = "ISNOTBLANK") (c : String) :
    evaluate? (fieldEngine same d names.tableAlias row) d
        ((call (some n) [column c]).compileCondition d names).fragment =
          some (.truth (some !isBlankText same d (row c))) ∧
      evaluate? (fieldEngine same d names.tableAlias row) d ((call (some n) [column c]).compile d names).fragment =
        some (.ofTest d !isBlankText same d (row c)) := by
  have hf : Builtin.ofName? (Text.upper n) = some .isNotBlank := by
    rw [hname]
    decide
  exact evaluate?_test hn hf (by decide) rfl rfl ((Spells.groupedOperand d names c).isNotBlank [])
    (Doc.comment_isFilled d _ c) (.parens (.isFilled (.ofRow c) rfl))

theorem evaluate?_countFilled (hname : Text.upper n = "COUNTA") (cs : List String) :
    evaluate? (fieldEngine same d names.tableAlias row) d ((call (some n) (cs.map column)).compile d names).fragment =
      some (.number (cs.countP fun c => !isBlankText same d (row c))) := by
  have hf : Builtin.ofName? (Text.upper n) = some .countFilled := by
    rw [hname]
    decide
  exact evaluate?_count hn hf (by decide) rfl rfl (fun c => (Spells.groupedOperand d names c).isFilled)
    (Doc.comment_isFilled d _) (fun c => .isFilled (.ofRow c) rfl) cs

theorem evaluate?_countPresent (hname : Text.upper n = "COUNT") (cs : List String) :
    evaluate? (fieldEngine same d names.tableAlias row) d ((call (some n) (cs.map column)).compile d names).fragment =
      some (.number (cs.countP fun c => (row c).isSome)) := by
  have hf : Builtin.ofName? (Text.upper n) = some .count := by
    rw [hname]
    decide
  exact evaluate?_count hn hf (by decide) rfl rfl (fun c => (Spells.groupedOperand d names c).isPresent)
    (fun c => by simp [Doc.isPresent]) (fun c => .isPresent (.ofRow c) rfl) cs

theorem evaluate?_countAll (hname : Text.upper n = "COUNTALL") (cs : List String) :
    evaluate? (fieldEngine same d names.tableAlias row) d ((call (some n) (cs.map column)).compile d names).fragment =
      some (.number cs.length) := by
  have hf : Builtin.ofName? (Text.upper n) = some .countAll := by
    rw [hname]
    decide
  have hspells : Spells d (pure (Fragment.raw (toString ((cs.map column).map (operand d names)).length))
      : Noted Fragment).result (countDoc cs.length) := by
    rw [List.length_map, List.length_map]
    exact ⟨rfl, rfl⟩
  have hlength : (countDoc cs.length).Evaluates (fieldEngine same d names.tableAlias row) (.number cs.length) :=
    .digits (kind_of_isDigit (isDigit_toString _)) (numeral?_toString _)
  exact evaluate?_call hf (by decide) rfl rfl hspells rfl hlength hn

end

/-- The tests for a blank are true or false, never NULL, and one is true where the other is false. COUNTA counts the
columns that are not blank by these tests, COUNT those that are not NULL, and COUNTALL all of them. -/
theorem blanks_tested_and_counted {spelling : Builtin → String}
    (hspelling : ∀ f ∈ [Builtin.isBlank, .isNotBlank, .count, .countFilled, .countAll],
      Text.upper (spelling f) = f.name) (d : Dialect) {names : Naming} (hn : names.outputName = none)
    (same : String → String → Bool) (row : String → Option String) (cs : List String) :
    let E := fieldEngine same d names.tableAlias row
    let condition (f : Builtin) (c : String) :=
      evaluate? E d ((call (some (spelling f)) [column c]).compileCondition d names).fragment
    let value (f : Builtin) (cs : List String) :=
      evaluate? E d ((call (some (spelling f)) (cs.map column)).compile d names).fragment
    (∀ c ∈ cs, ∃ b,
      condition .isBlank c = some (.truth (some b)) ∧ condition .isNotBlank c = some (.truth (some !b)) ∧
      value .isBlank [c] = some (.ofTest d b) ∧ value .isNotBlank [c] = some (.ofTest d !b) ∧
      (b = true ↔ row c = none ∨ d ≠ .oracle ∧ ∃ s, row c = some s ∧ same s "" = true)) ∧
    value .countFilled cs =
      some (.number (cs.countP fun c => decide (condition .isNotBlank c = some (.truth (some true))))) ∧
    value .count cs = some (.number (cs.countP fun c => (row c).isSome)) ∧
    value .countAll cs = some (.number cs.length) := by
  intro E condition value
  have hblank (c : String) : condition .isBlank c = some (.truth (some (isBlankText same d (row c)))) ∧
      value .isBlank [c] = some (.ofTest d (isBlankText same d (row c))) :=
    evaluate?_isBlank hn (hspelling .isBlank (by decide)) c
  have hfilled (c : String) : condition .isNotBlank c = some (.truth (some !isBlankText same d (row c))) ∧
      value .isNotBlank [c] = some (.ofTest d !isBlankText same d (row c)) :=
    evaluate?_isNotBlank hn (hspelling .isNotBlank (by decide)) c
  refine ⟨fun c _ => ?_, ?_, ?_, ?_⟩
  · exact ⟨_, (hblank c).1, (hfilled c).1, (hblank c).2, (hfilled c).2, isBlankText_iff⟩
  · have hpasses (c : String) : decide (condition .isNotBlank c = some (.truth (some true))) =
        !isBlankText same d (row c) := by
      rw [(hfilled c).1]
      simp
    rw [funext hpasses]
    exact evaluate?_countFilled hn (hspelling .countFilled (by decide)) cs
  · exact evaluate?_countPresent hn (hspelling .count (by decide)) cs
  · exact evaluate?_countAll hn (hspelling .countAll (by decide)) cs

/-- Three columns: NULL, the empty text and another text. -/
theorem blanks_tested_and_counted_three :
    let names : Naming := ⟨none, some "t", "id"⟩
    let row (c : String) : Option String := if c = "a" then none else if c = "b" then some "" else some "x"
    let E := fieldEngine (· == ·) .mssql (some "t") row
    let value (name : String) (cs : List String) :=
      evaluate? E .mssql ((call (some name) (cs.map column)).compile .mssql names).fragment
    value "ISBLANK" ["b"] = some (.number 1) ∧ value "IsNotBlank" ["b"] = some (.number 0) ∧
      value "counta" ["a", "b", "c"] = some (.number 1) ∧ value "COUNT" ["a", "b", "c"] = some (.number 2) ∧
      value "COUNTALL" ["a", "b", "c"] = some (.number 3) := by
  intro names row E value
  let spelling (f : Builtin) : String :=
    if f = .isNotBlank then "IsNotBlank" else if f = .countFilled then "counta" else f.name
  have hspelling : ∀ f ∈ [Builtin.isBlank, .isNotBlank, .count, .countFilled, .countAll],
      Text.upper (spelling f) = f.name := by decide
  have hn : names.outputName = none := rfl
  obtain ⟨htests, hfilled, hpresent, hall⟩ :=
    blanks_tested_and_counted hspelling .mssql hn (· == ·) row ["a", "b", "c"]
  obtain ⟨a, -, ha, -, -, hnull⟩ := htests "a" (by decide)
  obtain ⟨b, -, hb, hblank, hnotBlank, hempty⟩ := htests "b" (by decide)
  obtain ⟨c, -, hc, -, -, htext⟩ := htests "c" (by decide)
  obtain rfl : a = true := hnull.2 (.inl rfl)
  obtain rfl : b = true := hempty.2 (.inr ⟨by decide, "", rfl, by decide⟩)
  obtain rfl : c = false := by
    rw [Bool.eq_false_iff, ne_eq, htext]
    simp [row]
  refine ⟨hblank, hnotBlank, hfilled.trans ?_, hpresent, hall⟩
  simp [ha, hb, hc]

end Expr

end SheetQuery
