import Mathlib.Algebra.Ring.Parity
import Mathlib.Data.Option.NAry
import SheetQuery.Proofs.Connectives

/-! Exclusive or and parity. MySQL has an operator for it, which gives NULL as soon as a side is NULL; for the other
dialects the conditions that hold are counted. Read back and evaluated over columns of truth values, both select a row
by whether an odd number of the columns are true, but MySQL selects no row where a column is NULL. -/

namespace SheetQuery

namespace Sql

/-- What SQL stands for in a row: a number or a truth value, where `none` is NULL. -/
inductive Datum
  | number (v : Option Nat)
  | truth (v : Option Bool)
deriving DecidableEq, Repr

namespace Datum

/-- How a column keeps a truth value. PostgreSQL has a type for them, the other dialects keep one and zero. -/
def stored (d : Dialect) (v : Option Bool) : Datum :=
  if d = .postgres then truth v else number (v.map Bool.toNat)

/-- The datum as a condition. MySQL and SQLite take any number but zero for true. -/
def condition? (d : Dialect) : Datum → Option (Option Bool)
  | truth v => some v
  | number v => if d = .mysql ∨ d = .sqlite then some (v.map (· != 0)) else none

def toBoolean : Datum → Datum
  | truth v => truth v
  | number v => truth (v.map (· != 0))

def remainder : Datum → Datum → Option Datum
  | number v, number w => if w = some 0 then none else some (number (Option.map₂ (· % ·) v w))
  | _, _ => none

/-- What an operator gives. NULL on one side makes the whole NULL; only MySQL has an exclusive or. -/
def operate (d : Dialect) : InfixOp → Datum → Datum → Option Datum
  | .add, number v, number w => some (number (Option.map₂ (· + ·) v w))
  | .mod, x, y => if d.hasPercent then remainder x y else none
  | .eq, number v, number w => some (truth (Option.map₂ (· == ·) v w))
  | .ne, number v, number w => some (truth (Option.map₂ (· != ·) v w))
  | .xor, x, y => do
    if d = .mysql then
      let v ← x.condition? d
      let w ← y.condition? d
      return truth (Option.map₂ Bool.xor v w)
    else none
  | _, _, _ => none

end Datum

def numeral? (s : String) : Option Nat :=
  if s ≠ "" ∧ s.toList.all Char.isDigit then some (Number.digitsValue s.toList) else none

section
variable (d : Dialect) (table : Option String) (row : String → Option Bool)

/-- What a tree of SQL stands for in a row whose columns are true, false or NULL. A choice takes its second branch
unless its condition is true. -/
def Term.datum : Term → Option Datum
  | .word s => (numeral? s).map fun n => .number (some n)
  | .name c => some (.stored d (row c))
  | .run [.name t, .word ".", .name c] => if table = some t then some (.stored d (row c)) else none
  | .binary op l r => do
    let x ← Term.datum l
    let y ← Term.datum r
    Datum.operate d op x y
  | .group "" [("", t)] => Term.datum t
  | .group "MOD" [("", l), (",", r)] => do
    let x ← Term.datum l
    let y ← Term.datum r
    if d.hasPercent then none else Datum.remainder x y
  | .group "CAST" [("", t), ("AS", .word "BOOLEAN")] => do
    let x ← Term.datum t
    if d = .postgres then some x.toBoolean else none
  | .choice [("WHEN", c), ("THEN", t), ("ELSE", e)] => do
    let x ← Term.datum c
    let v ← x.condition? d
    if v = some true then Term.datum t else Term.datum e
  | _ => none

/-- Whether a predicate selects a row. It has to be true for that, and NULL is not. -/
def selects? (f : Fragment) : Option Bool := do
  let t ← readTerm d f
  let x ← t.datum d table row
  let v ← x.condition? d
  return v == some true

def Doc.Denotes (g : Doc) (x : Datum) : Prop := ∃ t, g.Reads t ∧ t.datum d table row = some x

def Doc.Holds (g : Doc) (v : Option Bool) : Prop := ∃ x, g.Denotes d table row x ∧ x.condition? d = some v

end

/-- Exclusive or on truth values of SQL: NULL if any is NULL, and else whether an odd number are true. -/
theorem foldl_xor (v : Option Bool) (vs : List (Option Bool)) : vs.foldl (Option.map₂ Bool.xor) v =
    if none ∈ v :: vs then none else some (decide (Odd ((v :: vs).count (some true)))) := by
  induction vs generalizing v with
  | nil => rcases v with _ | _ | _ <;> decide
  | cons w vs ih =>
    -- the first two become one, which is NULL if either is and keeps their parity otherwise
    rw [List.foldl_cons, ih]
    rcases v with _ | _ | _ <;> rcases w with _ | _ | _ <;> simp [Nat.odd_add_one]

theorem foldl_xor_beq_true (v : Option Bool) (vs : List (Option Bool)) :
    (vs.foldl (Option.map₂ Bool.xor) v == some true) =
      decide (Odd ((v :: vs).count (some true)) ∧ none ∉ v :: vs) := by
  rw [foldl_xor]
  split
  case isTrue hnull =>
    rw [decide_eq_false fun h => h.2 hnull]
    rfl
  case isFalse hnull =>
    simp only [hnull, not_false_eq_true, and_true]
    cases decide (Odd ((v :: vs).count (some true))) <;> rfl

/-- Conditions that are true count for one, and all others for nothing. -/
theorem sum_oneIf (vs : List (Option Bool)) :
    (vs.map fun v => if v = some true then 1 else 0).sum = vs.count (some true) := by
  induction vs with
  | nil => rfl
  | cons v vs ih => by_cases hv : v = some true <;> simp [hv, ih, Nat.add_comm]

namespace Datum

variable {x : Datum} {v : Option Bool} {xs : List Datum} {vs : List (Option Bool)}

theorem foldlM_add (d : Dialect) (n : Nat) (ns : List Nat) :
    (ns.map fun n => number (some n)).foldlM (operate d .add) (number (some n)) =
      some (number (some (n + ns.sum))) := by
  induction ns generalizing n with
  | nil => rfl
  | cons m ns ih => simp [operate, ih, Nat.add_assoc]

theorem exists_foldlM_xor (h : x.condition? .mysql = some v)
    (hs : List.Forall₂ (fun x v => x.condition? .mysql = some v) xs vs) :
    ∃ y, xs.foldlM (operate .mysql .xor) x = some y ∧
      y.condition? .mysql = some (vs.foldl (Option.map₂ Bool.xor) v) := by
  induction hs generalizing x v with
  | nil => exact ⟨x, rfl, h⟩
  | @cons y w xs vs hy _ ih =>
    obtain ⟨z, hz, hv⟩ := ih (x := truth (Option.map₂ Bool.xor v w)) rfl
    exact ⟨z, by simp [operate, h, hy, hz], hv⟩

end Datum

namespace Doc

variable {d : Dialect} {table : Option String} {row : String → Option Bool} {g l r : Doc} {x y z : Datum}
  {v : Option Bool} {gs : List Doc} {vs : List (Option Bool)}

theorem level_remainder (hlo : l.operators = []) (hro : r.operators = []) :
    ∀ u ∈ (Doc.remainder d l r).operators, InfixOp.mod.level ≤ u.level := by
  unfold Doc.remainder
  split <;> simp [Doc.operators, hlo, hro, Operator.level]

attribute [local simp] Term.datum

namespace Denotes

theorem column (name : String) : (Doc.column table name).Denotes d table row (.stored d (row name)) := by
  refine ⟨_, .column table name, ?_⟩
  cases table <;> simp

theorem numeral {s : String} {n : Nat} {hk} (hs : (Item.word s).kind = .operand) (hn : numeral? s = some n) :
    (Doc.keyword s hk).Denotes d table row (.number (some n)) :=
  ⟨_, .word hs, by simp [hn]⟩

theorem parens (h : g.Denotes d table row x) : (Doc.parens g).Denotes d table row x := by
  obtain ⟨t, ht, hx⟩ := h
  exact ⟨_, ht.parens, by simp [hx]⟩

theorem binary {op : InfixOp} (hl : l.Denotes d table row x) (hr : r.Denotes d table row y)
    (hlo : ∀ u ∈ l.operators, op.level ≤ u.level) (hro : r.operators = []) (hz : Datum.operate d op x y = some z) :
    (Doc.binary op l r).Denotes d table row z := by
  obtain ⟨t, ht, hx⟩ := hl
  obtain ⟨u, hu, hy⟩ := hr
  exact ⟨_, ht.binary hu hlo (by rw [hro]; rfl), by simp [hx, hy, hz]⟩

/-- A chain of one operator. -/
theorem foldl {op : InfixOp} {xs : List Datum} (h : g.Denotes d table row x)
    (hg : ∀ u ∈ g.operators, op.level ≤ u.level) (hs : List.Forall₂ (Doc.Denotes d table row) gs xs)
    (hgs : ∀ g ∈ gs, g.operators = []) (hz : xs.foldlM (Datum.operate d op) x = some z) :
    (gs.foldl (.binary op) g).Denotes d table row z := by
  induction hs generalizing g x with
  | nil =>
    obtain rfl : x = z := by simpa using hz
    exact h
  | @cons g' y gs xs hg' _ ih =>
    rw [List.forall_mem_cons] at hgs
    obtain ⟨w, hw, hrest⟩ : ∃ w, Datum.operate d op x y = some w ∧ xs.foldlM (Datum.operate d op) w = some z := by
      simpa [Option.bind_eq_some_iff] using hz
    refine ih (h.binary hg' hg hgs.1 hw) ?_ hgs.2 hrest
    simp only [Doc.operators, hgs.1, List.mem_append, List.mem_singleton, or_imp, forall_and, forall_eq]
    exact ⟨hg, Nat.le_refl _⟩

theorem remainder (hl : l.Denotes d table row x) (hr : r.Denotes d table row y) (hlo : l.operators = [])
    (hro : r.operators = []) (hz : Datum.remainder x y = some z) :
    (Doc.remainder d l r).Denotes d table row z := by
  unfold Doc.remainder
  split
  case isTrue hd => exact hl.binary hr (by simp [hlo]) hro (by simpa [Datum.operate, hd] using hz)
  case isFalse hd =>
    obtain ⟨t, ht, hx⟩ := hl
    obtain ⟨u, hu, hy⟩ := hr
    exact ⟨_, ht.callPair hu, by simp [hx, hy, hz, hd]⟩

end Denotes

namespace Holds

/-- A column in the place of a condition. -/
theorem column (name : String) : ((Doc.column table name).toCondition d false).Holds d table row (row name) := by
  have hcolumn : (Doc.column table name).Denotes d table row (.stored d (row name)) := .column name
  have hcount (v : Option Bool) : (v.map Bool.toNat).map (· != 0) = v := by rcases v with _ | _ | _ <;> rfl
  cases d
  case mysql | sqlite => exact ⟨_, hcolumn, by simp [Datum.stored, Datum.condition?, hcount]⟩
  case mssql | oracle =>
    have hzero : numeral? "0" = some 0 := by decide
    refine ⟨.truth (row name), hcolumn.binary (.numeral (by decide) hzero) (by simp [Doc.operators]) rfl ?_, rfl⟩
    rcases row name with _ | _ | _ <;> rfl
  case postgres =>
    obtain ⟨t, ht, hx⟩ := hcolumn
    refine ⟨.truth (row name), ⟨_, ht.cast ["BOOLEAN"] rfl (by simp) (by decide), ?_⟩, rfl⟩
    simp [Term.ofRun, hx, Datum.stored, Datum.toBoolean]

/-- A condition that counts for one if it is true. -/
theorem oneIf (h : g.Holds d table row v) :
    g.oneIf.Denotes d table row (.number (some (if v = some true then 1 else 0))) := by
  obtain ⟨x, ⟨t, ht, hx⟩, hv⟩ := h
  have hone : numeral? "1" = some 1 := by decide
  have hzero : numeral? "0" = some 0 := by decide
  refine ⟨_, ht.oneIf, ?_⟩
  by_cases htrue : v = some true <;> simp [hx, hv, htrue, hone, hzero]

/-- The number of conditions that are true. -/
theorem total (hs : List.Forall₂ (Doc.Holds d table row) gs vs) (hne : gs ≠ []) :
    (Doc.joined .add (gs.map .oneIf)).Denotes d table row (.number (some (vs.count (some true)))) := by
  cases hs with
  | nil => exact absurd rfl hne
  | @cons g v gs vs h hs =>
    have hparts : List.Forall₂ (Doc.Denotes d table row) (gs.map .oneIf)
        ((vs.map fun v => if v = some true then 1 else 0).map fun n => .number (some n)) := by
      rw [List.map_map, List.forall₂_map_left_iff, List.forall₂_map_right_iff]
      exact hs.imp fun _ _ h => h.oneIf
    rw [← sum_oneIf]
    exact h.oneIf.foldl (by simp [Doc.oneIf, Doc.operators]) hparts (by simp [Doc.oneIf, Doc.operators])
      (Datum.foldlM_add d _ _)

/-- The layout that counts: the number of true conditions leaves one when divided by two. -/
theorem xor (hs : List.Forall₂ (Doc.Holds d table row) gs vs) (hne : gs ≠ []) :
    (Doc.xor d gs).Holds d table row (some (decide (Odd (vs.count (some true))))) := by
  have hone : numeral? "1" = some 1 := by decide
  have htwo : numeral? "2" = some 2 := by decide
  have hparity : (vs.count (some true) % 2 == 1) = decide (Odd (vs.count (some true))) := by
    simp [Nat.odd_iff, beq_eq_decide]
  rw [← hparity]
  refine ⟨.truth _, .parens (.binary (.remainder (total hs hne).parens (.numeral (by decide) htwo) rfl rfl rfl)
    (.numeral (by decide) hone) (fun u hu => ?_) rfl rfl), rfl⟩
  exact Nat.le_trans (by decide) (level_remainder rfl rfl u hu)

/-- The operator of MySQL between conditions. -/
theorem foldl_xor (h : g.Holds .mysql table row v) (hg : g.operators = [])
    (hs : List.Forall₂ (Doc.Holds .mysql table row) gs vs) (hgs : ∀ g ∈ gs, g.operators = []) :
    (gs.foldl (.binary .xor) g).Holds .mysql table row (vs.foldl (Option.map₂ Bool.xor) v) := by
  obtain ⟨x, hx, hv⟩ := h
  obtain ⟨xs, hxs, hvs⟩ : ∃ xs, List.Forall₂ (Doc.Denotes .mysql table row) gs xs ∧
      List.Forall₂ (fun x v => x.condition? .mysql = some v) xs vs := by
    clear hgs
    induction hs with
    | nil => exact ⟨[], .nil, .nil⟩
    | cons h _ ih =>
      obtain ⟨y, hy, hw⟩ := h
      obtain ⟨xs, hxs, hvs⟩ := ih
      exact ⟨y :: xs, .cons hy hxs, .cons hw hvs⟩
  obtain ⟨z, hz, hw⟩ := Datum.exists_foldlM_xor hv hvs
  exact ⟨z, hx.foldl (by simp [hg]) hxs hgs hz, hw⟩

theorem parens (h : g.Holds d table row v) : (Doc.parens g).Holds d table row v := by
  obtain ⟨x, hx, hv⟩ := h
  exact ⟨x, hx.parens, hv⟩

theorem selects? {f : Fragment} (h : g.Holds d table row v) (hs : Spells d f g) (hc : g.comment noSign = false) :
    Sql.selects? d table row f = some (v == some true) := by
  obtain ⟨x, ⟨t, ht, hx⟩, hv⟩ := h
  simp [Sql.selects?, ht.readTerm hs hc, hx, hv]

end Holds

end Doc

def Doc.columnCondition (d : Dialect) (table : Option String) (c : String) : Doc :=
  (Doc.column table c).toCondition d false

section
variable {d : Dialect} {table : Option String} (names : Naming) (row : String → Option Bool) {c : String}
  {cs : List String}

theorem Spells.columnCondition (d : Dialect) (names : Naming) (c : String) :
    Spells d (((Expr.column c).operand d names).condition d).result (.columnCondition d names.tableAlias c) := by
  have hs : Spells d (columnText d names c) (.column names.tableAlias c) := .column names c
  have hcond : (((Expr.column c).operand d names).condition d).result = asCondition d (columnText d names c) := by
    simp [Expr.operand, Operand.condition, isOperation, Sql.groupIf, write]
  rw [hcond, Doc.columnCondition, ← isPredicate_columnText names c]
  exact hs.toCondition

/-- A column gets no parentheses among other conditions. -/
theorem Spells.groupedColumn (d : Dialect) (names : Naming) (c : String) :
    Spells d (((Expr.column c).operand d names).groupedCondition d).result
      (.columnCondition d names.tableAlias c) := by
  have hgrouped : (((Expr.column c).operand d names).groupedCondition d).result =
      (((Expr.column c).operand d names).condition d).result := by
    simp [Expr.operand, Operand.groupedCondition, isOperation, Sql.groupIf]
  rw [hgrouped]
  exact .columnCondition d names c

@[simp]
theorem comment_columnCondition : (Doc.columnCondition d table c).comment noSign = false := by
  cases d <;> simp [Doc.columnCondition, Doc.toCondition]

theorem holds_columns (table : Option String) (cs : List String) :
    List.Forall₂ (Doc.Holds d table row) (cs.map (.columnCondition d table)) (cs.map row) := by
  rw [List.forall₂_map_left_iff, List.forall₂_map_right_iff, List.forall₂_same]
  exact fun c _ => .column c

/-- The predicate that counts the true columns. -/
theorem selects?_counted (hd : d ≠ .mysql) (hcs : cs ≠ []) :
    selects? d names.tableAlias row (Sql.xor d (cs.map fun c => (Expr.column c).operand d names)).result =
      some (decide (Odd ((cs.map row).count (some true)))) := by
  have hspelled : Spells d (Sql.xor d (cs.map fun c => (Expr.column c).operand d names)).result
      (.xor d (cs.map (.columnCondition d names.tableAlias))) := by
    refine .xor hd ?_
    rw [List.forall₂_map_left_iff, List.forall₂_map_right_iff, List.forall₂_same]
    exact fun c _ => .columnCondition d names c
  have hcomment : (Doc.xor d (cs.map (.columnCondition d names.tableAlias))).comment noSign = false := by
    unfold Doc.xor Doc.remainder
    split <;> simp [comment_joined]
  have hholds := Doc.Holds.xor (holds_columns (d := d) row names.tableAlias cs) (by simpa using hcs)
  rw [hholds.selects? hspelled hcomment]
  simp

/-- The predicate with the operator of MySQL. One column stands alone. -/
theorem selects?_operator (hcs : cs ≠ []) :
    selects? .mysql names.tableAlias row
        (Sql.xor .mysql (cs.map fun c => (Expr.column c).operand .mysql names)).result =
      some (decide (Odd ((cs.map row).count (some true)) ∧ none ∉ cs.map row)) := by
  match cs, hcs with
  | [c], _ =>
    have hholds : (Doc.columnCondition .mysql names.tableAlias c).Holds .mysql names.tableAlias row (row c) := .column c
    have hselects := hholds.selects? (.columnCondition .mysql names c) comment_columnCondition
    exact hselects.trans (congrArg some (foldl_xor_beq_true (row c) []))
  | c :: c' :: cs, _ =>
    have hspelled : Spells .mysql (allOf .mysql InfixOp.xor.text
        ((c :: c' :: cs).map fun c => (Expr.column c).operand .mysql names)).result
        (.parens (.joined .xor ((c :: c' :: cs).map (.columnCondition .mysql names.tableAlias)))) := by
      refine .allOf .xor (by simp) ?_
      rw [List.forall₂_map_left_iff, List.forall₂_map_right_iff, List.forall₂_same]
      exact fun c _ => .groupedColumn .mysql names c
    have hcomment : (Doc.joined .xor ((c :: c' :: cs).map (.columnCondition .mysql names.tableAlias))).comment noSign =
        false := by
      rw [comment_joined]
      simp
    have hchain : (Doc.joined .xor ((c :: c' :: cs).map (.columnCondition .mysql names.tableAlias))).Holds .mysql
        names.tableAlias row (((c' :: cs).map row).foldl (Option.map₂ Bool.xor) (row c)) :=
      .foldl_xor (.column c) rfl (holds_columns row names.tableAlias (c' :: cs)) (List.forall_mem_map.2 fun _ _ => rfl)
    exact (hchain.parens.selects? hspelled hcomment).trans (congrArg some (foldl_xor_beq_true _ _))

end

end Sql

namespace Expr

open Sql

/-- The function is written from its arguments as they are, in letters of any case. -/
theorem compileCondition_xor {name : String} (hname : Text.upper name = "XOR") (d : Dialect) (names : Naming)
    (es : List Expr) : ((call (some name) es).compileCondition d names).fragment =
      (Sql.xor d (es.map (operand d names))).result := by
  have hbuiltin : Builtin.ofName? (Text.upper name) = some .xor := by
    rw [hname]
    decide
  have hsql : sqlOf d names (call (some name) es) = (Sql.xor d (es.map (operand d names))).result := by
    rw [sqlOf, sql_operand_builtin hbuiltin (by decide) rfl]
  rw [Weighs.compileCondition_of_predicate (by rw [hsql]; exact isPredicate_xor), hsql]

/-- Exclusive or is odd parity. The predicate of XOR over columns selects a row exactly if an odd number of them are
true, and in MySQL none of them is NULL. -/
theorem xor_selects_odd {name : String} (hname : Text.upper name = "XOR") {cs : List String} (hcs : cs ≠ [])
    (d : Dialect) (names : Naming) (row : String → Option Bool) :
    selects? d names.tableAlias row ((call (some name) (cs.map column)).compileCondition d names).fragment =
      some (decide (Odd ((cs.map row).count (some true)) ∧ (d = .mysql → none ∉ cs.map row))) := by
  rw [compileCondition_xor hname, List.map_map]
  by_cases hd : d = .mysql
  · subst hd
    simpa [Function.comp_def] using selects?_operator names row hcs
  · simpa [hd, Function.comp_def] using selects?_counted names row hd hcs

theorem xor_selects_odd_counted :
    let e := call (some "Xor") (["a", "b", "c"].map column)
    let names : Naming := ⟨none, some "t", "id"⟩
    let row (c : String) : Option Bool := if c = "a" then some true else if c = "b" then none else some false
    (e.compileCondition .oracle names).fragment.text =
      "(MOD((CASE WHEN \"t\".\"a\" <> 0 THEN 1 ELSE 0 END + CASE WHEN \"t\".\"b\" <> 0 THEN 1 ELSE 0 END + " ++
        "CASE WHEN \"t\".\"c\" <> 0 THEN 1 ELSE 0 END), 2) = 1)" ∧
    selects? .oracle (some "t") row (e.compileCondition .oracle names).fragment = some true := by
  intro e names row
  have hodd : decide (Odd ((["a", "b", "c"].map row).count (some true)) ∧
      (Dialect.oracle = .mysql → none ∉ ["a", "b", "c"].map row)) = true := by decide
  exact ⟨by decide, (xor_selects_odd (by decide) (by simp) .oracle names row).trans (congrArg some hodd)⟩

/-- One of two columns is true and the other NULL, and MySQL alone does not select the row. -/
theorem xor_selects_odd_null :
    let compiled (d : Dialect) : Fragment :=
      ((call (some "XOR") [column "a", column "b"]).compileCondition d .default).fragment
    let row (c : String) : Option Bool := if c = "a" then some true else none
    (compiled .mysql).text = "(`a` XOR `b`)" ∧ ["a", "b"].map row = [some true, none] ∧
      ∀ d, selects? d none row (compiled d) = some (d != .mysql) := by
  intro compiled row
  have hxor (d : Dialect) : compiled d =
      (Sql.xor d (["a", "b"].map fun c => (column c).operand d .default)).result :=
    compileCondition_xor (by decide) d .default _
  refine ⟨by decide, by decide, fun d => ?_⟩
  rw [hxor]
  by_cases hd : d = .mysql
  · subst hd
    exact (selects?_operator .default row (by simp)).trans (by decide)
  · rw [bne_iff_ne.2 hd]
    exact (selects?_counted .default row hd (by simp)).trans (by decide)

end Expr

end SheetQuery
