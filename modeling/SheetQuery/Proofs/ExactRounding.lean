import Mathlib.Algebra.Order.Round
import Mathlib.Algebra.Ring.Int.Parity
import Mathlib.Data.Rat.Floor
import Mathlib.Tactic.Linarith
import SheetQuery.Proofs.Evaluation
import SheetQuery.Proofs.Parity

/-! Rounding in exact arithmetic. The SQL of CEILING, FLOOR, EVEN and ODD is evaluated over the rationals. SQLite has no
functions for the ceiling and the floor and makes them from truncation and a comparison. In every dialect each gives the
integer that its name says. -/

namespace SheetQuery

/-- The integer of least magnitude with a property that is no less than a number in magnitude, on the same side of zero
as the number. -/
structure AwayFromZero (P : ℤ → Prop) (v : ℚ) (n : ℤ) : Prop where
  holds : P n
  le_abs : |v| ≤ |(n : ℚ)|
  least : ∀ m, P m → |v| ≤ |(m : ℚ)| → |n| ≤ |m|
  nonneg : 0 ≤ v → 0 ≤ n
  neg : v < 0 → n < 0

namespace AwayFromZero

variable {P : ℤ → Prop} {v : ℚ} {m n : ℤ}

theorem unique (hm : AwayFromZero P v m) (hn : AwayFromZero P v n) : m = n := by
  have habs : |m| = |n| := le_antisymm (hm.least n hn.holds hn.le_abs) (hn.least m hm.holds hm.le_abs)
  rcases le_or_gt 0 v with hv | hv
  · rwa [abs_of_nonneg (hm.nonneg hv), abs_of_nonneg (hn.nonneg hv)] at habs
  · rwa [abs_of_neg (hm.neg hv), abs_of_neg (hn.neg hv), neg_inj] at habs

variable (hP : ∀ m, P (-m) ↔ P m)
include hP

/-- From zero upwards, magnitudes can be left out. -/
theorem of_nonneg (hv : 0 ≤ v) (hn : 0 ≤ n) (h : P n) (hle : v ≤ n) (hleast : ∀ m : ℤ, P m → v ≤ m → n ≤ m) :
    AwayFromZero P v n where
  holds := h
  le_abs := by rwa [abs_of_nonneg hv, abs_of_nonneg (by exact_mod_cast hn)]
  least m hm hmv := by
    have habs : P |m| := by
      rcases abs_choice m with hm' | hm' <;> rw [hm']
      · exact hm
      · exact (hP m).2 hm
    rw [abs_of_nonneg hn]
    exact hleast |m| habs (by rwa [Int.cast_abs, ← abs_of_nonneg hv])
  nonneg _ := hn
  neg hneg := absurd hv (not_le.2 hneg)

/-- What is below zero is the mirror image of what is above. -/
theorem of_neg (hv : v < 0) (h : AwayFromZero P (-v) n) : AwayFromZero P v (-n) where
  holds := (hP n).2 h.holds
  le_abs := by simpa using h.le_abs
  least m hm hle := by simpa using h.least m hm (by simpa using hle)
  nonneg hle := absurd hle (not_le.2 hv)
  neg _ := by
    have hnonneg : 0 ≤ n := h.nonneg (by linarith)
    have hne : n ≠ 0 := by
      rintro rfl
      have hle := h.le_abs
      simp only [abs_neg, Int.cast_zero, abs_zero] at hle
      exact absurd (abs_nonpos_iff.1 hle) hv.ne
    omega

omit hP

theorem even_of_nonneg (hv : 0 ≤ v) : AwayFromZero Even v (⌈v / 2⌉ * 2) := by
  have hceil := Int.le_ceil (v / 2)
  refine .of_nonneg (fun m => even_neg) hv ?_ ⟨⌈v / 2⌉, by ring⟩ ?_ ?_
  · have hnonneg : 0 ≤ ⌈v / 2⌉ := Int.ceil_nonneg (by linarith)
    omega
  · push_cast
    linarith
  · rintro m ⟨k, rfl⟩ hm
    have hk : ⌈v / 2⌉ ≤ k := by
      rw [Int.ceil_le]
      push_cast at hm
      linarith
    omega

theorem odd_of_nonneg (hv : 0 ≤ v) : AwayFromZero Odd v (⌈(v + 1) / 2⌉ * 2 - 1) := by
  have hceil := Int.le_ceil ((v + 1) / 2)
  refine .of_nonneg (fun m => odd_neg) hv ?_ ⟨⌈(v + 1) / 2⌉ - 1, by ring⟩ ?_ ?_
  · have hpos : 0 < ⌈(v + 1) / 2⌉ := Int.ceil_pos.2 (by linarith)
    omega
  · push_cast
    linarith
  · rintro m ⟨k, rfl⟩ hm
    have hk : ⌈(v + 1) / 2⌉ ≤ k + 1 := by
      rw [Int.ceil_le]
      push_cast at hm ⊢
      linarith
    omega

theorem even_of_neg (hv : v < 0) : AwayFromZero Even v (⌊v / 2⌋ * 2) := by
  have hmirror := AwayFromZero.of_neg (fun m => even_neg) hv (even_of_nonneg (by linarith))
  have hfloor : -(⌈-v / 2⌉ * 2) = ⌊v / 2⌋ * 2 := by
    rw [neg_div, Int.ceil_neg]
    ring
  rwa [hfloor] at hmirror

theorem odd_of_neg (hv : v < 0) : AwayFromZero Odd v (⌊(v - 1) / 2⌋ * 2 + 1) := by
  have hmirror := AwayFromZero.of_neg (fun m => odd_neg) hv (odd_of_nonneg (by linarith))
  have hfloor : -(⌈(-v + 1) / 2⌉ * 2 - 1) = ⌊(v - 1) / 2⌋ * 2 + 1 := by
    rw [show (-v + 1) / 2 = -((v - 1) / 2) by ring, Int.ceil_neg]
    ring
  rwa [hfloor] at hmirror

theorem iff_eq (h : AwayFromZero P v n) : AwayFromZero P v m ↔ m = n := by
  constructor
  · exact fun hm => hm.unique h
  · rintro rfl
    exact h

theorem even_iff (v : ℚ) (m : ℤ) :
    AwayFromZero Even v m ↔ m = if 0 ≤ v then ⌈v / 2⌉ * 2 else ⌊v / 2⌋ * 2 := by
  split_ifs with hv
  · exact (even_of_nonneg hv).iff_eq
  · exact (even_of_neg (not_le.1 hv)).iff_eq

theorem odd_iff (v : ℚ) (m : ℤ) :
    AwayFromZero Odd v m ↔ m = if 0 ≤ v then ⌈(v + 1) / 2⌉ * 2 - 1 else ⌊(v - 1) / 2⌋ * 2 + 1 := by
  split_ifs with hv
  · exact (odd_of_nonneg hv).iff_eq
  · exact (odd_of_neg (not_le.1 hv)).iff_eq

end AwayFromZero

def RoundsTo : Builtin → ℚ → ℤ → Prop
  | .ceiling, v, n => n = ⌈v⌉
  | .floor, v, n => n = ⌊v⌋
  | .even, v, n => AwayFromZero Even v n
  | .odd, v, n => AwayFromZero Odd v n
  | _, _, _ => False

namespace Sql

inductive Scalar
  | integer (n : ℤ)
  | real (q : ℚ)
  | truth (b : Bool)

namespace Scalar

def number? : Scalar → Option ℚ
  | integer n => some n
  | real q => some q
  | truth _ => none

@[simp] theorem number?_integer (n : ℤ) : (integer n).number? = some (n : ℚ) := rfl

@[simp] theorem number?_real (q : ℚ) : (real q).number? = some q := rfl

def truncate (q : ℚ) : ℤ := if 0 ≤ q then ⌊q⌋ else ⌈q⌉

/-- An operation that keeps to the integers. -/
def arithmetic (onIntegers : ℤ → ℤ → ℤ) (onReals : ℚ → ℚ → ℚ) : Scalar → Scalar → Option Scalar
  | integer m, integer n => some (integer (onIntegers m n))
  | x, y => do return real (onReals (← x.number?) (← y.number?))

/-- The quotient. MySQL and Oracle divide integers exactly, the other dialects drop the remainder. -/
def quotient (d : Dialect) : Scalar → Scalar → Option Scalar
  | integer m, integer n =>
    if n = 0 then none
    else if d = .mysql ∨ d = .oracle then some (real (m / n)) else some (integer (m.tdiv n))
  | x, y => do
    let r ← y.number?
    if r = 0 then none else return real ((← x.number?) / r)

/-- What a comparison gives. MySQL and SQLite have one and zero for its outcome. -/
def outcome (d : Dialect) (b : Bool) : Scalar :=
  if d = .mysql ∨ d = .sqlite then integer (if b then 1 else 0) else truth b

def comparison (d : Dialect) (holds : ℚ → ℚ → Bool) (x y : Scalar) : Option Scalar := do
  return outcome d (holds (← x.number?) (← y.number?))

def operate (d : Dialect) : InfixOp → Scalar → Scalar → Option Scalar
  | .add => arithmetic (· + ·) (· + ·)
  | .sub => arithmetic (· - ·) (· - ·)
  | .mul => arithmetic (· * ·) (· * ·)
  | .div => quotient d
  | .lt => comparison d fun q r => decide (q < r)
  | .gt => comparison d fun q r => decide (q > r)
  | .ge => comparison d fun q r => decide (q ≥ r)
  | _ => fun _ _ => none

def isFloatType : Dialect → Term → Bool
  | .mysql, .word s => s = "DOUBLE"
  | .postgres, .run [.word s, .word t] => s = "DOUBLE" && t = "PRECISION"
  | .mssql, .word s | .oracle, .word s => s = "FLOAT"
  | .sqlite, .word s => s = "REAL"
  | _, _ => false

/-- A cast. SQLite has integers cut off the fraction. -/
def castTo (d : Dialect) (type : Term) (x : Scalar) : Option Scalar := do
  let q ← x.number?
  if isFloatType d type then some (real q)
  else
    match d, type with
    | .sqlite, .word "INTEGER" => some (integer (truncate q))
    | _, _ => none

def rounding (d : Dialect) (f : String) (x : Scalar) : Option Scalar := do
  let q ← x.number?
  if f = "CEILING" ∧ d = .mssql ∨ f = "CEIL" ∧ d ≠ .mssql ∧ d ≠ .sqlite then some (real ⌈q⌉)
  else if f = "FLOOR" ∧ d ≠ .sqlite then some (real ⌊q⌋)
  else none

def holds? (d : Dialect) : Scalar → Option Bool
  | truth b => some b
  | integer n => if d = .mysql ∨ d = .sqlite then some (n != 0) else none
  | real _ => none

end Scalar

def exactEngine (d : Dialect) (table : Option String) (row : String → Scalar) : Engine Scalar where
  word s := (numeral? s).map fun n => .integer n
  column t c := if t = none ∨ t = table then some (row c) else none
  operator := Scalar.operate d
  convert f type x := if f = "CAST" then Scalar.castTo d type x else none
  call f
    | [x] => Scalar.rounding d f x
    | _ => none
  holds := Scalar.holds? d

namespace Scalar

variable {x y : Scalar} {q r : ℚ}

theorem exists_arithmetic {onIntegers : ℤ → ℤ → ℤ} {onReals : ℚ → ℚ → ℚ}
    (h : ∀ m n : ℤ, (onIntegers m n : ℚ) = onReals m n) (hx : x.number? = some q) (hy : y.number? = some r) :
    ∃ z, arithmetic onIntegers onReals x y = some z ∧ z.number? = some (onReals q r) := by
  cases x <;> cases y <;> simp_all [arithmetic, number?]

theorem quotient_real (d : Dialect) (hy : y.number? = some r) (hr : r ≠ 0) :
    quotient d (real q) y = some (real (q / r)) := by
  cases y <;> simp_all [quotient, number?]

theorem comparison_eq (d : Dialect) (holds : ℚ → ℚ → Bool) (hx : x.number? = some q) (hy : y.number? = some r) :
    comparison d holds x y = some (outcome d (holds q r)) := by
  simp [comparison, hx, hy]

theorem truncate_add_gt (q : ℚ) : truncate q + (if q > truncate q then 1 else 0) = ⌈q⌉ := by
  unfold truncate
  by_cases hq : 0 ≤ q
  · have hfloor := Int.floor_le q
    have hlt := Int.lt_floor_add_one q
    rw [if_pos hq, eq_comm, Int.ceil_eq_iff]
    split_ifs with h <;> push_cast <;> constructor <;> linarith
  · rw [if_neg hq, if_neg (not_lt.2 (Int.le_ceil q)), add_zero]

theorem truncate_sub_lt (q : ℚ) : truncate q - (if q < truncate q then 1 else 0) = ⌊q⌋ := by
  unfold truncate
  by_cases hq : 0 ≤ q
  · rw [if_pos hq, if_neg (not_lt.2 (Int.floor_le q)), sub_zero]
  · have hceil := Int.le_ceil q
    have hlt := Int.ceil_lt_add_one q
    rw [if_neg hq, eq_comm, Int.floor_eq_iff]
    split_ifs with h <;> push_cast <;> constructor <;> linarith

theorem holds?_outcome (d : Dialect) (b : Bool) : (outcome d b).holds? d = some b := by
  unfold outcome
  split <;> cases b <;> simp_all [holds?]

end Scalar

theorem Doc.Evaluates.numeral {d : Dialect} {table : Option String} {row : String → Scalar} {s : String} {n : Nat} {hk}
    (hs : (Item.word s).kind = .operand) (hn : numeral? s = some n) :
    (Doc.keyword s hk).Evaluates (exactEngine d table row) (.integer n) :=
  .keyword hs (by simp [exactEngine, hn])

/-- A number truncated in SQLite. -/
theorem Doc.Evaluates.truncated {table : Option String} {row : String → Scalar} {g : Doc} {x : Scalar} {q : ℚ}
    (h : g.Evaluates (exactEngine .sqlite table row) x) (hq : x.number? = some q) :
    (Doc.cast g (.keyword "INTEGER")).Evaluates (exactEngine .sqlite table row) (.integer (Scalar.truncate q)) := by
  refine h.cast (.words ["INTEGER"] (by decide) (by simp)) ?_
  simp [exactEngine, Scalar.castTo, hq, Term.ofRun, Scalar.isFloatType]

/-- A number compared with itself truncated, which SQLite makes one or zero. -/
theorem Doc.Evaluates.againstTruncated {table : Option String} {row : String → Scalar} {g : Doc} {x : Scalar} {q : ℚ}
    {o : InfixOp} {holds : ℚ → ℚ → Bool} (hop : Scalar.operate .sqlite o = Scalar.comparison .sqlite holds)
    (h : g.Evaluates (exactEngine .sqlite table row) x) (hq : x.number? = some q)
    (hg : ∀ u ∈ g.operators, o.level ≤ u.level) :
    (Doc.parens (.binary o g (.cast g (.keyword "INTEGER")))).Evaluates (exactEngine .sqlite table row)
      (.integer (if holds q (Scalar.truncate q) then 1 else 0)) := by
  have houtcome : (exactEngine .sqlite table row).operator o x (.integer (Scalar.truncate q)) =
      some (.outcome .sqlite (holds q (Scalar.truncate q))) := by
    rw [show (exactEngine .sqlite table row).operator o = _ from hop]
    exact Scalar.comparison_eq .sqlite holds hq (Scalar.number?_integer _)
  exact (h.binary (h.truncated hq) hg rfl houtcome).parens

def Doc.HasNumber (d : Dialect) (table : Option String) (row : String → Scalar) (g : Doc) (q : ℚ) : Prop :=
  ∃ x, g.Evaluates (exactEngine d table row) x ∧ x.number? = some q

namespace Doc.HasNumber

variable {d : Dialect} {table : Option String} {row : String → Scalar} {g l r : Doc} {q q' : ℚ}

theorem arithmetic {op : InfixOp} {onIntegers : ℤ → ℤ → ℤ} {onReals : ℚ → ℚ → ℚ}
    (hop : Scalar.operate d op = Scalar.arithmetic onIntegers onReals)
    (hint : ∀ m n : ℤ, (onIntegers m n : ℚ) = onReals m n) (hl : l.HasNumber d table row q)
    (hr : r.HasNumber d table row q') (hlo : ∀ o ∈ l.operators, op.level ≤ o.level)
    (hro : unbroken op.level r.operators = true) : (Doc.binary op l r).HasNumber d table row (onReals q q') := by
  obtain ⟨x, hx, hxq⟩ := hl
  obtain ⟨y, hy, hyq⟩ := hr
  obtain ⟨z, hz, hzq⟩ := Scalar.exists_arithmetic hint hxq hyq
  exact ⟨z, hx.binary hy hlo hro (by rw [← hz, ← hop]; rfl), hzq⟩

/-- As a floating-point number. -/
theorem castFloat (h : g.HasNumber d table row q) :
    (Doc.cast g (floatDoc d)).Evaluates (exactEngine d table row) (.real q) := by
  obtain ⟨x, hx, hq⟩ := h
  obtain ⟨type, htype, hfloat⟩ : ∃ type, ReadsAs (floatDoc d).items type ∧ Scalar.isFloatType d type = true := by
    cases d
    case mysql => exact ⟨_, .words ["DOUBLE"] (by decide) (by simp), rfl⟩
    case postgres => exact ⟨_, .words ["DOUBLE", "PRECISION"] (by decide) (by simp), rfl⟩
    case sqlite => exact ⟨_, .words ["REAL"] (by decide) (by simp), rfl⟩
    all_goals exact ⟨_, .words ["FLOAT"] (by decide) (by simp), rfl⟩
  exact hx.cast htype (by simp [exactEngine, Scalar.castTo, hq, hfloat])

theorem half (h : g.Evaluates (exactEngine d table row) (.real q))
    (hg : ∀ o ∈ g.operators, InfixOp.div.level ≤ o.level) :
    (Doc.binary .div g (.keyword "2")).Evaluates (exactEngine d table row) (.real (q / 2)) := by
  have htwo : (Doc.keyword "2").Evaluates (exactEngine d table row) (.integer 2) := .numeral (by decide) (by decide)
  exact h.binary htwo hg rfl (Scalar.quotient_real d (Scalar.number?_integer 2) two_ne_zero)

/-- Half of a number with one added or taken away. -/
theorem halfBeside {op : InfixOp} {onIntegers : ℤ → ℤ → ℤ} {onReals : ℚ → ℚ → ℚ}
    (hop : Scalar.operate d op = Scalar.arithmetic onIntegers onReals) (h : g.HasNumber d table row q) :
    (Doc.halfBeside d op g).Evaluates (exactEngine d table row) (.real (onReals q 1 / 2)) := by
  have hone : (Doc.keyword "1").Evaluates (exactEngine d table row) (.integer 1) := .numeral (by decide) (by decide)
  have hbeside : (exactEngine d table row).operator op (.real q) (.integer 1) = some (.real (onReals q 1)) := by
    rw [show (exactEngine d table row).operator op = _ from hop]
    simp [Scalar.arithmetic]
  have hsum := (h.castFloat.binary hone (by simp [Doc.cast, Doc.operators]) rfl hbeside).parens
  exact half hsum (by simp [Doc.operators])

/-- A choice by sign. -/
theorem bySign {v yes no : Doc} {a b : ℚ} (hv : v.HasNumber d table row q)
    (hlo : ∀ o ∈ v.operators, InfixOp.ge.level ≤ o.level) (hyes : yes.HasNumber d table row a)
    (hno : no.HasNumber d table row b) : (Doc.bySign v yes no).HasNumber d table row (if 0 ≤ q then a else b) := by
  obtain ⟨x, hx, hq⟩ := hv
  obtain ⟨y, hy, hya⟩ := hyes
  obtain ⟨z, hz, hzb⟩ := hno
  have hzero : (Doc.keyword "0").Evaluates (exactEngine d table row) (.integer 0) := .numeral (by decide) (by decide)
  have hcompared := Scalar.comparison_eq d (fun q r => decide (q ≥ r)) hq (Scalar.number?_integer 0)
  refine ⟨_, .choose (hx.binary hzero hlo rfl hcompared) (Scalar.holds?_outcome d _) hy hz, ?_⟩
  by_cases h : 0 ≤ q <;> simp [h, hya, hzb]

section
variable (h : g.HasNumber d table row q) (hg : ∀ o ∈ g.operators, InfixOp.gt.level ≤ o.level)
include h hg

/-- In SQLite, one is added where truncation made the number less. -/
theorem roundedUp : (Doc.roundedUp d g).HasNumber d table row ⌈q⌉ := by
  obtain ⟨x, hx, hq⟩ := h
  cases d
  case sqlite =>
    have hgreater := hx.againstTruncated (o := .gt) rfl hq hg
    refine ⟨_, ((hx.truncated hq).binary hgreater (by simp [Doc.cast, Doc.operators]) rfl rfl).parens, ?_⟩
    rw [← Scalar.truncate_add_gt]
    simp
  all_goals
    refine ⟨.real ⌈q⌉, .call (.cons hx .nil) (by simp) ?_, rfl⟩
    simp [exactEngine, Scalar.rounding, hq]

/-- In SQLite, one is taken away where truncation made the number greater. -/
theorem roundedDown : (Doc.roundedDown d g).HasNumber d table row ⌊q⌋ := by
  obtain ⟨x, hx, hq⟩ := h
  cases d
  case sqlite =>
    have hless := hx.againstTruncated (o := .lt) rfl hq hg
    refine ⟨_, ((hx.truncated hq).binary hless (by simp [Doc.cast, Doc.operators]) rfl rfl).parens, ?_⟩
    rw [← Scalar.truncate_sub_lt]
    simp
  all_goals
    refine ⟨.real ⌊q⌋, .call (.cons hx .nil) (by simp) ?_, rfl⟩
    simp [exactEngine, Scalar.rounding, hq]

end

/-- A rounded number doubled. -/
theorem double (h : g.HasNumber d table row q) (hg : g.isBracket = true) :
    (Doc.binary .mul g (.keyword "2")).HasNumber d table row (q * 2) ∧
      (Doc.binary .mul g (.keyword "2")).operators = [.between .mul] := by
  have hnone : g.operators = [] := by cases g <;> simp_all [Doc.isBracket, Doc.operators]
  have htwo : (Doc.keyword "2").HasNumber d table row 2 := ⟨.integer 2, .numeral (by decide) (by decide), by simp⟩
  exact ⟨arithmetic rfl Int.cast_mul h htwo (by simp [hnone]) rfl, by rw [Doc.operators, hnone]; rfl⟩

section
variable (h : g.HasNumber d table row q) (hg : ∀ o ∈ g.operators, InfixOp.ge.level ≤ o.level)
include h hg

theorem even : (Doc.even d g).HasNumber d table row (if 0 ≤ q then ⌈q / 2⌉ * 2 else ⌊q / 2⌋ * 2 : ℤ) := by
  have hhalf : (Doc.binary .div (.cast g (floatDoc d)) (.keyword "2")).HasNumber d table row (q / 2) :=
    ⟨_, half h.castFloat (by simp [Doc.cast, Doc.operators]), rfl⟩
  have hlo : ∀ o ∈ (Doc.binary .div (.cast g (floatDoc d)) (.keyword "2")).operators, InfixOp.gt.level ≤ o.level := by
    change ∀ o ∈ [Operator.between .div], _
    decide
  have hyes := (hhalf.roundedUp hlo).double (Doc.isBracket_roundedUp _)
  have hno := (hhalf.roundedDown hlo).double (Doc.isBracket_roundedDown _)
  rw [Int.cast_ite]
  push_cast
  exact bySign h hg hyes.1 hno.1

theorem odd : (Doc.odd d g).HasNumber d table row
    (if 0 ≤ q then ⌈(q + 1) / 2⌉ * 2 - 1 else ⌊(q - 1) / 2⌋ * 2 + 1 : ℤ) := by
  have hone : (Doc.keyword "1").HasNumber d table row 1 := ⟨.integer 1, .numeral (by decide) (by decide), by simp⟩
  have hlo (op : InfixOp) : ∀ o ∈ (Doc.halfBeside d op g).operators, InfixOp.gt.level ≤ o.level := by
    change ∀ o ∈ [Operator.between .div], _
    decide
  have hup : (Doc.halfBeside d .add g).HasNumber d table row ((q + 1) / 2) := ⟨_, halfBeside rfl h, rfl⟩
  have hdown : (Doc.halfBeside d .sub g).HasNumber d table row ((q - 1) / 2) := ⟨_, halfBeside rfl h, rfl⟩
  obtain ⟨hyes, hyeso⟩ := (hup.roundedUp (hlo .add)).double (Doc.isBracket_roundedUp _)
  obtain ⟨hno, hnoo⟩ := (hdown.roundedDown (hlo .sub)).double (Doc.isBracket_roundedDown _)
  rw [Int.cast_ite]
  push_cast
  exact bySign h hg (arithmetic rfl Int.cast_sub hyes hone (by rw [hyeso]; decide) rfl)
    (arithmetic rfl Int.cast_add hno hone (by rw [hnoo]; decide) rfl)

end

end Doc.HasNumber

end Sql

namespace Expr

open Sql

variable {name : String} {f : Builtin} {c : String} {es : List Expr} {d : Dialect} {names : Naming}
  {row : String → Scalar}

/-- A call whose layout gives a number. -/
theorem number?_call (hname : Builtin.ofName? (Text.upper name) = some f) (hf : f ∉ [.avg, .add, .sum, .url])
    (htest : isTest d f = false) (hn : names.outputName = none) {shape : List Operand → Noted Fragment}
    (hshape : entry d names f = .shaped shape) {g : Doc}
    (hs : Spells d (shape ((column c :: es).map (operand d names))).result g) (hc : g.comment noSign = false) {q : ℚ}
    (hg : g.HasNumber d names.tableAlias row q) :
    (evaluate? (exactEngine d names.tableAlias row) d
      ((call (some name) (column c :: es)).compile d names).fragment).bind Scalar.number? = some q := by
  obtain ⟨x, hx, hq⟩ := hg
  rw [evaluate?_call hname hf htest hshape hs hc hx hn, Option.bind_some, hq]

/-- The SQL of CEILING, FLOOR, EVEN and ODD over a column gives in every dialect the integer that the function makes of
the number in it. -/
theorem rounding_gives_integer (hname : Builtin.ofName? (Text.upper name) = some f)
    (hf : f ∈ [.ceiling, .floor, .even, .odd]) (c : String) (es : List Expr) (d : Dialect) (names : Naming)
    (hn : names.outputName = none) (row : String → Scalar) {v : ℚ} (hv : (row c).number? = some v) :
    ∃ n : ℤ, (evaluate? (exactEngine d names.tableAlias row) d
        ((call (some name) (column c :: es)).compile d names).fragment).bind Scalar.number? = some (n : ℚ) ∧
      ∀ m, RoundsTo f v m ↔ m = n := by
  have hs : Spells d (arg d ((column c :: es).map (operand d names)) 0).result (.column names.tableAlias c) :=
    spells_column d names c
  have hcolumn : (Doc.column names.tableAlias c).HasNumber d names.tableAlias row v :=
    ⟨row c, .column (by simp [exactEngine]), hv⟩
  have hlo (op : InfixOp) : ∀ o ∈ (Doc.column names.tableAlias c).operators, op.level ≤ o.level := by
    simp [Doc.operators]
  simp only [List.mem_cons, List.not_mem_nil, or_false] at hf
  rcases hf with rfl | rfl | rfl | rfl
  · exact ⟨⌈v⌉, number?_call hname (by decide) rfl hn rfl hs.roundedUp (by simp) (hcolumn.roundedUp (hlo .gt)),
      fun m => Iff.rfl⟩
  · exact ⟨⌊v⌋, number?_call hname (by decide) rfl hn rfl hs.roundedDown (by simp) (hcolumn.roundedDown (hlo .gt)),
      fun m => Iff.rfl⟩
  · exact ⟨_, number?_call hname (by decide) rfl hn rfl hs.even (by simp [Doc.even, Doc.bySign])
      (hcolumn.even (hlo .ge)), AwayFromZero.even_iff v⟩
  · exact ⟨_, number?_call hname (by decide) rfl hn rfl hs.odd (by simp [Doc.odd, Doc.bySign, Doc.halfBeside])
      (hcolumn.odd (hlo .ge)), AwayFromZero.odd_iff v⟩

/-- Away from zero below it, and at zero itself. -/
theorem rounding_gives_integer_odd :
    let row (c : String) : Scalar := if c = "x" then .real (-5 / 2) else .integer 0
    let odd (d : Dialect) (c : String) : Option ℚ := (evaluate? (exactEngine d none row) d
      ((call (some "Odd") [column c]).compile d .default).fragment).bind Scalar.number?
    odd .sqlite "x" = some (-3) ∧ odd .mssql "y" = some 1 := by
  intro row odd
  have hname : Builtin.ofName? (Text.upper "Odd") = some .odd := by decide
  have hx : (row "x").number? = some (-5 / 2) := rfl
  have hy : (row "y").number? = some 0 := rfl
  obtain ⟨n, hn, hround⟩ := rounding_gives_integer hname (by simp) "x" [] .sqlite .default rfl row hx
  obtain ⟨m, hm, hround'⟩ := rounding_gives_integer hname (by simp) "y" [] .mssql .default rfl row hy
  obtain rfl : -3 = n := (hround (-3)).1 ((AwayFromZero.odd_iff _ _).2 (by norm_num))
  obtain rfl : 1 = m := (hround' 1).1 ((AwayFromZero.odd_iff _ _).2 (by norm_num))
  exact ⟨hn.trans (by simp), hm.trans (by simp)⟩

end Expr

end SheetQuery
