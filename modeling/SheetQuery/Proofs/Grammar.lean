import SheetQuery.Proofs.Layouts.Logic

/-! A grammar of SQL with two sorts of expressions. Comparisons, AND, OR, NOT, IS NULL and REGEXP_LIKE build
predicates; operands of comparisons and arithmetic, arguments of functions and the results of a choice are
values; only the conditions of a choice and the operands of AND, OR and NOT are predicates. Where a dialect
takes predicates for values, or values for predicates, the one derives the other. -/

namespace SheetQuery

namespace Sql

inductive Category
  | value
  | predicate
  /-- What stands between the parentheses of a call. -/
  | arguments
  /-- A value and the cases it is compared with. -/
  | cases
deriving DecidableEq, Repr

def Category.of (isPredicate : Bool) : Category := if isPredicate then predicate else value

structure Rules where
  /-- Whether functions may lack arguments that they need. -/
  lax : Prop
  /-- Whether notices may arise. -/
  loud : Prop
  /-- The names that may be quoted. -/
  mayName : String → Prop

def InfixOp.isArithmetic : InfixOp → Bool
  | add | sub | mul | div | mod | pipe | path => true
  | _ => false

def InfixOp.isComparison : InfixOp → Bool
  | eq | ne | lt | gt | le | ge | tilde | regexp => true
  | _ => false

def InfixOp.isLogical : InfixOp → Bool
  | and | or | xor => true
  | _ => false

def isConstant (s : String) : Bool :=
  ["NULL", "CURRENT_TIMESTAMP", "@@DATEFIRST"].contains s || s.toList.all fun c => c.isDigit || c == '.'

/-- The words that build predicates and choices. No argument has one on its own. -/
def isReserved (s : String) : Bool :=
  ["AND", "OR", "XOR", "NOT", "IS", "REGEXP", "CASE", "WHEN", "THEN", "ELSE", "END", "SELECT"].contains s

def isFunction (s : String) : Bool := !isReserved s && s != "REGEXP_LIKE"

def Doc.case (g v w : Doc) : Doc :=
  .spaced g (.spaced (.keyword "WHEN") (.spaced v (.spaced (.keyword "THEN") w)))

inductive Derives (d : Dialect) (q : Rules) : Category → Doc → Prop
  | placeholder (v : Binding) : Derives d q .value (.value v)
  | text (s : String) : Derives d q .value (.text s)
  | column {table : Option String} {name : String} (ht : ∀ t ∈ table, q.mayName t) (hn : q.mayName name) :
    Derives d q .value (.column table name)
  | constant {w : Word} (h : w.text ≠ "CASE" ∧ w.text ≠ "END") (hw : isConstant w.text = true) :
    Derives d q .value (.word w h)
  | arithmetic {op : InfixOp} {l r : Doc} (hop : op.isArithmetic = true) (hl : Derives d q .value l)
    (hr : Derives d q .value r) : Derives d q .value (.binary op l r)
  | minus {g : Doc} (hg : Derives d q .value g) : Derives d q .value (.minus g)
  | call {w : Word} {g : Doc} (hw : q.lax ∨ isFunction w.text = true) (hg : Derives d q .arguments g) :
    Derives d q .value (.call w g)
  | interval (s : String) : Derives d q .value (.spaced (.keyword "INTERVAL") (.text s))
  | overRows {w : Word} {g : Doc} (hg : Derives d q .arguments g) : Derives d q .value (.overRows w g)
  | given {test yes : Doc} (ht : Derives d q .predicate test) (hy : Derives d q .value yes) :
    Derives d q .value (.given test yes)
  | chosen {test yes no : Doc} (ht : Derives d q .predicate test) (hy : Derives d q .value yes)
    (hn : Derives d q .value no) : Derives d q .value (.chosen test yes no)
  | matched {g : Doc} (hg : Derives d q .cases g) : Derives d q .value (.choice g)
  | matchedOr {g v : Doc} (hg : Derives d q .cases g) (hv : Derives d q .value v) :
    Derives d q .value (.choice (.spaced g (.spaced (.keyword "ELSE") v)))
  | parens {s : Category} {g : Doc} (hs : s = .value ∨ s = .predicate) (hg : Derives d q s g) :
    Derives d q s (.parens g)
  | ofPredicate {g : Doc} (hd : d.predicatesAreValues = true) (hg : Derives d q .predicate g) :
    Derives d q .value g
  | comparison {op : InfixOp} {l r : Doc} (hop : op.isComparison = true) (hl : Derives d q .value l)
    (hr : Derives d q .value r) : Derives d q .predicate (.binary op l r)
  | logical {op : InfixOp} {l r : Doc} (hop : op.isLogical = true) (hl : Derives d q .predicate l)
    (hr : Derives d q .predicate r) : Derives d q .predicate (.binary op l r)
  | not {g : Doc} (hg : Derives d q .predicate g) : Derives d q .predicate (.not g)
  | isNull {g : Doc} (hg : Derives d q .value g) : Derives d q .predicate (.binary .is g (.keyword "NULL"))
  | isNotNull {g : Doc} (hg : Derives d q .value g) :
    Derives d q .predicate (.binary .is g (.not (.keyword "NULL")))
  | patternTest {g : Doc} (hg : Derives d q .arguments g) :
    Derives d q .predicate (.call (.of "REGEXP_LIKE") g)
  | toBoolean {g : Doc} (hd : d = .postgres) (hg : Derives d q .value g) :
    Derives d q .predicate (.cast g (.keyword "BOOLEAN"))
  | ofValue {g : Doc} (hd : d = .mysql ∨ d = .sqlite) (hg : Derives d q .value g) : Derives d q .predicate g
  | none : Derives d q .arguments .empty
  | argument {g : Doc} (hg : Derives d q .value g) : Derives d q .arguments g
  | particle {w : Word} (h : w.text ≠ "CASE" ∧ w.text ≠ "END") (hw : isReserved w.text = false) :
    Derives d q .arguments (.word w h)
  | spaced {l r : Doc} (hl : Derives d q .arguments l) (hr : Derives d q .arguments r) :
    Derives d q .arguments (.spaced l r)
  | listed {l r : Doc} (hl : Derives d q .arguments l) (hr : Derives d q .arguments r) :
    Derives d q .arguments (.listed l r)
  | firstCase {g v w : Doc} (hg : Derives d q .value g) (hv : Derives d q .value v) (hw : Derives d q .value w) :
    Derives d q .cases (g.case v w)
  | nextCase {g v w : Doc} (hg : Derives d q .cases g) (hv : Derives d q .value v) (hw : Derives d q .value w) :
    Derives d q .cases (g.case v w)
  | missing (s : Category) (h : q.lax) : Derives d q s .empty
  | caseless {g : Doc} (h : q.lax) (hg : Derives d q .value g) : Derives d q .cases g

def InfixOp.isTest (op : InfixOp) : Bool := op.isComparison || op.isLogical || op == .is

def Doc.isTest : Doc → Bool
  | binary op _ _ => op.isTest
  | not _ => true
  | call w _ => w.text == "REGEXP_LIKE"
  | parens g => g.isTest
  | _ => false

namespace Derives

variable {d : Dialect} {q : Rules} {g l r : Doc}

theorem number (s : String) (hk : isKeyword s.toList = true) (h : isConstant s = true) :
    Derives d q .value (.keyword s hk) := .constant _ h

theorem keyword (s : String) (hk : isKeyword s.toList = true) (h : isReserved s = false) :
    Derives d q .arguments (.keyword s hk) := .particle _ h

theorem apply (w : Word) (hw : isFunction w.text = true) (hg : Derives d q .value g) :
    Derives d q .value (.call w g) := .call (.inr hw) (.argument hg)

theorem apply₂ (w : Word) (hw : isFunction w.text = true) (hl : Derives d q .value l) (hr : Derives d q .value r) :
    Derives d q .value (.call w (.listed l r)) := .call (.inr hw) (.listed (.argument hl) (.argument hr))

theorem cast (hg : Derives d q .value g) (ht : Derives d q .arguments r) : Derives d q .value (.cast g r) :=
  .call (.inr (by decide)) (.spaced (.argument hg) (.spaced (.keyword "AS" _ (by decide)) ht))

theorem castKeyword (hg : Derives d q .value g) (s : String) (hk) (h : isReserved s = false) :
    Derives d q .value (.cast g (.keyword s hk)) := hg.cast (.keyword s hk h)

theorem oneIf (hg : Derives d q .predicate g) : Derives d q .value g.oneIf :=
  .chosen hg (.number "1" _ (by decide)) (.number "0" _ (by decide))

theorem toValue {p : Bool} (hg : Derives d q (.of p) g) : Derives d q .value (g.toValue d p) := by
  cases p with
  | false => exact hg
  | true =>
    unfold Doc.toValue
    split
    case isTrue => exact oneIf hg
    case isFalse hd => exact .ofPredicate (by simpa using hd) hg

theorem toCondition {p : Bool} (hg : Derives d q (.of p) g) : Derives d q .predicate (g.toCondition d p) := by
  cases p with
  | true => exact hg
  | false =>
    cases d
    case mysql | sqlite => exact .ofValue (by simp) hg
    case postgres => exact .toBoolean rfl hg
    case mssql | oracle => exact .comparison rfl hg (.number "0" _ (by decide))

theorem groupIf {s : Category} (hs : s = .value ∨ s = .predicate) (b : Bool) (hg : Derives d q s g) :
    Derives d q s (g.groupIf b) := by
  cases b with
  | false => exact hg
  | true => exact .parens hs hg

theorem list {gs : List Doc} (h : ∀ g ∈ gs, Derives d q .value g) : Derives d q .arguments (.list gs) := by
  induction gs with
  | nil => exact .none
  | cons g gs ih =>
    have hg := Derives.argument (h g List.mem_cons_self)
    cases gs with
    | nil => exact hg
    | cons g' gs => exact .listed hg (ih fun x hx => h x (List.mem_cons_of_mem g hx))

/-- A chain of an operator that joins two expressions of a category to one of it. -/
theorem joined {s : Category} {op : InfixOp} {gs : List Doc}
    (hop : ∀ l r, Derives d q s l → Derives d q s r → Derives d q s (.binary op l r)) (hl : q.lax ∨ gs ≠ [])
    (h : ∀ g ∈ gs, Derives d q s g) : Derives d q s (.joined op gs) := by
  cases gs with
  | nil => exact .missing s (hl.resolve_right fun hn => hn rfl)
  | cons g gs =>
    have hg := h g List.mem_cons_self
    replace h : ∀ g ∈ gs, Derives d q s g := fun x hx => h x (List.mem_cons_of_mem g hx)
    clear hl
    simp only [Doc.joined]
    induction gs generalizing g with
    | nil => exact hg
    | cons g' gs ih =>
      exact ih _ (hop g g' hg (h g' List.mem_cons_self)) fun x hx => h x (List.mem_cons_of_mem g' hx)

/-- In a dialect that takes neither sort for the other, a layout tells its sort. -/
theorem isTest_eq (hd : d.predicatesAreValues = false) (hq : ¬ q.lax) {s : Category} (h : Derives d q s g) :
    (s = .value → g.isTest = false) ∧ (s = .predicate → g.isTest = true) := by
  have hop (op : InfixOp) : op.isArithmetic = true → op.isTest = false := by cases op <;> decide
  have hop' (op : InfixOp) : op.isComparison = true → op.isTest = true := by cases op <;> decide
  have hop'' (op : InfixOp) : op.isLogical = true → op.isTest = true := by cases op <;> decide
  induction h with
  | arithmetic h _ _ => exact ⟨fun _ => hop _ h, nofun⟩
  | comparison h _ _ => exact ⟨nofun, fun _ => hop' _ h⟩
  | logical h _ _ => exact ⟨nofun, fun _ => hop'' _ h⟩
  | call hw _ =>
    have hname := (Bool.and_eq_true _ _ ▸ hw.resolve_left hq).2
    exact ⟨fun _ => by simpa [Doc.isTest] using hname, nofun⟩
  | parens _ _ ih => exact ih
  | ofPredicate h _ _ => simp [hd] at h
  | toBoolean h _ _ => simp [h, Dialect.predicatesAreValues] at hd
  | ofValue h _ _ => rcases h with rfl | rfl <;> simp [Dialect.predicatesAreValues] at hd
  | missing _ h => exact absurd h hq
  | not _ | isNull _ | isNotNull _ => exact ⟨nofun, fun _ => rfl⟩
  | patternTest _ => exact ⟨nofun, fun _ => rfl⟩
  | none | argument _ | particle _ | spaced _ _ | listed _ _ | firstCase _ _ _ | nextCase _ _ _ | caseless _ _ =>
    exact ⟨nofun, nofun⟩
  | _ => exact ⟨fun _ => rfl, nofun⟩

end Derives

/-- A fragment is laid out as the grammar says. -/
def Writes (d : Dialect) (q : Rules) (s : Category) (f : Fragment) : Prop :=
  ∃ g : Doc, Spells d f g ∧ Derives d q s g

end Sql

end SheetQuery
