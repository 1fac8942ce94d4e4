import SheetQuery.Proofs.CanonicalForm
import SheetQuery.Proofs.Grammar.Table
import SheetQuery.Signature

/-! The SQL of every expression derives from the grammar: a fragment that says it is a predicate is one, and
any other is a value. -/

namespace SheetQuery

namespace Sql

/-- What the rules ask of a node: names that may be quoted, enough arguments, and where notices may arise only
operators of the language and words for names of functions. -/
def Rules.Meets (q : Rules) : Expr → Prop
  | .column name => q.mayName name
  | .binary op _ _ => q.loud → ∀ s, op ≠ .other s
  | .unary op _ => q.loud → ∀ s, op ≠ .other s
  | .call name args => ∀ n, name = some n →
    (q.loud → n.toList ≠ [] ∧ ∀ c ∈ n.toList, isWordChar c = true) ∧
      ∀ f, Builtin.ofName? (Text.upper n) = some f → q.lax ∨ leastArgs f ≤ args.length
  | _ => True

variable {d : Dialect} {q : Rules} {names : Naming} {x y : Operand}

theorem Fits.side (hx : Fits d q x) {op : BinaryOp} {right : Bool} (hq : Quiet q (sideOf d op right x)) :
    Writes d q (.of op.isLogical) (sideOf d op right x).result := by
  unfold sideOf at hq ⊢
  cases hl : op.isLogical <;> simp only [hl, Bool.false_eq_true, if_true, if_false] at hq ⊢
  case true => exact hx.conditionUnder hq
  case false => exact hx.valueUnder hq

theorem quiet_sides {op : BinaryOp} {o : InfixOp} (ho : infixOf? d op = some o) (hq : Quiet q (binary d op x y)) :
    Quiet q (sideOf d op false x) ∧ Quiet q (sideOf d op true y) := by
  cases op
  case concat | other => simp [infixOf?] at ho
  case mod =>
    have hd : d.hasPercent = true := by simpa [infixOf?] using congrArg Option.isSome ho
    simpa [binary, joined, sideOf, BinaryOp.isLogical, hd] using hq
  all_goals simpa [binary, binary.logical, binary.comparison, joined, sideOf, BinaryOp.isLogical] using hq

theorem Derives.infixOp {op : BinaryOp} {o : InfixOp} (ho : infixOf? d op = some o) {l r : Doc}
    (hl : Derives d q (.of op.isLogical) l) (hr : Derives d q (.of op.isLogical) r) :
    Derives d q (.of (op.isLogical || op.isComparison)) (.binary o l r) := by
  cases op
  case concat | other => simp [infixOf?] at ho
  case mod =>
    obtain ⟨-, rfl⟩ : d.hasPercent = true ∧ InfixOp.mod = o := by simpa [infixOf?] using ho
    exact .arithmetic rfl hl hr
  case and | or =>
    obtain rfl := Option.some.inj ho
    exact .logical rfl hl hr
  case add | sub | mul | div =>
    obtain rfl := Option.some.inj ho
    exact .arithmetic rfl hl hr
  all_goals
    obtain rfl := Option.some.inj ho
    exact .comparison rfl hl hr

theorem infix_fits {op : BinaryOp} {o : InfixOp} (ho : infixOf? d op = some o) (hx : Fits d q x) (hy : Fits d q y)
    (e : Expr) : Fits d q ⟨e, binary d op x y⟩ := by
  intro hq
  obtain ⟨hl, hr⟩ := quiet_sides ho hq
  obtain ⟨l, hl, dl⟩ := hx.side hl
  obtain ⟨r, hr, dr⟩ := hy.side hr
  refine ⟨_, binary_spelled ho hl hr, ?_⟩
  rw [isPredicate_binary ho]
  exact .infixOp ho dl dr

theorem binary_fits {op : BinaryOp} (hop : q.loud → ∀ s, op ≠ .other s) (hx : Fits d q x) (hy : Fits d q y)
    (e : Expr) : Fits d q ⟨e, binary d op x y⟩ := by
  cases ho : infixOf? d op with
  | some o => exact infix_fits ho hx hy e
  | none =>
    intro hq
    cases op
    case concat =>
      have hp : (binary d .concat x y).result.isPredicate = false := isPredicate_concat
      rw [hp]
      exact concat_writes (by simp [hx, hy]) hq
    case mod =>
      have hd : d.hasPercent = false := by simpa [infixOf?] using ho
      obtain ⟨hl, hr⟩ : Quiet q (x.value d) ∧ Quiet q (y.value d) := by simpa [binary, hd] using hq
      obtain ⟨l, hl, dl⟩ := hx.value hl
      obtain ⟨r, hr, dr⟩ := hy.value hr
      have hb : (binary d .mod x y).result = remainder d (x.value d).result (y.value d).result := by
        simp [binary, hd]
      have hp : (remainder d (x.value d).result (y.value d).result).isPredicate = false := by
        simp [remainder, hd]
      rw [hb, hp]
      exact ⟨_, hl.remainder hr, .remainder dl dr⟩
    case other s =>
      have hloud : q.loud := (by simpa [binary] using hq : _ ∧ _).1
      exact absurd rfl (hop hloud s)
    all_goals simp [infixOf?] at ho

theorem unary_fits {op : UnaryOp} (hop : q.loud → ∀ s, op ≠ .other s) (hx : Fits d q x) (e : Expr) :
    Fits d q ⟨e, unary d op x⟩ := by
  intro hq
  cases op with
  | minus =>
    simp only [unary] at hq ⊢
    split at hq
    · exact ⟨_, .bind _, .placeholder _⟩
    · obtain ⟨g, hg, dg⟩ := hx.grouped (by simpa using hq)
      exact ⟨_, hg.minus, .minus dg⟩
  | plus => exact hx hq
  | not =>
    obtain ⟨g, hg, dg⟩ := hx.condition (by simpa [unary] using hq)
    refine ⟨.not (.parens g), ⟨?_, ?_⟩, .not (.parens (.inr rfl) dg)⟩
    · simp [unary, hg.text]
    · simp [unary, hg.bindings]
  | other s =>
    have hloud : q.loud := (by simpa [unary] using hq : _ ∧ _).1
    exact absurd rfl (hop hloud s)

section
variable (ht : ∀ t ∈ names.tableAlias, q.mayName t) (hr : q.mayName names.recordIdColumn)
  (hlax : q.loud → q.lax)
include ht hr hlax

theorem call_fits {name : Option String} {es : List Expr} {args : List Operand} (hl : args.length = es.length)
    (hc : q.Meets (.call name es)) (hs : ∀ x ∈ args, Fits d q x) (e : Expr) :
    Fits d q ⟨e, call d names name args⟩ := by
  intro hq
  cases name with
  | none => exact ⟨.keyword "NULL" (by decide), ⟨rfl, rfl⟩, .number "NULL" _ (by decide)⟩
  | some n =>
    obtain ⟨hword, hleast⟩ := hc n rfl
    simp only [call] at hq ⊢
    cases hf : Builtin.ofName? (Text.upper n) with
    | some f =>
      simp only [hf] at hq
      have hp := isPredicate_entry d names args f
      have hw := entry_writes hs ht hr f (hl ▸ hleast f hf) hq
      rw [← hp] at hw
      exact hw
    | none =>
      simp only [hf, quiet_bind, quiet_notice] at hq
      obtain ⟨hne, hplain⟩ := hword hq.1
      exact Fits.nativeCall ⟨n, hne, hplain⟩ (.inl (hlax hq.1)) hs hq.2

/-- The SQL of an expression is of the sort that it says. -/
theorem write_fits {e : Expr} (he : e.Everywhere q.Meets) : Fits d q ⟨e, write d names e⟩ := by
  induction e using Expr.induct with
  | literal v => exact .literal v
  | column n =>
    intro _
    rw [write, Noted.result_pure, isPredicate_columnText]
    exact column_writes ht he.here
  | unsupported k => exact fun _ => ⟨.keyword "NULL" (by decide), ⟨rfl, rfl⟩, .number "NULL" _ (by decide)⟩
  | binary op l r ihl ihr =>
    cases he with
    | binary here left right => exact binary_fits here (ihl left) (ihr right) _
  | unary op e ih =>
    cases he with
    | unary here operand => exact unary_fits here (ih operand) _
  | call n args ih =>
    rw [write, operands_eq_map]
    exact call_fits ht hr hlax (by simp) he.here
      (List.forall_mem_map.2 fun e h => ih e h (he.args e h)) _

end

theorem stable_meets (q : Rules) : Expr.Stable q.Meets where
  literal _ := trivial
  binary h := h
  unary h := h
  call h hl n hn := ⟨(h n hn).1, hl ▸ (h n hn).2⟩
  operator h l r := by
    simp only [List.mem_cons, List.not_mem_nil, or_false] at h
    rcases h with rfl | rfl | rfl <;> exact fun _ => nofun
  function {name} h args n hn := by
    obtain rfl := Option.some.inj hn
    have hword : ∀ n ∈ ["SUM", "CONCAT", "FLOAT"], isName n.toList = true := by decide
    have hleast : ∀ n ∈ ["SUM", "CONCAT", "FLOAT"],
        (Builtin.ofName? (Text.upper n)).map leastArgs = some 0 := by decide
    refine ⟨fun _ => isWordChar_of_isName (hword _ h), fun f hf => .inr ?_⟩
    have hzero : leastArgs f = 0 := by simpa [hf] using hleast _ h
    omega

/-- Calls have their arguments, and no notice arises. -/
def Rules.strict : Rules := ⟨False, False, fun _ => True⟩

def Doc.under (name : Option String) (g : Doc) : Doc :=
  match name with
  | some n => .spaced g (.spaced (.keyword "AS" (by decide)) (.column none n))
  | none => g

end Sql

theorem Notice.firsts_eq_nil_iff {ns : List Notice} : firsts ns = [] ↔ ns = [] := by
  cases ns <;> simp [firsts]

/-- Compiling as a value adds the name of the result. -/
theorem Sql.Spells.under {d : Dialect} {names : Naming} {e : Expr} {g : Doc}
    (hs : Spells d ((e.operand d names).value d).result g) :
    Spells d (e.compile d names).fragment (g.under names.outputName) := by
  unfold Expr.compile
  cases names.outputName with
  | none => exact hs
  | some name =>
    constructor
    · simp [Doc.under, Fragment.push, hs.text]
    · simp [Doc.under, Fragment.push, hs.bindings]

namespace Expr

open Sql

variable {d : Dialect} {q : Rules} {names : Naming} {e : Expr}

section
variable (ht : ∀ t ∈ names.tableAlias, q.mayName t) (hr : q.mayName names.recordIdColumn)
  (hlax : q.loud → q.lax) (he : e.Everywhere q.Meets)
include ht hr hlax he

theorem operand_fits : Fits d q (e.operand d names) := write_fits ht hr hlax (he.canonical (stable_meets q))

theorem compile_laid_out (hq : q.loud ∨ (e.compile d names).notices = []) :
    ∃ g, Derives d q .value g ∧ Spells d (e.compile d names).fragment (g.under names.outputName) := by
  have hquiet : Quiet q ((e.operand d names).value d) := hq.imp_right Notice.firsts_eq_nil_iff.1
  obtain ⟨g, hs, hg⟩ := (operand_fits ht hr hlax he).value hquiet
  exact ⟨g, hg, .under hs⟩

theorem compileCondition_laid_out (hq : q.loud ∨ (e.compileCondition d names).notices = []) :
    ∃ g, Derives d q .predicate g ∧ Spells d (e.compileCondition d names).fragment g := by
  have hquiet : Quiet q ((e.operand d names).condition d) := hq.imp_right Notice.firsts_eq_nil_iff.1
  obtain ⟨g, hs, hg⟩ := (operand_fits ht hr hlax he).condition hquiet
  exact ⟨g, hg, hs⟩

end

/-- A call of a built-in function that has as many arguments as its contract asks for. -/
def IsAdmissible : Expr → Prop
  | .call (some n) args => ∀ f, Builtin.lookup n = some f → f.signature.arityFault? args.length = none
  | _ => True

theorem lookup_of_ofName? {n : String} {f : Builtin} (h : Builtin.ofName? (Text.upper n) = some f)
    (hf : f ≠ .float) : Builtin.lookup n = some f := by
  rw [Builtin.ofName?, Builtin.all, List.find?_cons] at h
  split at h
  · exact absurd (Option.some.inj h).symm hf
  · exact h

/-- A contract asks for the arguments that a function cannot do without. -/
theorem leastArgs_le {f : Builtin} {n : Nat} (h : f.signature.arityFault? n = none) : leastArgs f ≤ n := by
  cases f
  case and | or | xor | switch =>
    simp only [Builtin.signature, Signature.arityFault?, Arity.fault?, ite_eq_right_iff, reduceCtorEq, imp_false,
      not_lt] at h
    exact h
  all_goals exact Nat.zero_le n

theorem IsAdmissible.meets (h : IsAdmissible e) : Rules.strict.Meets e := by
  cases e with
  | call name args =>
    rintro n rfl
    refine ⟨False.elim, fun f hf => .inr ?_⟩
    by_cases hfloat : f = .float
    · subst hfloat
      exact Nat.zero_le _
    · exact leastArgs_le (h f (lookup_of_ofName? hf hfloat))
  | binary | unary => exact False.elim
  | _ => trivial

/-- Compiled without a notice, an expression whose calls have the arguments they ask for is a value or a
predicate as it was compiled, and in dialects that take neither for the other nothing is both. -/
theorem compile_well_sorted (hd : d = .mssql ∨ d = .oracle ∨ d = .postgres) (he : e.Everywhere IsAdmissible)
    (names : Naming) :
    (names.outputName = none → (e.compile d names).notices = [] →
      ∃ g, Spells d (e.compile d names).fragment g ∧ Derives d .strict .value g) ∧
    ((e.compileCondition d names).notices = [] →
      ∃ g, Spells d (e.compileCondition d names).fragment g ∧ Derives d .strict .predicate g) ∧
    (d ≠ .postgres → ∀ g, Derives d .strict .value g → ¬ Derives d .strict .predicate g) := by
  have hmeets : e.Everywhere Rules.strict.Meets := he.imp fun _ => IsAdmissible.meets
  refine ⟨fun hn hq => ?_, fun hq => ?_, fun hp g hv hp' => ?_⟩
  · obtain ⟨g, hg, hs⟩ := compile_laid_out (q := .strict) (fun _ _ => trivial) trivial False.elim hmeets (.inr hq)
    rw [hn] at hs
    exact ⟨g, hs, hg⟩
  · obtain ⟨g, hg, hs⟩ :=
      compileCondition_laid_out (q := .strict) (fun _ _ => trivial) trivial False.elim hmeets (.inr hq)
    exact ⟨g, hs, hg⟩
  · have hvalues : d.predicatesAreValues = false := by
      rcases hd with rfl | rfl | rfl
      · rfl
      · rfl
      · exact absurd rfl hp
    have htest := (hv.isTest_eq hvalues id).1 rfl
    simp [(hp'.isTest_eq hvalues id).2 rfl] at htest

/-- `AND(a, b) = c` in SQL Server: the conjunction is turned into a value to be compared, and the comparison
into a value to be the result. -/
theorem compile_well_sorted_conjunction :
    let e : Expr := .binary .eq (.call (some "AND") [.column "a", .column "b"]) (.column "c")
    (e.compile .mssql .default).fragment.text =
        "CASE WHEN CASE WHEN ([a] <> 0 AND [b] <> 0) THEN 1 ELSE 0 END = [c] THEN 1 ELSE 0 END" ∧
      (∃ g, Spells .mssql (e.compile .mssql .default).fragment g ∧ Derives .mssql .strict .value g) ∧
      ∃ g, Spells .mssql (e.compileCondition .mssql .default).fragment g ∧ Derives .mssql .strict .predicate g := by
  intro e
  have hand : IsAdmissible (.call (some "AND") [.column "a", .column "b"]) := by
    intro f hf
    obtain rfl : Builtin.and = f := Option.some.inj ((by decide : _ = some Builtin.and).symm.trans hf)
    rfl
  have hcolumn (n : String) : (column n).Everywhere IsAdmissible := .column trivial
  have he : e.Everywhere IsAdmissible := .binary trivial (.call hand (by simp [hcolumn])) (hcolumn "c")
  have hsorted := compile_well_sorted (.inl rfl) he .default
  exact ⟨by decide, hsorted.1 rfl (by decide), hsorted.2.1 (by decide)⟩

end Expr

end SheetQuery
