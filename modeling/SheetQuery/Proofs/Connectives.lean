import SheetQuery.Proofs.OperandLaws
import SheetQuery.Proofs.Truth

/-! AND and OR as functions. A call of either says of its arguments what the connective says of them, as long as
the SQL of no argument comes apart: an argument whose SQL begins with a parenthesis gets none around it, and a call
with one argument is as bare as its argument. -/

namespace SheetQuery

namespace Sql.Connective

def builtin : Connective → Builtin
  | and => .and
  | or => .or

def ofName? (name : String) : Option Connective :=
  match Builtin.ofName? (Text.upper name) with
  | some .and => some and
  | some .or => some or
  | _ => none

theorem ofName?_builtin {name : String} {c : Connective} (h : ofName? name = some c) :
    Builtin.ofName? (Text.upper name) = some c.builtin := by
  unfold ofName? at h
  split at h
  case h_1 hf | h_2 hf =>
    obtain rfl := Option.some.inj h
    exact hf
  case h_3 => cases h

def ofOperator? : BinaryOp → Option Connective
  | .and => some and
  | .or => some or
  | _ => none

theorem isLogical_of_ofOperator? {op : BinaryOp} {c : Connective} (h : ofOperator? op = some c) :
    op.isLogical = true ∧ op.isComparison = false := by
  cases op <;> cases h <;> exact ⟨rfl, rfl⟩

theorem exists_ofOperator? {op : BinaryOp} (h : op.isLogical = true) : ∃ c, ofOperator? op = some c := by
  cases op
  case and | or => exact ⟨_, rfl⟩
  all_goals cases h

theorem ofOperator?_comparison {op : BinaryOp} (h : op.isComparison = true) :
    ofOperator? op = none ∧ op.isLogical = false := by
  cases op
  case and | or => cases h
  all_goals exact ⟨rfl, rfl⟩

end Sql.Connective

open Sql

theorem BinaryOp.isComparison_unified (op : BinaryOp) : (unified op).isComparison = op.isComparison := by
  cases op <;> rfl

def BinaryOp.sqlLevel (op : BinaryOp) : Nat :=
  match Connective.ofOperator? op with
  | some c => c.infixOp.level
  | none => InfixOp.eq.level

theorem BinaryOp.sqlLevel_le (op : BinaryOp) : op.sqlLevel ≤ InfixOp.eq.level := by
  unfold sqlLevel
  split
  case h_1 c _ => cases c <;> decide
  case h_2 => exact Nat.le_refl _

theorem BinaryOp.sqlLevel_unified (op : BinaryOp) : (unified op).sqlLevel = op.sqlLevel := by
  cases op <;> rfl

namespace Expr

section
variable (d : Dialect) (names : Naming) (τ : Term → Option Bool)

def atomTruth (e : Expr) : Option Bool := (readTerm d (e.compileCondition d names).fragment).bind τ

mutual

def truth : Expr → Option Bool
  | binary op l r =>
    match Connective.ofOperator? op with
    | some c => c.join (truth l) (truth r)
    | none => atomTruth d names τ (binary op l r)
  | call (some name) args =>
    match Connective.ofName? name with
    | some c => c.joinAll (truthAll args)
    | none => atomTruth d names τ (call (some name) args)
  | e => atomTruth d names τ e

def truthAll : List Expr → List (Option Bool)
  | [] => []
  | e :: es => truth e :: truthAll es

end

theorem truth_binary (op : BinaryOp) (l r : Expr) : (binary op l r).truth d names τ =
    match Connective.ofOperator? op with
    | some c => c.join (l.truth d names τ) (r.truth d names τ)
    | none => atomTruth d names τ (binary op l r) := rfl

theorem truth_call (name : String) (args : List Expr) : (call (some name) args).truth d names τ =
    match Connective.ofName? name with
    | some c => c.joinAll (truthAll d names τ args)
    | none => atomTruth d names τ (call (some name) args) := rfl

theorem truthAll_eq_map (es : List Expr) : truthAll d names τ es = es.map (truth d names τ) := by
  induction es with
  | nil => rfl
  | cons e es ih => rw [truthAll, ih, List.map_cons]

end

mutual

/-- How tightly the outermost operators in the SQL of a condition bind. A call of a connective shows those of a lone
argument. -/
def shownLevel : Expr → Nat
  | binary op _ _ => op.sqlLevel
  | call (some name) args =>
    match Connective.ofName? name with
    | some _ => loneLevel args
    | none => InfixOp.eq.level
  | _ => InfixOp.eq.level

def loneLevel : List Expr → Nat
  | [e] => shownLevel e
  | _ => InfixOp.eq.level

end

/-- Columns and literals, compared and connected. -/
inductive IsLogical : Expr → Prop
  | literal (v : Literal) : IsLogical (.literal v)
  | column (name : String) : IsLogical (.column name)
  | binary {op : BinaryOp} {l r : Expr} (known : op.isLogical = true ∨ op.isComparison = true) (left : IsLogical l)
    (right : IsLogical r) : IsLogical (.binary op l r)
  | call {name : String} {c : Connective} {args : List Expr} (called : Connective.ofName? name = some c)
    (nonempty : args ≠ []) (parts : ∀ a ∈ args, IsLogical a) : IsLogical (.call (some name) args)

/-- A side of an operator stays whole: it gets parentheses if it is an operation, and a comparison may cast it to
a value. -/
def KeptUnder (d : Dialect) (op : BinaryOp) (e : Expr) : Prop :=
  isOperation e = true ∨ op.sqlLevel ≤ e.shownLevel ∨ op.isComparison = true ∧ d.predicatesAreValues = false
deriving Decidable

/-- One of several arguments stays whole: it gets parentheses if it is an operation, unless its SQL begins with
one. -/
def KeptAmong (d : Dialect) (names : Naming) (c : Connective) (e : Expr) : Prop :=
  c.infixOp.level ≤ e.shownLevel ∨
    isOperation e = true ∧ (e.compileCondition d names).fragment.text.startsWith '(' = false
deriving Decidable

def KeepsOperands (d : Dialect) (names : Naming) : Expr → Prop
  | .binary op l r => l.KeptUnder d op ∧ r.KeptUnder d op
  | .call (some name) args => ∀ c ∈ Connective.ofName? name, args.length ≠ 1 → ∀ x ∈ args, x.KeptAmong d names c
  | _ => True

instance (d : Dialect) (names : Naming) : DecidablePred (KeepsOperands d names)
  | .binary op l r => inferInstanceAs (Decidable (l.KeptUnder d op ∧ r.KeptUnder d op))
  | .call (some name) args => inferInstanceAs (Decidable
      (∀ c ∈ Connective.ofName? name, args.length ≠ 1 → ∀ x ∈ args, x.KeptAmong d names c))
  | .call none _ | .literal _ | .column _ | .unary _ _ | .unsupported _ => inferInstanceAs (Decidable True)

variable {d : Dialect} {names : Naming} {op : BinaryOp} {e l r : Expr} {right : Bool}

theorem KeptUnder.unified (h : e.KeptUnder d op) : e.KeptUnder d (unified op) := by
  rwa [KeptUnder, BinaryOp.sqlLevel_unified, BinaryOp.isComparison_unified]

theorem IsLogical.infixOf (h : op.isLogical = true ∨ op.isComparison = true) (d : Dialect) :
    ∃ o, infixOf? d op = some o ∧ o.level = op.sqlLevel := by
  cases op
  case eq | eqEq | notEq | lt | gt | ltEq | gtEq | and | or => exact ⟨_, rfl, rfl⟩
  all_goals simp [BinaryOp.isLogical, BinaryOp.isComparison] at h

theorem canonical_logical (h : op.isLogical = true ∨ op.isComparison = true) (l r : Expr) :
    (binary op l r).canonical = binary (unified op) l.canonical r.canonical := by
  cases op
  case eq | eqEq | notEq | lt | gt | ltEq | gtEq | and | or => rfl
  all_goals simp [BinaryOp.isLogical, BinaryOp.isComparison] at h

theorem canonical_connective {name : String} {c : Connective} (h : Connective.ofName? name = some c)
    (args : List Expr) : (call (some name) args).canonical = call (some name) (args.map canonical) :=
  canonical_builtin (Connective.ofName?_builtin h) (by cases c <;> decide) args

theorem IsLogical.isOperation_canonical (h : e.IsLogical) : isOperation e.canonical = isOperation e := by
  cases h with
  | literal | column => rfl
  | binary known _ _ =>
    rw [canonical_logical known]
    rfl
  | call called _ _ =>
    rw [canonical_connective called]
    rfl

/-- An operation that an operator leaves without parentheses binds no less tightly. -/
theorem IsLogical.sqlLevel_le (h : e.IsLogical) (he : isOperation e = true)
    (hc : clashesUnder op right e.canonical = false) : op.sqlLevel ≤ e.shownLevel := by
  cases h with
  | literal | column | call => simp [isOperation] at he
  | binary known _ _ =>
    rw [canonical_logical known] at hc
    obtain ⟨rfl, -⟩ : op = unified _ ∧ _ := by simpa [clashesUnder] using hc
    rw [BinaryOp.sqlLevel_unified, shownLevel]

end Expr

namespace Sql

open SheetQuery.Expr

/-- What the induction over conditions carries: the truth of an expression where a condition stands, and its layout
where a value stands. What shows a connective is a predicate, so that it can be cast to a value. -/
structure Weighs (d : Dialect) (names : Naming) (τ : Term → Option Bool) (e : Expr) : Prop where
  isLogical : e.IsLogical
  stands : Stands d τ (e.compileCondition d names).fragment (e.truth d names τ) e.shownLevel
  spelled : ∃ g : Doc, Spells d (sqlOf d names e) g ∧ g.comment noSign = false ∧ g.isExpr = true ∧
    ∀ u ∈ g.operators, e.shownLevel ≤ u.level
  isPredicate : isOperation e = true ∨ e.shownLevel < InfixOp.eq.level → (sqlOf d names e).isPredicate = true

namespace Weighs

variable {d : Dialect} {names : Naming} {τ : Term → Option Bool} {op : BinaryOp} {e l r : Expr} {c : Connective}
  {right : Bool}

theorem compileCondition_fragment (d : Dialect) (names : Naming) (e : Expr) :
    (e.compileCondition d names).fragment =
      asCondition d (groupIf (!(sqlOf d names e).isPredicate && isOperation e.canonical) (sqlOf d names e)) := by
  simp only [compileCondition, Operand.condition, Noted.result_map, sqlOf, Expr.operand]

/-- The SQL of a predicate is a condition as it is. -/
theorem compileCondition_of_predicate (hp : (sqlOf d names e).isPredicate = true) :
    (e.compileCondition d names).fragment = sqlOf d names e := by
  simp [compileCondition_fragment, hp, groupIf, asCondition]

theorem of_predicate (he : e.IsLogical) (hp : (sqlOf d names e).isPredicate = true)
    (h : Stands d τ (sqlOf d names e) (e.truth d names τ) e.shownLevel) : Weighs d names τ e where
  isLogical := he
  stands := by rwa [compileCondition_of_predicate hp]
  spelled := by
    obtain ⟨g, hs, hc, ⟨t, ht, -⟩, ho, -⟩ := h
    exact ⟨g, hs, hc, ht.expr, ho⟩
  isPredicate _ := hp

/-- A value that shows no operators. -/
theorem of_value (he : e.IsLogical) {g : Doc} {t : Term} (hop : isOperation e = false)
    (hlevel : e.shownLevel = InfixOp.eq.level) (hp : (sqlOf d names e).isPredicate = false)
    (hs : Spells d (sqlOf d names e) g) (hc : g.comment noSign = false) (ht : g.Reads t) (hv : t.truth τ = τ t)
    (hg : g.operators = []) (htruth : e.truth d names τ = atomTruth d names τ e) : Weighs d names τ e where
  isLogical := he
  stands := by
    have hcond : (e.compileCondition d names).fragment = asCondition d (sqlOf d names e) := by
      have hop' : isOperation e.canonical = false := he.isOperation_canonical.trans hop
      simp [compileCondition_fragment, hop', groupIf]
    rw [htruth, atomTruth, hcond, hlevel]
    exact .of_value hp hs hc ht hv hg
  spelled := ⟨g, hs, hc, ht.expr, by simp [hg]⟩
  isPredicate h := by simp [hop, hlevel] at h

theorem column (name : String) : Weighs d names τ (.column name) := by
  refine of_value (.column name) rfl rfl (isPredicate_columnText names name) (.column names name) rfl
    (.column names.tableAlias name) ?_ rfl rfl
  cases names.tableAlias <;> rfl

theorem literal (v : Literal) : Weighs d names τ (.literal v) := by
  cases v with
  | number n => exact of_value (.literal _) rfl rfl rfl (.bind (.number n)) rfl (.value _) rfl rfl rfl
  | text s => exact of_value (.literal _) rfl rfl rfl (.bind (.text s)) rfl (.value _) rfl rfl rfl
  | boolean b => exact of_value (.literal _) rfl rfl rfl (.bind (.boolean b)) rfl (.value _) rfl rfl rfl
  | null => exact of_value (.literal _) rfl rfl rfl (.keyword "NULL" (by decide)) rfl (.word (by decide)) rfl rfl rfl

theorem compileCondition_eq (h : Weighs d names τ e) :
    (e.compileCondition d names).fragment = asCondition d (sqlOf d names e) := by
  have hgroup : (!(sqlOf d names e).isPredicate && isOperation e.canonical) = false := by
    rw [h.isLogical.isOperation_canonical]
    cases hop : isOperation e with
    | true => simp [h.isPredicate (.inl hop)]
    | false => simp
  rw [compileCondition_fragment, hgroup]
  rfl

theorem isOperation_of_clashesUnder (h : Weighs d names τ e) (hc : clashesUnder op right e.canonical = true) :
    isOperation e = true := by
  rw [← h.isLogical.isOperation_canonical]
  cases he : e.canonical with
  | binary => rfl
  | _ => simp [he, clashesUnder] at hc

/-- A side of a connective. -/
theorem conditionUnder (h : Weighs d names τ e) (hop : op.isComparison = false) (hk : e.KeptUnder d op)
    (right : Bool) : Stands d τ ((e.operand d names).conditionUnder d op right).result (e.truth d names τ)
      op.sqlLevel := by
  have hside : ((e.operand d names).conditionUnder d op right).result =
      asCondition d (groupIf (clashesUnder op right e.canonical) (sqlOf d names e)) := rfl
  cases hc : clashesUnder op right e.canonical with
  | true =>
    have hp : (sqlOf d names e).isPredicate = true := h.isPredicate (.inl (h.isOperation_of_clashesUnder hc))
    have hgroup : asCondition d (groupIf true (sqlOf d names e)) = (sqlOf d names e).parenthesized :=
      if_pos (by simpa [groupIf] using hp)
    rw [hside, hc, hgroup, ← compileCondition_of_predicate hp]
    exact h.stands.parenthesized _
  | false =>
    have hlevel : op.sqlLevel ≤ e.shownLevel := by
      rcases hk with hk | hk | ⟨hk, -⟩
      · exact h.isLogical.sqlLevel_le hk hc
      · exact hk
      · simp [hop] at hk
    rw [hside, hc]
    exact (h.compileCondition_eq ▸ h.stands).mono hlevel

/-- A side of a comparison. -/
theorem valueUnder (h : Weighs d names τ e) (hk : e.KeptUnder d op) (right : Bool) :
    ∃ g : Doc, Spells d ((e.operand d names).valueUnder d op right).result g ∧ g.comment noSign = false ∧
      g.isExpr = true ∧ ∀ u ∈ g.operators, op.sqlLevel ≤ u.level := by
  obtain ⟨g, hs, hc, hg, ho⟩ := h.spelled
  have hside : Spells d ((e.operand d names).valueUnder d op right).result _ :=
    (hs.groupIf (clashesUnder op right e.canonical)).toValue
  have hcomment : (g.groupIf (clashesUnder op right e.canonical)).comment noSign = false := by
    unfold Doc.groupIf
    split <;> exact hc
  refine ⟨_, hside, ?_⟩
  unfold Doc.toValue
  split
  case isTrue => exact ⟨by simpa using hcomment, rfl, by simp [Doc.oneIf, Doc.operators]⟩
  case isFalse hvalue =>
    cases hclash : clashesUnder op right e.canonical with
    | true => exact ⟨by simpa [hclash] using hcomment, rfl, by simp [Doc.groupIf, Doc.operators]⟩
    | false =>
      have hlevel : op.sqlLevel ≤ e.shownLevel := by
        rcases hk with hk | hk | ⟨-, hk⟩
        · exact h.isLogical.sqlLevel_le hk hclash
        · exact hk
        · -- what would show less is a predicate, and those are cast
          have hp : (sqlOf d names e).isPredicate = false := by simpa [hclash, groupIf, hk] using hvalue
          have hshown : InfixOp.eq.level ≤ e.shownLevel := by
            by_contra hlt
            simp [h.isPredicate (.inr (Nat.lt_of_not_le hlt))] at hp
          exact op.sqlLevel_le.trans hshown
      exact ⟨hc, hg, fun u hu => hlevel.trans (ho u hu)⟩

theorem sqlOf_binary (h : op.isLogical = true ∨ op.isComparison = true) (l r : Expr) :
    sqlOf d names (.binary op l r) =
      (Sql.binary d (unified op) (l.operand d names) (r.operand d names)).result := by
  rw [sqlOf, Expr.operand, canonical_logical h]
  rfl

theorem connective (hc : Connective.ofOperator? op = some c) (hl : Weighs d names τ l) (hr : Weighs d names τ r)
    (hkl : l.KeptUnder d op) (hkr : r.KeptUnder d op) : Weighs d names τ (.binary op l r) := by
  obtain ⟨hlogical, hnot⟩ := Connective.isLogical_of_ofOperator? hc
  have hlevel : op.sqlLevel = c.infixOp.level := by simp [BinaryOp.sqlLevel, hc]
  have hjoined := Stands.joined c (hlevel ▸ hl.conditionUnder hnot hkl false) (hlevel ▸ hr.conditionUnder hnot hkr true)
    (o := .raw (" " ++ c.infixOp.text ++ " ")) (by simp) rfl
  have hsql : sqlOf d names (.binary op l r) =
      (((l.operand d names).conditionUnder d op false).result ++ Fragment.raw (" " ++ c.infixOp.text ++ " ") ++
        ((r.operand d names).conditionUnder d op true).result).asPredicate := by
    rw [sqlOf_binary (.inl hlogical)]
    cases op <;> cases hc <;> rfl
  have htruth : (Expr.binary op l r).truth d names τ = c.join (l.truth d names τ) (r.truth d names τ) := by
    rw [truth_binary, hc]
  refine of_predicate (.binary (.inl hlogical) hl.isLogical hr.isLogical) (by rw [hsql]; rfl) ?_
  rw [htruth, shownLevel, hlevel]
  exact hjoined.congr (by rw [hsql]; rfl) (by rw [hsql]; rfl)

theorem comparison (hop : op.isComparison = true) (hl : Weighs d names τ l) (hr : Weighs d names τ r)
    (hkl : l.KeptUnder d op) (hkr : r.KeptUnder d op) : Weighs d names τ (.binary op l r) := by
  have hnone : Connective.ofOperator? op = none := (Connective.ofOperator?_comparison hop).1
  have hlevel : op.sqlLevel = InfixOp.eq.level := by simp [BinaryOp.sqlLevel, hnone]
  obtain ⟨o, ho, hol⟩ := IsLogical.infixOf (.inr hop) d
  have hop' : (unified op).isComparison = true := by rwa [BinaryOp.isComparison_unified]
  have hnot : (unified op).isLogical = false := (Connective.ofOperator?_comparison hop').2
  obtain ⟨g, hs, hc, hg, hb⟩ := hl.valueUnder hkl.unified false
  obtain ⟨g', hs', hc', hg', hb'⟩ := hr.valueUnder hkr.unified true
  have hspelled : Spells d (sqlOf d names (.binary op l r)) (.binary o g g') := by
    rw [sqlOf_binary (.inr hop)]
    refine binary_spelled (infixOf_unified ho) ?_ ?_
    · simpa [sideOf, hnot] using hs
    · simpa [sideOf, hnot] using hs'
  have hp : (sqlOf d names (.binary op l r)).isPredicate = true := by
    rw [sqlOf_binary (.inr hop), isPredicate_binary (infixOf_unified ho), hop', Bool.or_true]
  have hbound : ∀ u ∈ (Doc.binary o g g').operators, InfixOp.eq.level ≤ u.level := by
    rw [BinaryOp.sqlLevel_unified, hlevel] at hb hb'
    simp only [Doc.operators, List.mem_append, List.mem_cons, or_imp, forall_and, forall_eq]
    exact ⟨hb, (hol.trans hlevel).ge, hb'⟩
  have hexpr : (Doc.binary o g g').isExpr = true := by simp [Doc.isExpr, hg, hg']
  obtain ⟨t, ht, hv⟩ : ∃ t, (Doc.binary o g g').Reads t ∧ t.truth τ = τ t :=
    Doc.exists_reads_atom hexpr (by simp [Doc.operators]) hbound
  have htruth : (Expr.binary op l r).truth d names τ = (readTerm d (sqlOf d names (.binary op l r))).bind τ := by
    rw [truth_binary, hnone, ← compileCondition_of_predicate hp]
    rfl
  refine of_predicate (.binary (.inr hop) hl.isLogical hr.isLogical) hp ?_
  rw [htruth, shownLevel, hlevel]
  exact .atom hspelled (by simp [hc, hc']) ht hv hbound

/-- An argument of a call. -/
theorem groupedCondition (h : Weighs d names τ e) (hk : e.KeptAmong d names c) :
    Stands d τ ((e.operand d names).groupedCondition d).result (e.truth d names τ) c.infixOp.level := by
  have hgrouped : ((e.operand d names).groupedCondition d).result =
      groupIf (isOperation e.canonical && !(e.compileCondition d names).fragment.text.startsWith '(')
        (e.compileCondition d names).fragment := by
    simp only [Operand.groupedCondition, Noted.result_map, Expr.operand, compileCondition]
  rw [hgrouped, h.isLogical.isOperation_canonical]
  unfold groupIf
  split
  case isTrue => exact h.stands.parenthesized _
  case isFalse hbare =>
    rcases hk with hlevel | hopen
    · exact h.stands.mono hlevel
    · simp [hopen] at hbare

theorem sqlOf_call {name : String} (hc : Connective.ofName? name = some c) (es : List Expr) :
    sqlOf d names (.call (some name) es) = (allOf d c.infixOp.text (es.map (Expr.operand d names))).result := by
  rw [sqlOf, Expr.operand, canonical_connective hc]
  simp only [write, Sql.call, Connective.ofName?_builtin hc, operands_eq_map, List.map_map]
  cases c <;> cases d <;> rfl

theorem call {name : String} {es : List Expr} (hc : Connective.ofName? name = some c) (hne : es ≠ [])
    (h : ∀ x ∈ es, Weighs d names τ x) (hk : (Expr.call (some name) es).KeepsOperands d names) :
    Weighs d names τ (.call (some name) es) := by
  refine of_predicate (.call hc hne fun x hx => (h x hx).isLogical) ?_ ?_
  · rw [sqlOf_call hc]
    exact isPredicate_allOf _
  · have htruth : (Expr.call (some name) es).truth d names τ = c.joinAll (es.map (truth d names τ)) := by
      rw [truth_call, hc, truthAll_eq_map]
    rw [sqlOf_call hc, htruth, shownLevel, hc]
    match es, hne with
    | [x], _ =>
      -- a lone argument stands as it is, without parentheses
      have hone : c.joinAll [x.truth d names τ] = x.truth d names τ := Connective.unit_join c _
      simp only [List.map_cons, List.map_nil, hone]
      exact (h x (by simp)).stands
    | x :: y :: es, _ =>
      have hparts : List.Forall₂ (fun f v => Stands d τ f v c.infixOp.level)
          ((x :: y :: es).map fun x => ((x.operand d names).groupedCondition d).result)
          ((x :: y :: es).map (truth d names τ)) := by
        rw [List.forall₂_map_left_iff, List.forall₂_map_right_iff, List.forall₂_same]
        exact fun x hx => (h x hx).groupedCondition (hk c hc (by simp) x hx)
      have hsep : (" " ++ c.infixOp.text ++ " ").toList = ' ' :: (c.infixOp.text.toList ++ [' ']) := by simp
      have hjoin := (Stands.join c hsep (by simp) hparts).parenthesized InfixOp.eq.level
      exact hjoin.congr (by simp [allOf, Function.comp_def]) (by simp [allOf, Function.comp_def])

end Weighs

end Sql

namespace Expr

open Sql

variable {d : Dialect} {names : Naming} {e : Expr}

theorem IsLogical.weighs (he : e.IsLogical) (hk : e.Everywhere (KeepsOperands d names)) (τ : Term → Option Bool) :
    Weighs d names τ e := by
  induction he with
  | literal v => exact .literal v
  | column name => exact .column name
  | @binary op l r known _ _ ihl ihr =>
    cases hk with
    | binary here left right =>
      rcases known with hlogical | hcomparison
      · obtain ⟨c, hc⟩ := Connective.exists_ofOperator? hlogical
        exact .connective hc (ihl left) (ihr right) here.1 here.2
      · exact .comparison hcomparison (ihl left) (ihr right) here.1 here.2
  | call called nonempty _ ih => exact .call called nonempty (fun x hx => ih x hx (hk.args x hx)) hk.here

/-- The function of a connective says of its arguments what the connective says. Its SQL, read with the precedence of
SQL, has for every truth of the atoms the conjunction or disjunction of what the arguments have. -/
theorem connective_call_truth {name : String} {c : Connective} (hc : Connective.ofName? name = some c) {es : List Expr}
    (hne : es ≠ []) (hes : ∀ x ∈ es, x.IsLogical)
    (hk : (call (some name) es).Everywhere (KeepsOperands d names)) (τ : Term → Option Bool) :
    ∃ t, readTerm d ((call (some name) es).compileCondition d names).fragment = some t ∧
      t.truth τ = c.joinAll (es.map (truth d names τ)) := by
  have hcall : (call (some name) es).IsLogical := .call hc hne hes
  obtain ⟨g, hs, hcomment, ⟨t, ht, hv⟩, -⟩ := (hcall.weighs hk τ).stands
  refine ⟨t, ht.readTerm hs hcomment, ?_⟩
  rw [hv, truth_call, hc, truthAll_eq_map]

theorem connective_call_truth_nested :
    let es : List Expr := [binary .or (column "a") (column "b"),
      call (some "or") [column "c", binary .and (column "d") (column "e")], binary .eq (column "f") (column "g")]
    let τ : Term → Option Bool
      | .name "a" | .name "c" => some true
      | .name _ => none
      | _ => some false
    ((call (some "And") es).compileCondition .sqlite .default).fragment.text =
      "((\"a\" OR \"b\") AND (\"c\" OR (\"d\" AND \"e\")) AND (\"f\" = \"g\"))" ∧
    ∃ t, readTerm .sqlite ((call (some "And") es).compileCondition .sqlite .default).fragment = some t ∧
      t.truth τ = some false := by
  intro es τ
  have hes : ∀ x ∈ es, x.IsLogical := by
    have hor : Connective.ofName? "or" = some .or := by decide
    simp only [es, List.forall_mem_cons, List.not_mem_nil, false_imp_iff, implies_true, and_true]
    refine ⟨.binary (.inl rfl) (.column "a") (.column "b"), .call hor (by simp) ?_,
      .binary (.inr rfl) (.column "f") (.column "g")⟩
    simp only [List.forall_mem_cons, List.not_mem_nil, false_imp_iff, implies_true, and_true]
    exact ⟨.column "c", .binary (.inl rfl) (.column "d") (.column "e")⟩
  have hk : (call (some "And") es).Everywhere (KeepsOperands .sqlite .default) := by
    have hcolumn (name : String) : (column name).Everywhere (KeepsOperands .sqlite .default) := .column trivial
    refine .call (by decide) ?_
    simp only [es, List.forall_mem_cons, List.not_mem_nil, false_imp_iff, implies_true, and_true]
    refine ⟨.binary (by decide) (hcolumn _) (hcolumn _), .call (by decide +kernel) ?_,
      .binary (by decide) (hcolumn _) (hcolumn _)⟩
    simp only [List.forall_mem_cons, List.not_mem_nil, false_imp_iff, implies_true, and_true]
    exact ⟨hcolumn _, .binary (by decide) (hcolumn _) (hcolumn _)⟩
  have hvalue : Connective.and.joinAll (es.map (truth .sqlite .default τ)) = some false := by decide
  obtain ⟨t, ht, hv⟩ := connective_call_truth (c := .and) (by decide) (by simp [es]) hes hk τ
  exact ⟨by decide, t, ht, hv.trans hvalue⟩

/-- An argument that begins with a parenthesis and one that is a call with a lone argument come apart, and `d` does
not decide the conjunction. -/
theorem connective_call_truth_bare :
    let opened : List Expr := [binary .or (binary .eq (column "a") (column "b")) (column "c"), column "d"]
    let lone : List Expr := [call (some "OR") [binary .or (column "a") (column "b")], column "d"]
    let τ : Term → Option Bool
      | .name "d" => some false
      | _ => some true
    let compiled (es : List Expr) : Fragment := ((call (some "AND") es).compileCondition .sqlite .default).fragment
    let judged (es : List Expr) : Option (Option Bool) := (readTerm .sqlite (compiled es)).map (Term.truth τ)
    let meant (es : List Expr) : Option Bool := Connective.and.joinAll (es.map (truth .sqlite .default τ))
    ((compiled opened).text = "((\"a\" = \"b\") OR \"c\" AND \"d\")" ∧ judged opened = some (some true) ∧
        meant opened = some false) ∧
      (compiled lone).text = "(\"a\" OR \"b\" AND \"d\")" ∧ judged lone = some (some true) ∧
        meant lone = some false := by
  decide +kernel

end Expr

end SheetQuery
