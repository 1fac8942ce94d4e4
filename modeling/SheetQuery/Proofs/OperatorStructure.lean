import SheetQuery.Proofs.Unwrapping

/-! The operators of an expression stay as they are nested when its SQL is read back. Parentheses stand
wherever the precedence of SQL would group otherwise, so that the SQL shows the canonical form of the
expression, up to the grouping of chains of one associative operator. -/

namespace SheetQuery

namespace Sql

open SheetQuery.Expr

section
variable {d : Dialect} {table : Option String} {f : Fragment} {e : Expr} {op : BinaryOp} {o : InfixOp} {p : Nat}

/-- A layout that can be put after an operator: the operator then takes all of it, or all of a chain of
itself that it begins. -/
def Doc.Follows (d : Dialect) (table : Option String) (op : BinaryOp) (o : InfixOp) (g : Doc) (e : Expr) : Prop :=
  ∀ g' e', g'.Shows d table e' → (∀ u ∈ g'.operators, o.level ≤ u.level) →
    (Doc.binary o g' g).Shows d table (.binary op e' e)

theorem Doc.Follows.of_shows {g : Doc} (ho : o.binaryOp? = some op) (h : g.Shows d table e)
    (hg : ∀ u ∈ g.operators, o.level < u.level) : g.Follows d table op o e :=
  fun _ _ h' hg' => .binary ho h' h hg' (unbroken_of_lt hg)

/-- A chain follows its operator if its two sides do. -/
theorem Doc.Follows.chain {g g' : Doc} {e' : Expr} (hop : op.regroups = true) (h : g.Follows d table op o e)
    (h' : g'.Follows d table op o e') (hg : ∀ u ∈ g.operators, o.level ≤ u.level) :
    (Doc.binary o g g').Follows d table op o (.binary op e e') := by
  intro k x hk hko
  have hkg := h k x hk hko
  have hbound : ∀ u ∈ (Doc.binary o k g).operators, o.level ≤ u.level := by
    simp only [Doc.operators, List.mem_append, List.mem_cons, or_imp, forall_and, forall_eq]
    exact ⟨hko, Nat.le_refl _, hg⟩
  obtain ⟨t, y, ht, hy, hye⟩ := h' (.binary o k g) (.binary op x e) hkg hbound
  refine ⟨t, y, ht.congr ?_ ?_, hy, hye.trans (.assoc hop x e e')⟩
  · simp [Doc.isExpr, Bool.and_assoc]
  · simp

/-- A fragment that shows an expression and whose operators outside brackets bind as level `p` or
tighter. -/
def Laid (d : Dialect) (table : Option String) (f : Fragment) (e : Expr) (p : Nat) : Prop :=
  ∃ g : Doc, Spells d f g ∧ g.comment noSign = false ∧ g.Shows d table e ∧ ∀ u ∈ g.operators, p ≤ u.level

/-- A fragment that can be a side of an operator. -/
def Side (d : Dialect) (table : Option String) (op : BinaryOp) (o : InfixOp) (right : Bool) (f : Fragment)
    (e : Expr) : Prop :=
  ∃ g : Doc, Spells d f g ∧ g.comment noSign = false ∧ g.Shows d table e ∧
    (∀ u ∈ g.operators, o.level ≤ u.level) ∧ (right = true ∨ op.regroups = true → g.Follows d table op o e)

/-- A fragment in brackets shows no operators. -/
theorem Laid.of_bracket (g : Doc) (hg : g.isBracket = true) (hs : Spells d f g)
    (hc : g.comment noSign = false) (h : g.Shows d table e) (p : Nat) : Laid d table f e p := by
  refine ⟨g, hs, hc, h, ?_⟩
  cases g <;> simp_all [Doc.isBracket, Doc.operators]

theorem Laid.parenthesized (h : Laid d table f e p) (q : Nat) : Laid d table f.parenthesized e q := by
  obtain ⟨g, hs, hc, hg, _⟩ := h
  exact .of_bracket (.parens g) rfl hs.parenthesized hc hg.parens q

theorem Laid.mono {q : Nat} (h : Laid d table f e p) (hq : q ≤ p) : Laid d table f e q := by
  obtain ⟨g, hs, hc, hg, ho⟩ := h
  exact ⟨g, hs, hc, hg, fun u hu => hq.trans (ho u hu)⟩

theorem Laid.asValue (h : Laid d table f e p) : Laid d table (asValue d f) e p := by
  obtain ⟨g, hs, hc, hg, ho⟩ := h
  unfold Sql.asValue
  split
  · exact .of_bracket g.oneIf rfl hs.oneIf (by simpa [Doc.oneIf] using hc) hg.oneIf p
  · exact ⟨g, hs.asValue, hc, hg, ho⟩

theorem Laid.asCondition (h : Laid d table f e p) (hp : f.isPredicate = false → InfixOp.ne.level ≤ p) :
    Laid d table (asCondition d f) e (min p InfixOp.ne.level) := by
  have hmin := h.mono (Nat.min_le_left p InfixOp.ne.level)
  unfold Sql.asCondition
  split
  case isTrue => exact hmin
  case isFalse hf =>
    have hne := hp (by simpa using hf)
    obtain ⟨g, hs, hc, hg, ho⟩ := h
    have hzero : Laid d table ((f ++ Fragment.raw " <> 0").asPredicate) e InfixOp.ne.level := by
      refine ⟨.binary .ne g (.keyword "0"), ⟨?_, ?_⟩, by simpa using hc, hg.nonzero fun u hu => hne.trans (ho u hu), ?_⟩
      · simp [hs.text, InfixOp.text]
      · simp [hs.bindings]
      · simp only [Doc.operators, List.mem_append, List.mem_cons, or_imp, forall_and, forall_eq]
        exact ⟨fun u hu => hne.trans (ho u hu), Nat.le_refl _, by simp [Doc.keyword, Doc.operators]⟩
    cases d
    case mssql | oracle => exact hzero.mono (Nat.min_le_right _ _)
    case mysql | sqlite =>
      obtain ⟨g, hs, hc, hg, ho⟩ := hmin
      exact ⟨g, hs.asPredicate, hc, hg, ho⟩
    case postgres =>
      refine .of_bracket (.cast g (.keyword "BOOLEAN")) rfl ⟨?_, ?_⟩ ?_ hg.boolean _
      · simp [Doc.cast, hs.text]
      · simp [Doc.cast, hs.bindings]
      · simpa using hc

theorem Laid.side (ho : o.binaryOp? = some op) (h : Laid d table f e p) (hp : o.level < p) (right : Bool) :
    Side d table op o right f e := by
  obtain ⟨g, hs, hc, hg, hb⟩ := h
  have hlt : ∀ u ∈ g.operators, o.level < u.level := fun u hu => Nat.lt_of_lt_of_le hp (hb u hu)
  exact ⟨g, hs, hc, hg, fun u hu => Nat.le_of_lt (hlt u hu), fun _ => .of_shows ho hg hlt⟩

theorem Side.asValue (ho : o.binaryOp? = some op) {right : Bool} (h : Side d table op o right f e) :
    Side d table op o right (asValue d f) e := by
  obtain ⟨g, hs, hc, hg, hb, hf⟩ := h
  unfold Sql.asValue
  split
  · have hone : Laid d table (oneIf f) e (o.level + 1) :=
      .of_bracket g.oneIf rfl hs.oneIf (by simpa [Doc.oneIf] using hc) hg.oneIf _
    exact hone.side ho (Nat.lt_succ_self _) right
  · exact ⟨g, hs.asValue, hc, hg, hb, hf⟩

end

/-- A bound for the operators that the SQL of an expression shows outside brackets; 9 if it shows
none. -/
def outerLevel (d : Dialect) : Expr → Nat
  | .binary op _ _ =>
    match infixOf? d op with
    | some o => o.level
    | none => 9
  | .unary .minus e => if e.asNumber?.isSome then 9 else 8
  | _ => 9

theorem InfixOp.level_le (o : InfixOp) : o.level ≤ 7 := by
  cases o <;> decide

theorem infixOf_binaryOp {d : Dialect} {op : BinaryOp} {o : InfixOp} (h : infixOf? d op = some o)
    (hop : op ≠ .eqEq) : o.binaryOp? = some op := by
  cases op
  case eqEq => exact absurd rfl hop
  case concat | other => simp [infixOf?] at h
  case mod =>
    obtain ⟨-, rfl⟩ : d.hasPercent = true ∧ InfixOp.mod = o := by simpa [infixOf?] using h
    rfl
  all_goals
    obtain rfl := Option.some.inj h
    rfl

theorem regroups_of_groupsLeft {d : Dialect} {op : BinaryOp} {o : InfixOp} (h : infixOf? d op = some o)
    (hop : op.groupsLeft = false) : op.regroups = true := by
  cases op
  case add | mul | and | or => rfl
  case concat | other => simp [infixOf?] at h
  all_goals simp [BinaryOp.groupsLeft, BinaryOp.isComparison] at hop

theorem level_lt_of_isLogical {d : Dialect} {op : BinaryOp} {o : InfixOp} (h : infixOf? d op = some o)
    (hop : op.isLogical = true) : o.level < InfixOp.ne.level := by
  cases op
  case and | or =>
    obtain rfl := Option.some.inj h
    decide
  all_goals simp [BinaryOp.isLogical] at hop

theorem le_outerLevel (d : Dialect) {e : Expr} (h : ∀ op l r, e ≠ .binary op l r) : 8 ≤ outerLevel d e := by
  cases e with
  | binary op l r => exact absurd rfl (h op l r)
  | unary op e =>
    cases op
    case minus =>
      simp only [outerLevel]
      split <;> decide
    all_goals simp [outerLevel]
  | _ => simp [outerLevel]

theorem Operator.level_le (u : Operator) : u.level ≤ 8 := by
  cases u with
  | between o => exact o.level_le.trans (by decide)
  | not | minus => decide

theorem operators_eq_nil {os : List Operator} (h : ∀ u ∈ os, 9 ≤ u.level) : os = [] := by
  rw [List.eq_nil_iff_forall_not_mem]
  intro u hu
  have h8 := u.level_le
  have h9 := h u hu
  omega

theorem startsMinus_eq_false {g : Doc} (hg : g.isExpr = true) (ho : g.operators = []) :
    g.startsMinus noSign = false := by
  cases g <;> simp_all [Doc.isExpr, Doc.operators, noSign]

/-- An expression whose SQL shows it, in a way that lets it be a side of any operator. -/
structure Node (d : Dialect) (names : Naming) (e : Expr) : Prop where
  laid : Laid d names.tableAlias (write d names e).result e (outerLevel d e)
  chain {op : BinaryOp} {l r : Expr} {o : InfixOp} {right : Bool} : e = .binary op l r →
    infixOf? d op = some o → clashesUnder op right e = false →
      Side d names.tableAlias op o right (write d names e).result e

namespace Node

variable {d : Dialect} {names : Naming} {e l r : Expr} {op : BinaryOp} {o : InfixOp}

/-- Without operators outside brackets there is no chain. -/
theorem of_laid (h : Laid d names.tableAlias (write d names e).result e (outerLevel d e))
    (he : 8 ≤ outerLevel d e) : Node d names e where
  laid := h
  chain := by
    rintro op l r o right rfl ho -
    have ho7 := o.level_le
    simp only [outerLevel, ho] at he
    omega

/-- In parentheses or without operators outside brackets, an expression is a side of any operator. -/
theorem side_of_laid {f : Fragment} {p : Nat} (h : Laid d names.tableAlias f e p) (hp : 8 ≤ p)
    (ho : infixOf? d op = some o) (hob : o.binaryOp? = some op) (right : Bool) :
    Side d names.tableAlias op o right (if op.isLogical then asCondition d f else asValue d f) e := by
  have ho7 := o.level_le
  have hne : InfixOp.ne.level = 5 := rfl
  split
  case isTrue hl =>
    have ho5 := level_lt_of_isLogical ho hl
    exact (h.asCondition fun _ => by omega).side hob (by omega) right
  case isFalse => exact h.asValue.side hob (by omega) right

/-- As a side of an operator an expression stands in parentheses if the operators clash, and otherwise as it
is, be it a chain of the same operator or no chain. -/
theorem side (h : Node d names e) (ho : infixOf? d op = some o) (hob : o.binaryOp? = some op) (right : Bool) :
    Side d names.tableAlias op o right (sideOf d op right ⟨e, write d names e⟩).result e := by
  have hside : (sideOf d op right ⟨e, write d names e⟩).result =
      if op.isLogical then asCondition d (groupIf (clashesUnder op right e) (write d names e).result)
      else asValue d (groupIf (clashesUnder op right e) (write d names e).result) := by
    unfold sideOf
    split <;> rfl
  rw [hside]
  cases hc : clashesUnder op right e with
  | true => exact side_of_laid (h.laid.parenthesized 9) (by decide) ho hob right
  | false =>
    by_cases he : ∃ op' l r, e = .binary op' l r
    · obtain ⟨op', l, r, rfl⟩ := he
      obtain ⟨rfl, -⟩ : op = op' ∧ _ := by simpa [clashesUnder] using hc
      have hchain := h.chain rfl ho hc
      split
      case isTrue hl =>
        have hp : (write d names (.binary op l r)).result.isPredicate = true := by
          rw [write, isPredicate_binary ho, hl, Bool.true_or]
        have hsame : asCondition d (groupIf false (write d names (.binary op l r)).result) =
            (write d names (.binary op l r)).result := if_pos hp
        rwa [hsame]
      case isFalse => exact hchain.asValue hob
    · exact side_of_laid h.laid (le_outerLevel d fun op' l r h' => he ⟨op', l, r, h'⟩) ho hob right

theorem binary (hl : Node d names l) (hr : Node d names r) (ho : infixOf? d op = some o)
    (hob : o.binaryOp? = some op) : Node d names (.binary op l r) := by
  obtain ⟨g, hs, hc, hg, hb, hf⟩ := hl.side ho hob false
  obtain ⟨g', hs', hc', hg', hb', hf'⟩ := hr.side ho hob true
  have hspelled := binary_spelled ho hs hs'
  have hcomment : (Doc.binary o g g').comment noSign = false := by simp [hc, hc']
  have hshows := hf' (.inl rfl) g l hg hb
  have hbound : ∀ u ∈ (Doc.binary o g g').operators, o.level ≤ u.level := by
    simp only [Doc.operators, List.mem_append, List.mem_cons, or_imp, forall_and, forall_eq]
    exact ⟨hb, Nat.le_refl _, hb'⟩
  refine ⟨⟨_, hspelled, hcomment, hshows, by simpa [outerLevel, ho] using hbound⟩, ?_⟩
  rintro op' l' r' o' right ⟨⟩ ho' hclash
  obtain rfl := Option.some.inj (ho.symm.trans ho')
  refine ⟨_, hspelled, hcomment, hshows, hbound, fun hop => ?_⟩
  have hregroups : op.regroups = true := by
    rcases hop with rfl | hop
    · exact regroups_of_groupsLeft ho (by simpa [clashesUnder] using hclash)
    · exact hop
  exact .chain hregroups (hf (.inr hregroups)) (hf' (.inl rfl)) hb

theorem literal (v : Literal) : Node d names (.literal v) := by
  refine of_laid ?_ (by simp [outerLevel])
  cases v with
  | number n => exact ⟨.value (.number n), .bind _, rfl, .value (.number n), by simp [Doc.operators]⟩
  | text s => exact ⟨.value (.text s), .bind _, rfl, .value (.text s), by simp [Doc.operators]⟩
  | boolean b => exact ⟨.value (.boolean b), .bind _, rfl, .value (.boolean b), by simp [Doc.operators]⟩
  | null => exact ⟨.keyword "NULL" (by decide), ⟨rfl, rfl⟩, rfl, .null, by simp [Doc.operators, Doc.keyword]⟩

theorem column (name : String) : Node d names (.column name) := by
  refine of_laid (.of_bracket (.column names.tableAlias name) rfl ?_ rfl (.column _ name) _) (by simp [outerLevel])
  cases ht : names.tableAlias <;> constructor <;> simp [write, columnText, ht, Doc.chars, Doc.charsWith]

/-- The remainder where it is a function. -/
theorem remainder (hl : Node d names l) (hr : Node d names r) (hd : d.hasPercent = false) :
    Node d names (.binary .mod l r) := by
  obtain ⟨g, hs, hc, hg, -⟩ := hl.laid.asValue
  obtain ⟨g', hs', hc', hg', -⟩ := hr.laid.asValue
  refine of_laid (.of_bracket (.call (.of "MOD" (by decide)) (.listed g g')) rfl ⟨?_, ?_⟩ ?_ (.remainder hg hg' rfl) _)
    (by simp [outerLevel, infixOf?, hd])
  · simp [write, Sql.binary, Operand.value, Sql.remainder, hd, hs.text, hs'.text]
  · simp [write, Sql.binary, Operand.value, Sql.remainder, hd, hs.bindings, hs'.bindings]
  · simp [hc, hc']

theorem float (h : Node d names e) : Node d names (.call (some "FLOAT") [e]) := by
  obtain ⟨g, hs, hc, hg, -⟩ := h.laid.asValue
  have hf : Builtin.ofName? (Text.upper "FLOAT") = some .float := by decide
  refine of_laid (.of_bracket _ rfl ?_ ?_ hg.float _) (by simp [outerLevel])
  · have hw : (write d names (.call (some "FLOAT") [e])).result = castFloat d (asValue d (write d names e).result) := by
      simp only [write, call, hf]
      rfl
    rw [hw]
    exact hs.castFloat
  · simpa using hc

theorem outerLevel_of_not_isOperation (h : isOperation e = false) : outerLevel d e = 9 := by
  cases e with
  | binary op l r => simp [isOperation] at h
  | unary op e =>
    cases op
    case minus =>
      have hn : e.asNumber?.isSome = true := by simpa [isOperation] using h
      simp [outerLevel, hn]
    all_goals rfl
  | _ => rfl

/-- As a value within other SQL an expression shows no operators outside brackets. -/
theorem grouped (h : Node d names e) :
    Laid d names.tableAlias (Operand.grouped d ⟨e, write d names e⟩).result e 9 := by
  have hv := h.laid.asValue
  simp only [Operand.grouped, Operand.value, Noted.result_map, groupIf]
  split
  case isTrue => exact hv.parenthesized 9
  case isFalse hop => rwa [outerLevel_of_not_isOperation (by simpa using hop)] at hv

theorem minus (h : Node d names e) : Node d names (.unary .minus e) := by
  cases hn : e.asNumber? with
  | some n =>
    have hw : (write d names (.unary .minus e)).result = .bind (.number n.neg) := by simp [write, Sql.unary, hn]
    refine of_laid ?_ (by simp [outerLevel, hn])
    rw [hw]
    exact ⟨.value (.number n.neg), .bind _, rfl, (Doc.Shows.value (.number n.neg)).regroup (.sign trivial hn),
      by simp [Doc.operators]⟩
  | none =>
    have hw : (write d names (.unary .minus e)).result =
        "-" ++ (Operand.grouped d ⟨e, write d names e⟩).result := by simp [write, Sql.unary, hn]
    obtain ⟨g, hs, hc, hg, ho⟩ := h.grouped
    have hnil := operators_eq_nil ho
    have hstart := startsMinus_eq_false hg.isExpr hnil
    refine of_laid ?_ (by simp [outerLevel, hn])
    rw [hw]
    refine ⟨.minus g, ⟨?_, ?_⟩, by simp [hc, hstart], hg.minus (by rw [hnil]; rfl), ?_⟩
    · simp [hs.text]
    · simp [hs.bindings]
    · simp [Doc.operators, hnil, outerLevel, hn, Operator.level]

/-- Parts that show one expression each. -/
theorem parts {es : List Expr} {part : Expr → Fragment} {p : Nat}
    (h : ∀ a ∈ es, Laid d names.tableAlias (part a) a p) : ∃ gs : List Doc,
      List.Forall₂ (Spells d) (es.map part) gs ∧ gs.any (·.comment noSign) = false ∧
        List.Forall₂ (Doc.Shows d names.tableAlias) gs es ∧ ∀ g ∈ gs, ∀ u ∈ g.operators, p ≤ u.level := by
  induction es with
  | nil => exact ⟨[], .nil, rfl, .nil, by simp⟩
  | cons a es ih =>
    obtain ⟨g, hs, hc, hg, ho⟩ := h a List.mem_cons_self
    obtain ⟨gs, hss, hcs, hgs, hos⟩ := ih fun a ha => h a (List.mem_cons_of_mem _ ha)
    refine ⟨g :: gs, .cons hs hss, by simp [hc, hcs], .cons hg hgs, ?_⟩
    intro x hx
    rcases List.mem_cons.1 hx with rfl | hx
    · exact ho
    · exact hos x hx

/-- A concatenation by a function. -/
theorem called {es : List Expr} (hne : es ≠ []) {part : Expr → Fragment} {p : Nat}
    (h : ∀ a ∈ es, Laid d names.tableAlias (part a) a p) (q : Nat) :
    Laid d names.tableAlias (callText "CONCAT" (es.map part)) (.call (some "CONCAT") es) q := by
  obtain ⟨gs, hs, hc, hg, -⟩ := parts h
  have hgs : gs ≠ [] := by
    rintro rfl
    cases hg
    exact hne rfl
  refine .of_bracket _ rfl (.callText (.of "CONCAT" (by decide)) hs) ?_ (.concatenated hg hgs rfl) q
  simpa [comment_list] using hc

/-- A concatenation by the operator. -/
theorem piped {e e' : Expr} {es : List Expr} {part : Expr → Fragment}
    (h : ∀ a ∈ e :: e' :: es, Laid d names.tableAlias (part a) a 9) (q : Nat) :
    Laid d names.tableAlias (Sql.piped ((e :: e' :: es).map part)) (.call (some "CONCAT") (e :: e' :: es)) q := by
  obtain ⟨gs, hs, hc, hg, ho⟩ := parts h
  obtain _ | ⟨h₁, _ | ⟨h₂, hs⟩⟩ := hs
  rename_i g g' gs
  have hsep : " || ".toList = ' ' :: (InfixOp.pipe.text.toList ++ [' ']) := by simp [InfixOp.text]
  have hj := Spells.joined .pipe _ hsep (.cons h₁ (.cons h₂ hs))
  refine .of_bracket _ rfl hj.parenthesized ?_ (.joined hg fun x hx => operators_eq_nil (ho x hx)) q
  simpa [comment_joined] using hc

/-- A part of a concatenation that is replaced if it is NULL. -/
theorem guarded {f : Fragment} {p : Nat} (h : Laid d names.tableAlias f e p) {w : Word}
    (hw : w.text = "IFNULL" ∨ w.text = "COALESCE") {k : Fragment} (hk : k.text.toList = w.text.toList ++ ['('])
    (hb : k.bindings = []) (q : Nat) : Laid d names.tableAlias (k ++ f ++ ", '')") e q := by
  obtain ⟨g, hs, hc, hg, -⟩ := h
  exact .of_bracket _ rfl (.guarded w hk hb hs) (by simpa [Doc.guarded] using hc) (.guarded hg hw) q

theorem concat {e e' : Expr} {es : List Expr} (h : ∀ a ∈ e :: e' :: es, Node d names a)
    (hn : ∀ a ∈ e :: e' :: es, a.calledName ≠ some "CONCAT") :
    Node d names (.call (some "CONCAT") (e :: e' :: es)) := by
  have hv : ∀ a ∈ e :: e' :: es, Laid d names.tableAlias (asValue d (write d names a).result) a 0 :=
    fun a ha => (h a ha).laid.asValue.mono (Nat.zero_le _)
  have hg : ∀ a ∈ e :: e' :: es,
      Laid d names.tableAlias (Operand.grouped d ⟨a, write d names a⟩).result a 9 := fun a ha => (h a ha).grouped
  refine of_laid ?_ (by simp [outerLevel])
  rw [write_concat]
  cases d
  case postgres =>
    have hc := called (by simp) hv 9
    simpa [Sql.concat, nativeCall, values, Operand.value, Function.comp_def, outerLevel] using hc
  case mysql =>
    have hpart (a : Expr) (ha : a ∈ e :: e' :: es) : Laid .mysql names.tableAlias
        ("IFNULL(" ++ asValue .mysql (write .mysql names a).result ++ ", '')") a 9 :=
      guarded (hv a ha) (w := .of "IFNULL" (by decide)) (.inl rfl) (by simp) rfl 9
    have hc := called (by simp) hpart 9
    simpa [Sql.concat, values, Operand.value, Function.comp_def, outerLevel] using hc
  case mssql =>
    have hc := called (by simp) hv 9
    have hlength : ¬ es.length + 1 + 1 < 2 := by omega
    simpa [Sql.concat, values, Operand.value, Function.comp_def, outerLevel, hlength] using hc
  case oracle =>
    have hp := piped hg 9
    simpa [Sql.concat, Function.comp_def, outerLevel] using hp
  case sqlite =>
    have hpart (a : Expr) (ha : a ∈ e :: e' :: es) : Laid .sqlite names.tableAlias
        (if a.calledName = some "CONCAT" then (Operand.grouped .sqlite ⟨a, write .sqlite names a⟩).result
          else "COALESCE(" ++ (Operand.grouped .sqlite ⟨a, write .sqlite names a⟩).result ++ ", '')") a 9 := by
      rw [if_neg (hn a ha)]
      exact guarded (hg a ha) (w := .of "COALESCE" (by decide)) (.inr rfl) (by simp) rfl 9
    have hp := piped hpart 9
    simpa [Sql.concat, Function.comp_def, outerLevel, apply_ite Noted.result] using hp

theorem condition (h : Node d names e) :
    ∃ p, Laid d names.tableAlias (Operand.condition d ⟨e, write d names e⟩).result e p := by
  simp only [Operand.condition, Noted.result_map]
  cases hg : !(write d names e).result.isPredicate && isOperation e with
  | true => exact ⟨_, (h.laid.parenthesized 9).asCondition fun _ => by decide⟩
  | false =>
    refine ⟨_, h.laid.asCondition fun hp => ?_⟩
    have hop : isOperation e = false := by simpa [hp] using hg
    rw [outerLevel_of_not_isOperation hop]
    decide

end Node

/-- What the induction over operator trees carries: a canonical form is a node, and so is every part that
it gives to a concatenation. -/
structure Ready (d : Dialect) (names : Naming) (e : Expr) : Prop where
  node : Node d names e
  parts : ∀ a ∈ Canonical.concatParts e, Node d names a ∧ a.calledName ≠ some "CONCAT"
  parts_ne_nil : Canonical.concatParts e ≠ []
  notFloat : e.calledName ≠ some "FLOAT"

section
variable {d : Dialect} {names : Naming} {e l r : Expr} {op : BinaryOp}

theorem Ready.of_node (h : Node d names e) (hp : Canonical.concatParts e = [e]) (hn : e.calledName = none) :
    Ready d names e where
  node := h
  parts := by
    rw [hp]
    simp [h, hn]
  parts_ne_nil := by simp [hp]
  notFloat := by simp [hn]

theorem concatParts_call (es : List Expr) : Canonical.concatParts (.call (some "CONCAT") es) = es := by
  have hname : Canonical.hasName (some "CONCAT") "CONCAT" = true := by decide
  simp [Canonical.concatParts, hname]

theorem calledName_concat (es : List Expr) : (Expr.call (some "CONCAT") es).calledName = some "CONCAT" := by
  have hupper : Text.upper "CONCAT" = "CONCAT" := by decide
  rw [calledName, hupper]

theorem Ready.concat (hl : Ready d names l) (hr : Ready d names r) :
    Ready d names (.call (some "CONCAT") (Canonical.concatParts l ++ Canonical.concatParts r)) := by
  have hall : ∀ a ∈ Canonical.concatParts l ++ Canonical.concatParts r,
      Node d names a ∧ a.calledName ≠ some "CONCAT" := by
    intro a ha
    rcases List.mem_append.1 ha with ha | ha
    · exact hl.parts a ha
    · exact hr.parts a ha
  obtain ⟨x, xs, hx⟩ := List.exists_cons_of_ne_nil hl.parts_ne_nil
  obtain ⟨y, ys, hy⟩ := List.exists_cons_of_ne_nil hr.parts_ne_nil
  obtain ⟨z, zs, hz⟩ : ∃ z zs, Canonical.concatParts l ++ Canonical.concatParts r = x :: z :: zs := by
    cases xs <;> simp [hx, hy]
  rw [hz] at hall ⊢
  refine ⟨?_, ?_, ?_, ?_⟩
  · exact .concat (fun a ha => (hall a ha).1) fun a ha => (hall a ha).2
  · rwa [concatParts_call]
  · simp [concatParts_call]
  · simp [calledName_concat]

/-- An operator that is no concatenation. -/
theorem Ready.binary (hl : Node d names l) (hr : Node d names r) (hop : ∀ s, op ≠ .other s)
    (hconcat : op ≠ .concat) (heq : op ≠ .eqEq) : Ready d names (.binary op l r) := by
  refine .of_node ?_ rfl rfl
  cases ho : infixOf? d op with
  | some o => exact .binary hl hr ho (infixOf_binaryOp ho heq)
  | none =>
    cases op
    case mod => exact .remainder hl hr (by simpa [infixOf?] using ho)
    case concat => exact absurd rfl hconcat
    case other s => exact absurd rfl (hop s)
    all_goals simp [infixOf?] at ho

end

end Sql

namespace Expr

/-- Literals, columns, operators between two operands, and minus signs. -/
inductive IsOperatorTree : Expr → Prop
  | literal (v : Literal) : IsOperatorTree (.literal v)
  | column (name : String) : IsOperatorTree (.column name)
  | binary {op : BinaryOp} {l r : Expr} (known : ∀ s, op ≠ .other s) (left : IsOperatorTree l)
    (right : IsOperatorTree r) : IsOperatorTree (.binary op l r)
  | minus {e : Expr} (operand : IsOperatorTree e) : IsOperatorTree (.unary .minus e)

theorem IsOperatorTree.ready {e : Expr} (h : e.IsOperatorTree) (d : Dialect) (names : Naming) :
    Sql.Ready d names e.canonical := by
  induction h with
  | literal v => exact .of_node (.literal v) rfl rfl
  | column name => exact .of_node (.column name) rfl rfl
  | minus _ ih => exact .of_node ih.node.minus rfl rfl
  | @binary op l r known _ _ ihl ihr =>
    cases op
    case concat =>
      rw [canonical_concat]
      exact ihl.concat ihr
    case eqEq => exact .binary ihl.node ihr.node (by simp) (by simp) (by simp)
    case div =>
      rw [canonical_div, if_neg ihl.notFloat]
      exact .binary ihl.node.float ihr.node (by simp) (by simp) (by simp)
    all_goals exact .binary ihl.node ihr.node known (by simp) (by simp)

end Expr

namespace Sql

theorem Laid.readExpr {d : Dialect} {table : Option String} {f : Fragment} {e : Expr} {p : Nat}
    (h : Laid d table f e p) : ∃ x, readExpr d table f = some x ∧ x.Regroups True e := by
  obtain ⟨g, hs, hc, ⟨t, x, ht, hx, hxe⟩, -⟩ := h
  exact ⟨x, by simp [Sql.readExpr, ht.readTerm hs hc, hx], hxe⟩

/-- The SQL of an operator tree, as a value and as a condition, reads back as its canonical form. -/
theorem compile_reads_back {e : Expr} (he : e.IsOperatorTree) (d : Dialect) {names : Naming}
    (hn : names.outputName = none) :
    (∃ x, readExpr d names.tableAlias (e.compile d names).fragment = some x ∧ x.Regroups True e.canonical) ∧
      ∃ x, readExpr d names.tableAlias (e.compileCondition d names).fragment = some x ∧
        x.Regroups True e.canonical := by
  have hnode := (he.ready d names).node
  constructor
  · have hv : (e.compile d names).fragment = asValue d (write d names e.canonical).result := by
      simp only [Expr.compile, hn]
      rfl
    rw [hv]
    exact hnode.laid.asValue.readExpr
  · obtain ⟨p, hp⟩ := hnode.condition
    exact hp.readExpr

/-- The parentheses of `a - (b - c)` are kept, and it reads back as itself. -/
theorem difference_reads_back :
    let e : Expr := .binary .sub (.column "a") (.binary .sub (.column "b") (.column "c"))
    (e.compile .sqlite .default).fragment.text = "\"a\" - (\"b\" - \"c\")" ∧
      ∃ x, readExpr .sqlite none (e.compile .sqlite .default).fragment = some x ∧ x.Regroups True e := by
  intro e
  have he : e.IsOperatorTree :=
    .binary (by simp) (.column "a") (.binary (by simp) (.column "b") (.column "c"))
  have hread := compile_reads_back he .sqlite (show Naming.default.outputName = none from rfl)
  exact ⟨by decide, hread.1⟩

/-- The minus sign of `-5` is taken into the value, so that the SQL has no operator where the expression has
one. -/
theorem negative_number_reads_back_as_value :
    let e : Expr := .unary .minus (.number (.ofNat 5))
    (e.compile .sqlite .default).fragment = ⟨"?", [.number (Number.neg (.ofNat 5))], .value⟩ ∧
      ¬ ∃ x, readExpr .sqlite none (e.compile .sqlite .default).fragment = some x ∧
        x.Regroups False e.canonical := by
  intro e
  have hf : (e.compile .sqlite .default).fragment = .bind (.number (Number.neg (.ofNat 5))) := rfl
  have hterm := (Doc.Reads.value (.number (Number.neg (.ofNat 5)))).readTerm (.bind (d := .sqlite) _) rfl
  have hread : readExpr .sqlite none (e.compile .sqlite .default).fragment =
      some (.number (Number.neg (.ofNat 5))) := by
    simp only [hf, readExpr, hterm]
    rfl
  refine ⟨hf, ?_⟩
  rintro ⟨x, hx, hr⟩
  obtain ⟨y, rfl⟩ := hr.unary_of ⟨_, rfl⟩
  rw [hread] at hx
  cases hx

end Sql

end SheetQuery
