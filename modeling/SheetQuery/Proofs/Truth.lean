import SheetQuery.Proofs.OperatorStructure

/-! The truth of conditions. A tree of SQL is taken for a condition over atoms: AND and OR connect, parentheses group,
and the truth of everything else is given. What a chain of one connective says does not depend on how it is grouped,
and so parts of a chain may be chains themselves. -/

namespace SheetQuery.Sql

inductive Connective
  | and
  | or
deriving DecidableEq, Repr

namespace Connective

def infixOp : Connective → InfixOp
  | and => .and
  | or => .or

theorem eq_of_level_eq {b c : Connective} (h : b.infixOp.level = c.infixOp.level) : b = c := by
  revert h
  cases b <;> cases c <;> decide

/-- The truth value that decides by itself. -/
def zero : Connective → Bool
  | and => false
  | or => true

/-- The connective on truth values of SQL, where `none` is unknown. -/
def join (c : Connective) (v w : Option Bool) : Option Bool :=
  if v = some c.zero ∨ w = some c.zero then some c.zero
  else if v = none ∨ w = none then none
  else some !c.zero

def joinAll (c : Connective) (vs : List (Option Bool)) : Option Bool := vs.foldl c.join (some !c.zero)

theorem join_assoc (c : Connective) (u v w : Option Bool) : c.join (c.join u v) w = c.join u (c.join v w) := by
  cases c <;> rcases u with _ | _ | _ <;> rcases v with _ | _ | _ <;> rcases w with _ | _ | _ <;> rfl

theorem unit_join (c : Connective) (v : Option Bool) : c.join (some !c.zero) v = v := by
  cases c <;> rcases v with _ | _ | _ <;> rfl

theorem joinAll_cons (c : Connective) (v : Option Bool) (vs : List (Option Bool)) :
    c.joinAll (v :: vs) = vs.foldl c.join v := by
  rw [joinAll, List.foldl_cons, unit_join]

end Connective

/-- The truth of a tree, given that of its atoms. -/
def Term.truth (τ : Term → Option Bool) : Term → Option Bool
  | .binary .and l r => Connective.and.join (Term.truth τ l) (Term.truth τ r)
  | .binary .or l r => Connective.or.join (Term.truth τ l) (Term.truth τ r)
  | .group "" [("", t)] => Term.truth τ t
  | t => τ t

variable {τ : Term → Option Bool}

theorem Term.truth_connective (c : Connective) (l r : Term) :
    (Term.binary c.infixOp l r).truth τ = c.join (l.truth τ) (r.truth τ) := by
  cases c <;> simp [Connective.infixOp, Term.truth]

theorem Term.truth_parens (t : Term) : (Term.group "" [("", t)]).truth τ = t.truth τ := by
  simp [Term.truth]

/-! Every expression is read as some tree. An operator outside brackets, if there is one, stands at its root. -/

section
variable {α : Type} {leaf : List α → Term} {ks s : List Pending} {ms : List (Mark α)} {t : Term}

theorem exists_close_eq_apply (hs : s ≠ []) (t : Term) : ∃ k ∈ s, ∃ x, (close 0 s t).2 = k.apply x := by
  induction s generalizing t with
  | nil => exact absurd rfl hs
  | cons k ks ih =>
    have hclose : close 0 (k :: ks) t = close 0 ks (k.apply t) := by simp [close]
    rw [hclose]
    cases ks with
    | nil => exact ⟨k, by simp, t, rfl⟩
    | cons m ms =>
      obtain ⟨n, hn, x, hx⟩ := ih (by simp) (k.apply t)
      exact ⟨n, List.mem_cons_of_mem k hn, x, hx⟩

/-- If nothing waits after reading a sequence, it has no operators. -/
theorem operators_of_scan_nil (h : scan leaf ks ms = some ([], t)) : ks = [] ∧ Mark.operators ms = [] := by
  fun_induction scan leaf ks ms with
  | case1 => simp at h
  | case2 ks run =>
    obtain ⟨rfl, -⟩ : ks = [] ∧ leaf run = t := by simpa using h
    exact ⟨rfl, rfl⟩
  | case3 ks run op ms ih => exact absurd (ih h).1 (by simp)
  | case4 => simp at h
  | case5 ks ms ih => exact absurd (ih h).1 (by simp)
  | case6 ks ms ih => exact absurd (ih h).1 (by simp)
  | case7 => simp at h

end

namespace Doc

variable {g : Doc} {v w : Option Bool}

theorem exists_scan (hg : g.isExpr = true) (ks : List Pending) : ∃ s, scan Item.termOf ks g.marks = some s := by
  induction g generalizing ks with
  | binary op l r ihl ihr =>
    obtain ⟨hl, hr⟩ : l.isExpr = true ∧ r.isExpr = true := by simpa [isExpr] using hg
    obtain ⟨s, hs⟩ := ihl hl ks
    obtain ⟨s', hs'⟩ := ihr hr (.left (close op.level s.1 s.2).2 op :: (close op.level s.1 s.2).1)
    exact ⟨s', by rw [marks_binary, scan_append, hs, Option.bind_some, hs']⟩
  | minus g ih => exact ih hg (.minus :: ks)
  | not g ih => exact ih hg (.not :: ks)
  | empty => simp [isExpr] at hg
  | spaced l r => simp [isExpr] at hg
  | listed l r => simp [isExpr] at hg
  | _ => exact ⟨_, rfl⟩

theorem exists_reads (hg : g.isExpr = true) (hne : g.operators ≠ []) :
    ∃ t, g.Reads t ∧ ∃ k : Pending, k.operator ∈ g.operators ∧ ∃ x, t = k.apply x := by
  obtain ⟨⟨s, t⟩, hs⟩ := exists_scan hg []
  have hwait : s ≠ [] := by
    rintro rfl
    exact hne (by rw [← operators_marks]; exact (operators_of_scan_nil hs).2)
  obtain ⟨k, hk, x, hx⟩ := exists_close_eq_apply hwait t
  refine ⟨_, ⟨hg, by rw [tie, hs, Option.map_some]⟩, k, ?_, x, hx⟩
  rw [← operators_marks]
  exact (scan_operators hs k hk).resolve_left (by simp)

/-- An expression whose operators bind tighter than the connectives is an atom. -/
theorem exists_reads_atom (hg : g.isExpr = true) (hne : g.operators ≠ [])
    (h : ∀ u ∈ g.operators, InfixOp.eq.level ≤ u.level) : ∃ t, g.Reads t ∧ t.truth τ = τ t := by
  obtain ⟨_, ht, k, hk, x, rfl⟩ := exists_reads hg hne
  refine ⟨_, ht, ?_⟩
  cases k with
  | left l op =>
    have hlevel : InfixOp.eq.level ≤ op.level := h _ hk
    cases op
    case and | or => exact absurd hlevel (by decide)
    all_goals rfl
  | minus | not => rfl

def Judges (τ : Term → Option Bool) (g : Doc) (v : Option Bool) : Prop := ∃ t, g.Reads t ∧ t.truth τ = v

/-- A layout that can be put after a connective: the connective then takes all of it, or all of a chain of itself. -/
def Extends (τ : Term → Option Bool) (c : Connective) (g : Doc) (v : Option Bool) : Prop :=
  ∀ g' v', g'.Judges τ v' → (∀ u ∈ g'.operators, c.infixOp.level ≤ u.level) →
    (Doc.binary c.infixOp g' g).Judges τ (c.join v' v)

theorem Judges.parens (h : g.Judges τ v) : (Doc.parens g).Judges τ v := by
  obtain ⟨t, ht, hv⟩ := h
  exact ⟨_, ht.parens, by rw [Term.truth_parens, hv]⟩

theorem Judges.extends (h : g.Judges τ v) {c : Connective} (hg : ∀ u ∈ g.operators, c.infixOp.level < u.level) :
    g.Extends τ c v := by
  rintro g' v' ⟨t', ht', rfl⟩ hg'
  obtain ⟨t, ht, rfl⟩ := h
  exact ⟨_, ht'.binary ht hg' (unbroken_of_lt hg), Term.truth_connective c t' t⟩

/-- A chain extends a chain of the same connective if its two sides do. -/
theorem Extends.chain {g' : Doc} {c : Connective} (h : g.Extends τ c v) (h' : g'.Extends τ c w)
    (hg : ∀ u ∈ g.operators, c.infixOp.level ≤ u.level) :
    (Doc.binary c.infixOp g g').Extends τ c (c.join v w) := by
  intro k x hk hko
  have hbound : ∀ u ∈ (Doc.binary c.infixOp k g).operators, c.infixOp.level ≤ u.level := by
    simp only [Doc.operators, List.mem_append, List.mem_cons, or_imp, forall_and, forall_eq]
    exact ⟨hko, Nat.le_refl _, hg⟩
  obtain ⟨t, ht, hv⟩ := h' _ _ (h k x hk hko) hbound
  refine ⟨t, ht.congr ?_ ?_, by rw [hv, Connective.join_assoc]⟩
  · simp [Doc.isExpr, Bool.and_assoc]
  · simp

end Doc

/-- A fragment with a truth, whose operators outside brackets bind as level `p` or tighter, and which may stand in
a chain of any connective that binds no tighter. -/
def Stands (d : Dialect) (τ : Term → Option Bool) (f : Fragment) (v : Option Bool) (p : Nat) : Prop :=
  ∃ g : Doc, Spells d f g ∧ g.comment noSign = false ∧ g.Judges τ v ∧ (∀ u ∈ g.operators, p ≤ u.level) ∧
    ∀ c : Connective, c.infixOp.level ≤ p → g.Extends τ c v

namespace Stands

variable {d : Dialect} {f h : Fragment} {v w : Option Bool} {p : Nat}

theorem mono {q : Nat} (hf : Stands d τ f v p) (hq : q ≤ p) : Stands d τ f v q := by
  obtain ⟨g, hs, hc, hv, hp, he⟩ := hf
  exact ⟨g, hs, hc, hv, fun u hu => hq.trans (hp u hu), fun c hcq => he c (hcq.trans hq)⟩

theorem congr (hf : Stands d τ f v p) (ht : h.text = f.text) (hb : h.bindings = f.bindings) : Stands d τ h v p := by
  obtain ⟨g, hs, hg⟩ := hf
  exact ⟨g, hs.congr ht hb, hg⟩

theorem parenthesized (hf : Stands d τ f v p) (q : Nat) : Stands d τ f.parenthesized v q := by
  obtain ⟨g, hs, hc, hv, -, -⟩ := hf
  exact ⟨.parens g, hs.parenthesized, hc, hv.parens, by simp [Doc.operators],
    fun c _ => hv.parens.extends (by simp [Doc.operators])⟩

/-- Two parts with a connective between them. -/
theorem joined (c : Connective) (hf : Stands d τ f v c.infixOp.level) (hh : Stands d τ h w c.infixOp.level)
    {o : Fragment} (ho : o.text.toList = ' ' :: (c.infixOp.text.toList ++ [' '])) (hb : o.bindings = []) :
    Stands d τ (f ++ o ++ h) (c.join v w) c.infixOp.level := by
  obtain ⟨g, hs, hc, hv, hp, he⟩ := hf
  obtain ⟨g', hs', hc', hw, hp', he'⟩ := hh
  have hjoin : (Doc.binary c.infixOp g g').Judges τ (c.join v w) := he' c (Nat.le_refl _) g v hv hp
  have hbound : ∀ u ∈ (Doc.binary c.infixOp g g').operators, c.infixOp.level ≤ u.level := by
    simp only [Doc.operators, List.mem_append, List.mem_cons, or_imp, forall_and, forall_eq]
    exact ⟨hp, Nat.le_refl _, hp'⟩
  refine ⟨_, .binary c.infixOp ho hb hs hs', by simp [hc, hc'], hjoin, hbound, fun b hb => ?_⟩
  by_cases hbc : b = c
  · rw [hbc]
    exact (he c (Nat.le_refl _)).chain (he' c (Nat.le_refl _)) hp
  · have hlt : b.infixOp.level < c.infixOp.level :=
      Nat.lt_of_le_of_ne hb fun hlevel => hbc (Connective.eq_of_level_eq hlevel)
    exact hjoin.extends fun u hu => Nat.lt_of_lt_of_le hlt (hbound u hu)

theorem foldl (c : Connective) {sep : String} (hsep : sep.toList = ' ' :: (c.infixOp.text.toList ++ [' ']))
    {fs : List Fragment} {vs : List (Option Bool)} (hf : Stands d τ f v c.infixOp.level)
    (hs : List.Forall₂ (fun f v => Stands d τ f v c.infixOp.level) fs vs) :
    Stands d τ (fs.foldl (fun acc g => acc ++ Fragment.raw sep ++ g) f) (vs.foldl c.join v) c.infixOp.level := by
  induction hs generalizing f v with
  | nil => exact hf
  | cons hh _ ih => exact ih (hf.joined c hh hsep rfl)

/-- Any number of parts with a connective between them. -/
theorem join (c : Connective) {sep : String} (hsep : sep.toList = ' ' :: (c.infixOp.text.toList ++ [' ']))
    {fs : List Fragment} {vs : List (Option Bool)} (hne : fs ≠ [])
    (hs : List.Forall₂ (fun f v => Stands d τ f v c.infixOp.level) fs vs) :
    Stands d τ (Fragment.join sep fs) (c.joinAll vs) c.infixOp.level := by
  rcases hs with _ | ⟨hf, hs⟩
  · exact absurd rfl hne
  · rw [Connective.joinAll_cons]
    exact foldl c hsep (hf.congr rfl rfl) hs

/-- An atom has the truth that is given to its tree. -/
theorem atom {g : Doc} {t : Term} (hs : Spells d f g) (hc : g.comment noSign = false) (ht : g.Reads t)
    (hv : t.truth τ = τ t) (hg : ∀ u ∈ g.operators, InfixOp.eq.level ≤ u.level) :
    Stands d τ f ((readTerm d f).bind τ) InfixOp.eq.level := by
  have hjudges : g.Judges τ ((readTerm d f).bind τ) := ⟨t, ht, by rw [ht.readTerm hs hc, hv, Option.bind_some]⟩
  refine ⟨g, hs, hc, hjudges, hg, fun c _ => hjudges.extends fun u hu => ?_⟩
  have hlt : c.infixOp.level < InfixOp.eq.level := by cases c <;> decide
  exact Nat.lt_of_lt_of_le hlt (hg u hu)

end Stands

/-- A value in the place of a condition is an atom. -/
theorem Doc.exists_reads_toCondition {g : Doc} {t : Term} (d : Dialect) (ht : g.Reads t) (hv : t.truth τ = τ t)
    (hg : g.operators = []) : ∃ t', (g.toCondition d false).Reads t' ∧ t'.truth τ = τ t' := by
  have hzero : (Doc.keyword "0" (by decide)).isExpr = true := by decide
  cases d
  case mysql | sqlite => exact ⟨t, ht, hv⟩
  case mssql | oracle =>
    refine exists_reads_atom (by simp [toCondition, isExpr, ht.expr, hzero]) (by simp [toCondition, operators]) ?_
    simp [toCondition, operators, hg, Doc.keyword, Operator.level, InfixOp.level]
  case postgres =>
    exact ⟨_, ht.cast ["BOOLEAN"] rfl (by simp) (by decide), rfl⟩

theorem Doc.level_toCondition {g : Doc} (d : Dialect) (hg : g.operators = []) :
    ∀ u ∈ (g.toCondition d false).operators, InfixOp.eq.level ≤ u.level := by
  cases d <;>
    simp [toCondition, operators, Doc.keyword, Doc.cast, hg, Operator.level, InfixOp.level]

theorem Stands.of_value {d : Dialect} {f : Fragment} {g : Doc} {t : Term} (hp : f.isPredicate = false)
    (hs : Spells d f g) (hc : g.comment noSign = false) (ht : g.Reads t) (hv : t.truth τ = τ t)
    (hg : g.operators = []) :
    Stands d τ (asCondition d f) ((readTerm d (asCondition d f)).bind τ) InfixOp.eq.level := by
  have hcond := hs.toCondition
  rw [hp] at hcond
  have hcomment : (g.toCondition d false).comment noSign = false := by
    cases d <;> simp [Doc.toCondition, hc]
  obtain ⟨t', ht', hv'⟩ := Doc.exists_reads_toCondition d ht hv hg
  exact .atom hcond hcomment ht' hv' (Doc.level_toCondition d hg)

end SheetQuery.Sql
