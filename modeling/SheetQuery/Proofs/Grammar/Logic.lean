import SheetQuery.Proofs.Grammar.Arithmetic

/-! The functions that choose write values, and those that test write predicates. -/

namespace SheetQuery.Sql

variable {d : Dialect} {q : Rules} {args : List Operand} {g v w : Doc} {gs : List Doc}

namespace Derives

/-- The cases of a choice and what it gives in all others. -/
theorem branches (hg : Derives d q .cases g) (h : ∀ g ∈ gs, Derives d q .value g) :
    Derives d q .value (.choice (g.branches gs)) := by
  induction g, gs using Doc.branches.induct with
  | case1 g => exact .matched hg
  | case2 g v => exact .matchedOr hg (h v (by simp))
  | case3 g v w gs ih =>
    exact ih (.nextCase hg (h v (by simp)) (h w (by simp))) fun x hx => h x (by simp [hx])

/-- A choice by value has at least one case. -/
theorem switch (hv : Derives d q .value v) (h : ∀ g ∈ gs, Derives d q .value g) (hl : q.lax ∨ 2 ≤ gs.length) :
    Derives d q .value (.choice (v.branches gs)) := by
  rcases hl with hl | hl
  · exact branches (.caseless hl hv) h
  · match gs with
    | g :: g' :: gs =>
      have hfirst : Derives d q .cases (v.case g g') := .firstCase hv (h g (by simp)) (h g' (by simp))
      exact hfirst.branches fun x hx => h x (by simp [hx])

theorem xor (hl : q.lax ∨ gs ≠ []) (h : ∀ g ∈ gs, Derives d q .predicate g) :
    Derives d q .predicate (.xor d gs) :=
  .parens (.inr rfl) (.comparison rfl (.remainder (.parens (.inl rfl) (.sum hl h)) (.number "2" _ (by decide)))
    (.number "1" _ (by decide)))

theorem isBlank (hg : Derives d q .value g) : Derives d q .predicate (g.isBlank d) := by
  unfold Doc.isBlank
  split
  · exact .isNull hg
  · exact .parens (.inr rfl) (.logical rfl (.isNull hg) (.comparison rfl (hg.cast .textType) (.text "")))

end Derives

theorem ne_nil_of_forall₂ {R : Operand → Doc → Prop} (h : List.Forall₂ R args gs) (hne : args ≠ []) : gs ≠ [] := by
  rintro rfl
  cases h
  exact hne rfl

theorem branches_quiet {xs : List Operand} (hq : Quiet q (branches d xs)) : Quiet q (values d xs) := by
  induction xs using branches.induct with
  | case1 => simp [values]
  | case2 x => simpa [values, branches] using hq
  | case3 case result rest ih =>
    obtain ⟨hcase, hresult, hrest⟩ : Quiet q (case.value d) ∧ Quiet q (result.value d) ∧ Quiet q (branches d rest) := by
      simpa [branches] using hq
    have hv := ih hrest
    simp only [values, quiet_all, List.forall_mem_map] at hv ⊢
    simpa [hcase, hresult] using hv

section
variable (hs : ∀ x ∈ args, Fits d q x)
include hs

theorem ifElse_writes (hq : Quiet q (ifElse d args)) : Writes d q .value (ifElse d args).result := by
  cases args with
  | nil =>
    obtain ⟨y, hy, dy⟩ := Fits.arg hs (i := 1) (by simpa [ifElse] using hq)
    have ht : Spells d "1 = 0" (.binary .eq (.keyword "1" (by decide)) (.keyword "0" (by decide))) :=
      ⟨by simp [InfixOp.text], rfl⟩
    exact ⟨_, .given ht hy, .given (.comparison rfl (.number "1" _ (by decide)) (.number "0" _ (by decide))) dy⟩
  | cons x xs =>
    by_cases hl : 2 < (x :: xs).length
    · simp only [ifElse, hl, if_true, List.head?_cons, quiet_bind] at hq ⊢
      obtain ⟨t, ht, dt⟩ := (hs x (by simp)).condition hq.1
      obtain ⟨y, hy, dy⟩ := Fits.arg hs hq.2.1
      obtain ⟨n, hn, dn⟩ := Fits.arg hs hq.2.2.1
      exact ⟨_, .chosen ht hy hn, .chosen dt dy dn⟩
    · simp only [ifElse, hl, if_false, List.head?_cons, quiet_bind] at hq ⊢
      obtain ⟨t, ht, dt⟩ := (hs x (by simp)).condition hq.1
      obtain ⟨y, hy, dy⟩ := Fits.arg hs hq.2.1
      exact ⟨_, .given ht hy, .given dt dy⟩

theorem switch_writes (hl : q.lax ∨ 3 ≤ args.length) (hq : Quiet q (switch d args)) :
    Writes d q .value (switch d args).result := by
  obtain ⟨hv, hb⟩ : Quiet q (arg d args 0) ∧ Quiet q (branches d (args.drop 1)) := by simpa [switch] using hq
  obtain ⟨v, hv, dv⟩ := Fits.arg hs hv
  obtain ⟨gs, hgs, dgs⟩ := Fits.values (fun x hx => hs x (List.mem_of_mem_drop hx)) (branches_quiet hb)
  have hlen : q.lax ∨ 2 ≤ gs.length := hl.imp_right fun h => by
    rw [← hgs.length_eq, List.length_drop]
    omega
  exact ⟨_, .switch hv hgs, .switch dv dgs hlen⟩

theorem allOf_writes (op : InfixOp) (hop : op.isLogical = true) (hl : q.lax ∨ args ≠ [])
    (hq : Quiet q (allOf d op.text args)) : Writes d q .predicate (allOf d op.text args).result := by
  by_cases hone : args.length = 1
  · obtain ⟨x, rfl⟩ := List.length_eq_one_iff.1 hone
    exact (hs x (by simp)).condition hq
  · have hall : ∀ x ∈ args, Quiet q (x.groupedCondition d) := by
      rw [allOf.eq_def] at hq
      split at hq
      case h_1 => simp at hone
      case h_2 => simpa using hq
    obtain ⟨gs, hgs, dgs⟩ := Fits.layouts fun x hx => (hs x hx).groupedCondition (hall x hx)
    have hne : q.lax ∨ gs ≠ [] := hl.imp_right (ne_nil_of_forall₂ hgs)
    exact ⟨_, .allOf op hone hgs, .parens (.inr rfl) (.joined (fun _ _ => .logical hop) hne dgs)⟩

theorem xor_writes (hl : q.lax ∨ args ≠ []) (hq : Quiet q (xor d args)) :
    Writes d q .predicate (xor d args).result := by
  by_cases hd : d = .mysql
  · subst hd
    exact allOf_writes hs .xor rfl hl hq
  · have hall : ∀ x ∈ args, Quiet q (x.condition d) := by
      cases d
      case mysql => exact absurd rfl hd
      all_goals simpa [xor] using hq
    obtain ⟨gs, hgs, dgs⟩ := Fits.layouts fun x hx => (hs x hx).condition (hall x hx)
    have hne : q.lax ∨ gs ≠ [] := hl.imp_right (ne_nil_of_forall₂ hgs)
    exact ⟨_, .xor hd hgs, .xor hne dgs⟩

theorem isBlank_writes (hq : Quiet q (isBlank d args)) : Writes d q .predicate (isBlank d args).result := by
  cases args with
  | nil =>
    exact ⟨.binary .eq (.keyword "1" (by decide)) (.keyword "1" (by decide)), ⟨by simp [isBlank, InfixOp.text], rfl⟩,
      .comparison rfl (.number "1" _ (by decide)) (.number "1" _ (by decide))⟩
  | cons x xs =>
    obtain ⟨g, hg, dg⟩ := (hs x (by simp)).grouped (by simpa [isBlank] using hq)
    exact ⟨_, .isBlank hg xs, .isBlank dg⟩

theorem isNotBlank_writes (hq : Quiet q (isNotBlank d args)) :
    Writes d q .predicate (isNotBlank d args).result := by
  cases args with
  | nil =>
    exact ⟨.binary .eq (.keyword "1" (by decide)) (.keyword "0" (by decide)), ⟨by simp [isNotBlank, InfixOp.text], rfl⟩,
      .comparison rfl (.number "1" _ (by decide)) (.number "0" _ (by decide))⟩
  | cons x xs =>
    obtain ⟨g, hg, dg⟩ := (hs x (by simp)).grouped (by simpa [isNotBlank, isFilled] using hq)
    exact ⟨_, .isNotBlank hg xs, .parens (.inr rfl) (.isFilled dg)⟩

end

end SheetQuery.Sql
