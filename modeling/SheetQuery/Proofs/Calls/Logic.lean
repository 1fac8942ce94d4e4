import SheetQuery.Proofs.Calls.Arithmetic
import SheetQuery.Proofs.Layouts.Logic

/-! The functions that choose and those that test close around their arguments. A single condition stands
alone, and tests of nothing and Oracle's test for NULL show their operator. -/

namespace SheetQuery.Sql

variable {d : Dialect} {neg : Binding → Bool} {args : List Operand} {ss : List Sketch}

theorem ifElse_closed (m : MatchesAll d neg args ss) :
    Closed d neg (ifElse d args).result (anyComment (ss.take 3)) := by
  obtain ⟨y, hy, hyc⟩ := MatchesAll.arg m 1
  obtain ⟨n, hn, hnc⟩ := MatchesAll.arg m 2
  rw [anyComment_take_three, ← hyc, ← hnc]
  cases m with
  | nil =>
    have ht : Spells d "1 = 0" (.binary .eq (.keyword "1" (by decide)) (.keyword "0" (by decide))) :=
      ⟨by simp [InfixOp.text], rfl⟩
    rw [hnc]
    exact .of_bracket _ rfl (.given ht hy) (by simp [Doc.given])
  | @cons x s args ss h m =>
    obtain ⟨t, ht, htc⟩ := h.condition.inside
    rw [Sketch.comment_condition] at htc
    have hl := m.length_eq
    by_cases hlen : 2 < (x :: args).length
    · simp only [ifElse, hlen, if_true, List.head?_cons]
      exact .of_bracket _ rfl (.chosen ht hy hn) (by simp [Doc.chosen, htc])
    · have hnull : (s :: ss).getD 2 .null = .null := by
        rw [List.getD_eq_getElem?_getD, List.getElem?_eq_none (by simp at hlen ⊢; omega), Option.getD_none]
      rw [hnc, hnull]
      simp only [ifElse, hlen, if_false, List.head?_cons]
      exact .of_bracket _ rfl (.given ht hy) (by simp [Doc.given, htc])

theorem Doc.comment_branches (g : Doc) (gs : List Doc) :
    (g.branches gs).comment neg = (g.comment neg || gs.any (·.comment neg)) := by
  induction g, gs using branches.induct with
  | case1 g => simp [branches]
  | case2 g v => simp [branches]
  | case3 g v w gs ih => simp [branches, ih, Bool.or_assoc]

theorem switch_closed (m : MatchesAll d neg args ss) :
    Closed d neg (switch d args).result (anyComment ss) := by
  have hm : MatchesAll d neg (args.drop 1) (ss.drop 1) := by
    cases m with
    | nil => exact .nil
    | cons _ m => exact m
  obtain ⟨v, hv, hvc⟩ := MatchesAll.arg m 0
  obtain ⟨gs, hs, hc⟩ := MatchesAll.values hm
  have hany : ((ss.getD 0 .null).face.comment || anyComment (ss.drop 1)) = anyComment ss := by
    cases ss <;> simp [anyComment]
  refine .of_bracket _ rfl (.switch hv hs) ?_
  rw [Doc.comment, Doc.comment_branches, hvc, hc, hany]

theorem allOf_closed (m : MatchesAll d neg args ss) (hl : args.length ≠ 1) (op : InfixOp) :
    Closed d neg (allOf d op.text args).result (anyComment ss) := by
  obtain ⟨gs, hs, hc⟩ := m.inside fun x s hx => by simpa using hx.groupedCondition
  exact .of_bracket _ rfl (.allOf op hl hs) ((comment_joined op gs).trans hc)

theorem xor_closed (m : MatchesAll d neg args ss) (h : d = .mysql → args.length ≠ 1) :
    Closed d neg (xor d args).result (anyComment ss) := by
  by_cases hd : d = .mysql
  · subst hd
    exact allOf_closed m (h rfl) .xor
  · obtain ⟨gs, hs, hc⟩ := m.inside (F := fun x => (x.condition d).result) fun x s hx => by
      simpa using hx.condition.inside
    refine .of_bracket _ rfl (.xor hd hs) ?_
    unfold Doc.xor Doc.remainder
    split <;> simp [comment_joined, Function.comp_def, hc]

theorem isBlank_drawn_nil : Drawn d neg (isBlank d []).result ⟨true, [.between .eq], false, false⟩ := by
  refine ⟨.binary .eq (.keyword "1" (by decide)) (.keyword "1" (by decide)), by decide, ⟨?_, rfl⟩, rfl⟩
  simp [isBlank, InfixOp.text]

theorem isNotBlank_drawn_nil :
    Drawn d neg (isNotBlank d []).result ⟨true, [.between .eq], false, false⟩ := by
  refine ⟨.binary .eq (.keyword "1" (by decide)) (.keyword "0" (by decide)), by decide, ⟨?_, rfl⟩, rfl⟩
  simp [isNotBlank, InfixOp.text]

section
variable {x : Operand} {s : Sketch} (m : Matches d neg x s) (xs : List Operand)
include m

theorem isBlank_drawn_oracle (hd : d = .oracle) : Drawn d neg (isBlank d (x :: xs)).result
    (Face.binary .is (s.grouped d) (.closed false)).asPredicate := by
  subst hd
  obtain ⟨g, hg, hs, hf⟩ := m.grouped
  have hn : (Doc.keyword "NULL" (by decide)).isExpr = true := by decide
  rw [← hf]
  exact ⟨_, by simp [Doc.isBlank, Doc.isExpr, hg, hn], hs.isBlank xs, rfl⟩

theorem isBlank_closed (hd : d ≠ .oracle) : Closed d neg (isBlank d (x :: xs)).result s.face.comment := by
  obtain ⟨g, hg, hc⟩ := m.grouped.inside
  refine .of_bracket _ ?_ (hg.isBlank xs) ?_
  · simp [Doc.isBlank, hd, Doc.isBracket]
  · simpa [Doc.isBlank, hd] using hc

theorem isNotBlank_closed : Closed d neg (isNotBlank d (x :: xs)).result s.face.comment := by
  obtain ⟨g, hg, hc⟩ := isFilled_inside m
  exact .of_bracket (.parens g) rfl hg.parenthesized hc

end

end SheetQuery.Sql
