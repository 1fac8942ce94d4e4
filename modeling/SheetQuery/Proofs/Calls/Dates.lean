import SheetQuery.Proofs.Calls.Arithmetic
import SheetQuery.Proofs.Layouts.Dates

/-! The functions on dates close around their arguments. Where SQL Server subtracts an amount by a minus
sign, the amount after it has none. -/

namespace SheetQuery

theorem Number.lt_zero_neg {n : Number} (h : n.lt .zero = true) : n.neg.lt .zero = false := by
  obtain ⟨s, r⟩ := n
  cases s with
  | false =>
    simp only [lt, key, zero, Bool.false_eq_true, if_false, Bool.and_eq_true, decide_eq_true_eq] at h
    omega
  | true => simp [lt, key, neg, zero]

namespace Sql

variable {d : Dialect} {neg : Binding → Bool} {args : List Operand} {f : Fragment} {b c : Bool}

@[simp]
theorem comment_shiftDoc (u : ShiftUnit) (k : Dialect) : (shiftDoc u k).comment neg = false := rfl

@[simp]
theorem comment_elapsedDoc (u : ElapsedUnit) (k : Dialect) : (elapsedDoc u k).comment neg = false := rfl

def SignsNegatives (neg : Binding → Bool) : Prop :=
  ∀ n, neg (.number n) = true → n.lt .zero = true

/-- A literal amount has no minus signs that meet, and the magnitude of one below zero has no sign. -/
theorem negativeAmount_unsigned (hneg : SignsNegatives neg) {n : Number}
    (h : negativeAmount? args = some n) :
    (numberArg? args 1).isSome = true ∧ neg (.number n) = false := by
  obtain ⟨k, hk, hn⟩ := Option.bind_eq_some_iff.1 h
  refine ⟨by simp [hk], ?_⟩
  split at hn
  case isTrue hlt =>
    obtain rfl : k.neg = n := by simpa using hn
    exact Bool.eq_false_iff.2 fun hs => absurd (hneg _ hs) (by simp [Number.lt_zero_neg hlt])
  case isFalse => simp at hn

theorem Doc.isBracket_dateAdd (v w : Doc) : (dateAdd d args v w).isBracket = true := by
  cases d
  case postgres | mssql => rfl
  all_goals
    simp only [dateAdd]
    split <;> rfl

theorem Doc.comment_dateAdd (hneg : SignsNegatives neg) {v w : Doc}
    (hc : (numberArg? args 1).isSome = true → w.comment neg = false) :
    (dateAdd d args v w).comment neg = (v.comment neg || w.comment neg) := by
  have hamount {n : Number} (hn : negativeAmount? args = some n) :
      neg (.number n) = false ∧ w.comment neg = false :=
    ⟨(negativeAmount_unsigned hneg hn).2, hc (negativeAmount_unsigned hneg hn).1⟩
  cases d
  case mysql =>
    cases hn : negativeAmount? args with
    | some n => simp [dateAdd, interval, hn, hamount hn]
    | none => simp [dateAdd, interval, hn]
  case postgres => simp [dateAdd]
  case mssql =>
    cases hn : negativeAmount? args with
    | some n => simp [dateAdd, hn, hamount hn]
    | none => simp [dateAdd, hn, Bool.or_comm]
  case sqlite =>
    cases hn : numberArg? args 1 with
    | some n => simp [dateAdd, hn, hc (by simp [hn])]
    | none =>
      simp only [dateAdd, hn]
      split <;> simp [scaled]
  case oracle =>
    simp only [dateAdd]
    split <;> simp

theorem dateAdd_closed (hneg : SignsNegatives neg) (h₀ : Inside d neg (arg d args 0).result b)
    (h₁ : Inside d neg (arg d args 1).result c) (g₀ : Inside d neg (groupedArg d args 0).result b)
    (g₁ : Inside d neg (groupedArg d args 1).result c)
    (hc : (numberArg? args 1).isSome = true → c = false) :
    Closed d neg (dateAdd d args).result (b || c) := by
  obtain ⟨v, hv, rfl⟩ : Inside d neg (shiftedDate d args).result b := by
    unfold shiftedDate
    split
    · exact g₀
    · exact h₀
  obtain ⟨w, hw, rfl⟩ : Inside d neg (shiftAmount d args).result c := by
    unfold shiftAmount
    split
    · exact h₁
    · exact g₁
  exact .of_bracket _ (Doc.isBracket_dateAdd v w) (.dateAdd hv fun _ => hw) (Doc.comment_dateAdd hneg hc)

namespace Doc

variable (unit : ElapsedUnit) (x y : Doc)

@[simp]
theorem comment_formatted (pattern : String) : (formatted pattern x).comment neg = x.comment neg := by
  simp [formatted]

@[simp]
theorem comment_extract (part : Doc) : (extract part x).comment neg = (part.comment neg || x.comment neg) := by
  simp [extract]

theorem timestampDiff_closed : (timestampDiff unit x y).isBracket = true ∧
    (timestampDiff unit x y).comment neg = (x.comment neg || y.comment neg) := by
  cases unit <;> exact ⟨rfl, by simp [timestampDiff, scaled, truncated, ageInMonths, agePart]⟩

theorem comment_calendarMonths : (calendarMonths x y).comment neg = (x.comment neg || y.comment neg) := by
  simp only [calendarMonths, calendarYears, comment, comment_formatted, comment_keyword]
  cases x.comment neg <;> cases y.comment neg <;> rfl

theorem julianDiff_closed : (julianDiff unit x y).isBracket = true ∧
    (julianDiff unit x y).comment neg = (x.comment neg || y.comment neg) := by
  cases unit <;>
    exact ⟨rfl, by simp [julianDiff, scaledDays, scaled, julianDays, calendarYears, comment_calendarMonths]⟩

theorem monthsDiff_closed : (monthsDiff unit x y).isBracket = true ∧
    (monthsDiff unit x y).comment neg = (x.comment neg || y.comment neg) := by
  cases unit <;> exact ⟨rfl, by simp [monthsDiff, scaledDays, scaled, truncated, monthsBetween]⟩

theorem dateDiff_closed (d : Dialect) (neg : Binding → Bool) : (dateDiff d unit x y).isBracket = true ∧
    (dateDiff d unit x y).comment neg = (x.comment neg || y.comment neg) := by
  cases d
  case mysql =>
    simp only [dateDiff]
    split
    · exact ⟨rfl, by simp [scaled, counted, Bool.or_comm]⟩
    · exact ⟨rfl, by simp [counted, Bool.or_comm]⟩
  case mssql => exact ⟨rfl, by simp [dateDiff, counted, Bool.or_comm]⟩
  case sqlite => exact julianDiff_closed unit x y
  case postgres => exact (timestampDiff_closed unit _ _).imp_right fun h => h.trans (by simp)
  case oracle => exact (monthsDiff_closed unit _ _).imp_right fun h => h.trans (by simp)

theorem dayNumber_closed (d : Dialect) (neg : Binding → Bool) :
    (dayNumber d x).isBracket = true ∧ (dayNumber d x).comment neg = x.comment neg := by
  cases d <;> exact ⟨rfl, by simp [dayNumber]⟩

theorem weekday_closed (d : Dialect) (neg : Binding → Bool) (start : Weekday) :
    (weekday d start x).isBracket = true ∧ (weekday d start x).comment neg = x.comment neg := by
  have hday := dayNumber_closed x d neg
  have hshifted (k : Nat) : ((dayNumber d x).shifted k).comment neg = x.comment neg := by
    cases k <;> simp [shifted, hday]
  unfold weekday
  split
  · unfold groupedRemainder
    split <;> exact ⟨rfl, by simp [hshifted]⟩
  · exact hday

end Doc

theorem dateDiff_closed (h₀ : Inside d neg (arg d args 0).result b)
    (h₁ : Inside d neg (arg d args 1).result c) : Closed d neg (dateDiff d args).result (b || c) := by
  obtain ⟨v, hv, rfl⟩ := h₀
  obtain ⟨w, hw, rfl⟩ := h₁
  have hdiff := Doc.dateDiff_closed (elapsedUnit args) v w d neg
  exact .of_bracket _ hdiff.1 (.dateDiff hv hw) hdiff.2

theorem dateText_closed (h : Inside d neg (arg d args 0).result b) :
    Closed d neg (dateText d args).result b := by
  obtain ⟨v, hv, rfl⟩ := h
  refine .of_bracket _ ?_ hv.dateText ?_ <;> cases d <;> simp [Doc.dateText, Doc.isBracket]

theorem datePart_closed (part : ShiftUnit) (h : Inside d neg (arg d args 0).result b) :
    Closed d neg (datePart d part args).result b := by
  obtain ⟨v, hv, rfl⟩ := h
  refine .of_bracket _ ?_ (hv.datePart part) ?_ <;> cases d <;> cases part <;>
    simp [Doc.datePart, Doc.formatted, Doc.cast, Doc.extract, Doc.isBracket]

theorem weekday_closed (h : Inside d neg (arg d args 0).result b) :
    Closed d neg (weekday d args).result b := by
  obtain ⟨v, hv, rfl⟩ := h
  have hday := Doc.weekday_closed v d neg (startDay args).result
  exact .of_bracket _ hday.1 hv.weekday hday.2

end Sql

end SheetQuery
