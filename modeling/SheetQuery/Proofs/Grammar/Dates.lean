import SheetQuery.Proofs.Grammar.Arithmetic
import SheetQuery.Proofs.Layouts.Dates

/-! The functions on dates write values. -/

namespace SheetQuery.Sql

variable {d : Dialect} {q : Rules} {args : List Operand} {g v w x y : Doc}

namespace Derives

theorem shiftKeyword (u : ShiftUnit) (e : Dialect) : Derives d q .arguments (shiftDoc u e) :=
  .keyword _ _ (by cases u <;> cases e <;> decide)

theorem elapsedKeyword (u : ElapsedUnit) (e : Dialect) : Derives d q .arguments (elapsedDoc u e) :=
  .keyword _ _ (by cases u <;> cases e <;> decide)

theorem scaled {op : InfixOp} (hop : op.isArithmetic = true) (k : String) (hk) (hc : isConstant k = true)
    (hg : Derives d q .value g) : Derives d q .value (.scaled op g k hk) :=
  .parens (.inl rfl) (.arithmetic hop hg (.number k hk hc))

theorem truncated (k : String) (hk) (hc : isConstant k = true) (hg : Derives d q .value g) :
    Derives d q .value (.truncated g k hk) :=
  .apply _ (by decide) (.arithmetic rfl hg (.number k hk hc))

theorem intervalCall (f : Word) (hf : isFunction f.text = true) (u : ShiftUnit) (hv : Derives d q .value v)
    (hw : Derives d q .value w) : Derives d q .value (.interval f v w (shiftDoc u .mysql)) :=
  .call (.inr hf) (.listed (.argument hv) (.spaced (.keyword "INTERVAL" _ (by decide))
    (.spaced (.argument hw) (shiftKeyword u .mysql))))

theorem dateAdd (hv : Derives d q .value v) (hw : writesAmount d args = true → Derives d q .value w) :
    Derives d q .value (.dateAdd d args v w) := by
  cases d
  case mysql =>
    simp only [Doc.dateAdd]
    split
    case h_1 => exact .intervalCall _ (by decide) _ hv (.placeholder _)
    case h_2 hn => exact .intervalCall _ (by decide) _ hv (hw (by simp [writesAmount, hn]))
  case postgres =>
    exact .parens (.inl rfl) (.arithmetic rfl (hv.castKeyword "TIMESTAMP" _ (by decide))
      (.arithmetic rfl (hw rfl) (.interval _)))
  case mssql =>
    refine .call (.inr (by decide)) (.listed (shiftKeyword _ _) (.listed (.argument ?_) (.argument hv)))
    split
    case h_1 => exact .minus (.placeholder _)
    case h_2 hn => exact hw (by simp [writesAmount, hn])
  case sqlite =>
    simp only [Doc.dateAdd]
    split
    case h_1 => exact .apply₂ _ (by decide) hv (.placeholder _)
    case h_2 hn =>
      replace hw := hw (by simp [writesAmount, hn])
      refine .apply₂ _ (by decide) hv (.arithmetic rfl ?_ (.text _))
      split
      · exact hw.scaled rfl "7" _ (by decide)
      · exact hw
  case oracle =>
    replace hw := hw rfl
    simp only [Doc.dateAdd]
    split
    · exact .apply₂ _ (by decide) hv hw
    · exact .apply₂ _ (by decide) hv (.arithmetic rfl hw (.number "12" _ (by decide)))
    · exact .parens (.inl rfl) (.arithmetic rfl hv (.apply₂ _ (by decide)
        (.arithmetic rfl hw (.number "7" _ (by decide))) (.text _)))
    · exact .parens (.inl rfl) (.arithmetic rfl hv (.apply₂ _ (by decide) hw (.text _)))

theorem scaledDays {other : Doc} (ho : Derives d q .value other) (unit : ElapsedUnit) (hg : Derives d q .value g) :
    Derives d q .value (g.scaledDays other unit) := by
  cases unit
  case days => exact hg
  case months | quarters | years => exact ho
  all_goals exact hg.scaled rfl _ _ (by decide)

theorem formatted (pattern : String) (hg : Derives d q .value g) : Derives d q .value (.formatted pattern g) :=
  .castKeyword (.apply₂ _ (by decide) (.text pattern) hg) "INTEGER" _ (by decide)

theorem extract {part : Doc} (hp : Derives d q .arguments part) (hg : Derives d q .value g) :
    Derives d q .value (.extract part g) :=
  .call (.inr (by decide)) (.spaced hp (.spaced (.keyword "FROM" _ (by decide)) (.argument hg)))

section
variable (unit : ElapsedUnit) (hx : Derives d q .value x) (hy : Derives d q .value y)
include hx hy

theorem agePart (part : String) : Derives d q .value (.agePart part x y) :=
  .apply₂ _ (by decide) (.text part) (.apply₂ _ (by decide) hx hy)

theorem ageInMonths : Derives d q .value (.ageInMonths x y) :=
  .parens (.inl rfl) (.arithmetic rfl (.arithmetic rfl (agePart hx hy "year") (.number "12" _ (by decide)))
    (agePart hx hy "month"))

theorem timestampDiff : Derives d q .value (.timestampDiff unit x y) := by
  have hseconds : Derives d q .value (.extract (.keyword "EPOCH" (by decide)) (.parens (.binary .sub x y))) :=
    .extract (.keyword "EPOCH" _ (by decide)) (.parens (.inl rfl) (.arithmetic rfl hx hy))
  have hmonths := ageInMonths hx hy
  cases unit
  case seconds => exact hseconds
  case months => exact hmonths
  case quarters => exact hmonths.truncated "3" _ (by decide)
  case years => exact agePart hx hy "year"
  all_goals exact hseconds.scaled rfl _ _ (by decide)

theorem calendarYears : Derives d q .value (.calendarYears x y) :=
  .parens (.inl rfl) (.arithmetic rfl (hx.formatted _) (hy.formatted _))

theorem calendarMonths : Derives d q .value (.calendarMonths x y) :=
  .parens (.inl rfl) (.arithmetic rfl (.arithmetic rfl (.arithmetic rfl (calendarYears hx hy)
    (.number "12" _ (by decide))) (hx.formatted _)) (hy.formatted _))

theorem julianDiff : Derives d q .value (.julianDiff unit x y) := by
  refine scaledDays ?_ unit
    (.parens (.inl rfl) (.arithmetic rfl (.apply _ (by decide) hx) (.apply _ (by decide) hy)))
  split
  · exact calendarYears hx hy
  · exact (calendarMonths hx hy).scaled rfl "3" _ (by decide)
  · exact calendarMonths hx hy

theorem monthsDiff : Derives d q .value (.monthsDiff unit x y) := by
  have hmonths : Derives d q .value (.monthsBetween x y) := .apply₂ _ (by decide) hx hy
  refine scaledDays ?_ unit (.parens (.inl rfl) (.arithmetic rfl hx hy))
  split
  · exact hmonths.truncated "3" _ (by decide)
  · exact hmonths.truncated "12" _ (by decide)
  · exact .apply _ (by decide) hmonths

theorem countedIn (f : Word) (hf : isFunction f.text = true) (e : Dialect) :
    Derives d q .value (.counted f (elapsedDoc unit e) x y) :=
  .call (.inr hf) (.listed (elapsedKeyword unit e) (.listed (.argument hy) (.argument hx)))

end

theorem dateDiff (unit : ElapsedUnit) (hv : Derives d q .value v) (hw : Derives d q .value w) :
    Derives d q .value (.dateDiff d unit v w) := by
  cases d
  case mysql =>
    have hdiff := countedIn unit hv hw (.of "TIMESTAMPDIFF" (by decide)) (by decide) .mysql
    simp only [Doc.dateDiff]
    split
    · exact hdiff.scaled rfl "1000" _ (by decide)
    · exact hdiff
  case postgres => exact timestampDiff unit (hv.castKeyword _ _ (by decide)) (hw.castKeyword _ _ (by decide))
  case mssql => exact countedIn unit hv hw (.of "DATEDIFF" (by decide)) (by decide) .mssql
  case sqlite => exact julianDiff unit hv hw
  case oracle => exact monthsDiff unit (hv.castKeyword _ _ (by decide)) (hw.castKeyword _ _ (by decide))

theorem dateText (hv : Derives d q .value v) : Derives d q .value (.dateText d v) := by
  cases d
  case mysql | oracle => exact .apply₂ _ (by decide) hv (.text _)
  case postgres => exact .apply₂ _ (by decide) (hv.castKeyword "DATE" _ (by decide)) (.text _)
  case mssql =>
    exact .call (.inr (by decide)) (.listed (.argument (.apply _ (by decide) (.number "10" _ (by decide))))
      (.listed (.argument hv) (.argument (.number "23" _ (by decide)))))
  case sqlite => exact .apply₂ _ (by decide) (.text _) hv

theorem datePart (part : ShiftUnit) (hv : Derives d q .value v) : Derives d q .value (.datePart d part v) := by
  have hstamp : Derives d q .value (.cast v (.keyword "TIMESTAMP" (by decide))) := hv.castKeyword _ _ (by decide)
  cases d
  case mysql | postgres => exact .extract (shiftKeyword _ _) hstamp
  case mssql => exact .call (.inr (by decide)) (.listed (shiftKeyword _ _) (.argument hv))
  case sqlite => cases part <;> exact hv.formatted _
  case oracle =>
    cases part
    case hour => exact .extract (shiftKeyword _ _) hstamp
    all_goals exact .extract (shiftKeyword _ _) hv

theorem dayNumber (hv : Derives d q .value v) : Derives d q .value (.dayNumber d v) := by
  cases d
  case mysql => exact .apply _ (by decide) hv
  case postgres => exact .extract (.keyword "ISODOW" _ (by decide)) (hv.castKeyword "TIMESTAMP" _ (by decide))
  case mssql =>
    have hday : Derives .mssql q .value
        (.call (.of "DATEPART" (by decide)) (.listed (.keyword "WEEKDAY" (by decide)) v)) :=
      .call (.inr (by decide)) (.listed (.keyword "WEEKDAY" _ (by decide)) (.argument hv))
    exact .parens (.inl rfl) (.arithmetic rfl (.parens (.inl rfl) (.arithmetic rfl (.arithmetic rfl hday
      (.number "@@DATEFIRST" _ (by decide))) (.number "5" _ (by decide)))) (.number "7" _ (by decide)))
  case sqlite => exact hv.formatted _
  case oracle =>
    exact .parens (.inl rfl) (.arithmetic rfl (.apply _ (by decide) hv) (.apply₂ _ (by decide) hv (.text _)))

theorem weekday (start : Weekday) (hv : Derives d q .value v) : Derives d q .value (.weekday d start v) := by
  have hday := hv.dayNumber
  have hshifted (k : Nat) : Derives d q .value ((Doc.dayNumber d v).shifted k) := by
    cases k with
    | zero => exact hday
    | succ k => exact .parens (.inl rfl) (.arithmetic rfl hday (.count _))
  unfold Doc.weekday
  split
  · exact .groupedRemainder (hshifted _) (.number "7" _ (by decide))
  · exact hday

end Derives

section
variable (hs : ∀ x ∈ args, Fits d q x)
include hs

theorem dateAdd_writes (hq : Quiet q (dateAdd d args)) : Writes d q .value (dateAdd d args).result := by
  have hdate : Quiet q (shiftedDate d args) := by
    cases d <;> simp only [dateAdd, quiet_bind] at hq <;> exact hq.1
  have hamount : writesAmount d args = true → Quiet q (shiftAmount d args) := by
    intro hw
    cases d
    case mysql | mssql =>
      have hn : negativeAmount? args = none := by simpa [writesAmount] using hw
      simp only [dateAdd, hn, quiet_bind] at hq
      exact hq.2.1
    case sqlite =>
      have hn : numberArg? args 1 = none := by simpa [writesAmount] using hw
      simp only [dateAdd, hn, quiet_bind] at hq
      exact hq.2.1
    case postgres | oracle =>
      simp only [dateAdd, quiet_bind] at hq
      exact hq.2.1
  have hv : Writes d q .value (shiftedDate d args).result := by
    revert hdate
    unfold shiftedDate
    split
    · exact Fits.groupedArg hs
    · exact Fits.arg hs
  have hw : Quiet q (shiftAmount d args) → Writes d q .value (shiftAmount d args).result := by
    unfold shiftAmount
    split
    · exact Fits.arg hs
    · exact Fits.groupedArg hs
  obtain ⟨v, hv, dv⟩ := hv
  by_cases h : writesAmount d args = true
  · obtain ⟨w, hw, dw⟩ := hw (hamount h)
    exact ⟨_, .dateAdd hv fun _ => hw, .dateAdd dv fun _ => dw⟩
  · exact ⟨_, .dateAdd (w := .empty) hv fun hw => absurd hw h, .dateAdd dv fun hw => absurd hw h⟩

theorem dateDiff_writes (hq : Quiet q (dateDiff d args)) : Writes d q .value (dateDiff d args).result := by
  obtain ⟨hv, hw⟩ : Quiet q (arg d args 0) ∧ Quiet q (arg d args 1) := by simpa [dateDiff] using hq
  obtain ⟨v, hv, dv⟩ := Fits.arg hs hv
  obtain ⟨w, hw, dw⟩ := Fits.arg hs hw
  exact ⟨_, .dateDiff hv hw, .dateDiff _ dv dw⟩

theorem dateText_writes (hq : Quiet q (dateText d args)) : Writes d q .value (dateText d args).result := by
  obtain ⟨v, hv, dv⟩ := Fits.arg hs (i := 0) (by simpa [dateText] using hq)
  exact ⟨_, .dateText hv, .dateText dv⟩

theorem datePart_writes (part : ShiftUnit) (hq : Quiet q (datePart d part args)) :
    Writes d q .value (datePart d part args).result := by
  obtain ⟨v, hv, dv⟩ := Fits.arg hs (i := 0) (by simpa [datePart] using hq)
  exact ⟨_, .datePart part hv, .datePart part dv⟩

theorem weekday_writes (hq : Quiet q (weekday d args)) : Writes d q .value (weekday d args).result := by
  obtain ⟨hv, -⟩ : Quiet q (arg d args 0) ∧ Quiet q (startDay args) := by simpa [weekday] using hq
  obtain ⟨v, hv, dv⟩ := Fits.arg hs hv
  exact ⟨_, .weekday hv, .weekday _ dv⟩

end

end SheetQuery.Sql
