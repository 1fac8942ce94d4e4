import SheetQuery.Proofs.Grammar.Places

/-! The numeric functions write values. -/

namespace SheetQuery.Sql

variable {d : Dialect} {q : Rules} {args : List Operand} {f : Fragment} {g l r v w : Doc}

namespace Derives

theorem count (n : Nat) : Derives d q .value (countDoc n) :=
  .number _ _ (by
    rw [isConstant, Bool.or_eq_true, List.all_eq_true]
    exact .inr fun c hc => by simp [isDigit_toString n c hc])

theorem floatType : Derives d q .arguments (floatDoc d) := by
  cases d
  case postgres => exact .spaced (.keyword "DOUBLE" _ (by decide)) (.keyword "PRECISION" _ (by decide))
  all_goals exact .keyword _ (by decide) (by decide)

theorem textType : Derives d q .arguments (textDoc d) := by
  cases d
  case mssql => exact .argument (.call (.inr (by decide)) (.keyword "MAX" _ (by decide)))
  case oracle => exact .argument (.apply _ (by decide) (.number "4000" _ (by decide)))
  all_goals exact .keyword _ (by decide) (by decide)

theorem round (hv : Derives d q .value v) (hw : Derives d q .value w) : Derives d q .value (.round d v w) := by
  cases d
  case postgres =>
    exact .apply₂ _ (by decide) (hv.castKeyword "NUMERIC" _ (by decide)) (hw.castKeyword "INTEGER" _ (by decide))
  all_goals exact .apply₂ _ (by decide) hv hw

theorem roundedUp (hv : Derives d q .value v) : Derives d q .value (.roundedUp d v) := by
  cases d
  case sqlite =>
    have hc := hv.castKeyword "INTEGER" (by decide) (by decide)
    exact .parens (.inl rfl) (.arithmetic rfl hc
      (.parens (.inl rfl) (.ofPredicate rfl (.comparison rfl hv hc))))
  all_goals exact .apply _ (by decide) hv

theorem roundedDown (hv : Derives d q .value v) : Derives d q .value (.roundedDown d v) := by
  cases d
  case sqlite =>
    have hc := hv.castKeyword "INTEGER" (by decide) (by decide)
    exact .parens (.inl rfl) (.arithmetic rfl hc
      (.parens (.inl rfl) (.ofPredicate rfl (.comparison rfl hv hc))))
  all_goals exact .apply _ (by decide) hv

theorem roundTowards {layout : Doc → Doc} (hd : ∀ g, Derives d q .value g → Derives d q .value (layout g))
    (hv : Derives d q .value v) (hw : Derives d q .value w) : Derives d q .value (.roundTowards layout v w) := by
  have hp : Derives d q .value w.powerOfTen := .apply₂ _ (by decide) (.number "10.0" _ (by decide)) hw
  exact .parens (.inl rfl) (.arithmetic rfl (hd _ (.arithmetic rfl hv hp)) hp)

theorem bySign (hv : Derives d q .value v) (hl : Derives d q .value l) (hr : Derives d q .value r) :
    Derives d q .value (.bySign v l r) :=
  .chosen (.comparison rfl hv (.number "0" _ (by decide))) hl hr

theorem even (hv : Derives d q .value v) : Derives d q .value (.even d v) := by
  have htwo := number (d := d) (q := q) "2" (by decide) (by decide)
  have hhalf : Derives d q .value (.binary .div (.cast v (floatDoc d)) (.keyword "2" (by decide))) :=
    .arithmetic rfl (hv.cast .floatType) htwo
  exact .bySign hv (.arithmetic rfl hhalf.roundedUp htwo) (.arithmetic rfl hhalf.roundedDown htwo)

theorem halfBeside (op : InfixOp) (hop : op.isArithmetic = true) (hv : Derives d q .value v) :
    Derives d q .value (.halfBeside d op v) :=
  .arithmetic rfl (.parens (.inl rfl) (.arithmetic hop (hv.cast .floatType) (.number "1" _ (by decide))))
    (.number "2" _ (by decide))

theorem odd (hv : Derives d q .value v) : Derives d q .value (.odd d v) := by
  have hone := number (d := d) (q := q) "1" (by decide) (by decide)
  have htwo := number (d := d) (q := q) "2" (by decide) (by decide)
  have hup := (halfBeside .add rfl hv).roundedUp
  have hdown := (halfBeside .sub rfl hv).roundedDown
  exact .bySign hv (.arithmetic rfl (.arithmetic rfl hup htwo) hone)
    (.arithmetic rfl (.arithmetic rfl hdown htwo) hone)

theorem remainder (hl : Derives d q .value l) (hr : Derives d q .value r) :
    Derives d q .value (.remainder d l r) := by
  unfold Doc.remainder
  split
  · exact .arithmetic rfl hl hr
  · exact .apply₂ _ (by decide) hl hr

theorem groupedRemainder (hl : Derives d q .value l) (hr : Derives d q .value r) :
    Derives d q .value (.groupedRemainder d l r) := by
  unfold Doc.groupedRemainder
  split
  · exact .parens (.inl rfl) (.arithmetic rfl hl hr)
  · exact .apply₂ _ (by decide) hl hr

theorem naturalLog (hv : Derives d q .value v) : Derives d q .value (.naturalLog d v) := by
  unfold Doc.naturalLog
  split <;> exact .apply _ (by decide) hv

theorem logToBase (hv : Derives d q .value v) (hw : Derives d q .value w) :
    Derives d q .value (.logToBase d v w) := by
  unfold Doc.logToBase
  split
  · exact .apply₂ _ (by decide) hw hv
  · exact .apply₂ _ (by decide) hv hw

theorem wholePart (hv : Derives d q .value v) : Derives d q .value (.wholePart d v) := by
  cases d
  case mysql => exact .apply₂ _ (by decide) hv (.number "0" _ (by decide))
  all_goals exact hv.castKeyword _ _ (by decide)

theorem replaceIn (old new : String) (hg : Derives d q .value g) : Derives d q .value (.replaceIn old new g) :=
  .call (.inr (by decide)) (.listed (.argument hg) (.listed (.argument (.text old)) (.argument (.text new))))

theorem replaceAll (pairs : List (String × String)) (hg : Derives d q .value g) :
    Derives d q .value (.replaceAll pairs g) := by
  induction pairs generalizing g with
  | nil => exact hg
  | cons p ps ih => exact ih (hg.replaceIn p.1 p.2)

theorem withoutMarks (hg : Derives d q .value g) : Derives d q .value g.withoutMarks :=
  .apply₂ _ (by decide) (hg.replaceAll _) (.text "")

theorem withoutOthers (hv : Derives d q .value v) : Derives d q .value (.withoutOthers d v) := by
  refine .call (.inr (by decide)) (.listed (.argument hv) (.listed (.argument (.text _)) ?_))
  split
  · exact .listed (.argument (.text _)) (.argument (.text _))
  · exact .argument (.text _)

theorem numberOfText (hv : Derives d q .value v) : Derives d q .value (.numberOfText d v) := by
  have hnull (g : Doc) (hg : Derives d q .value g) :
      Derives d q .value (.call (.of "NULLIF" (by decide)) (.listed g (.text ""))) :=
    .apply₂ _ (by decide) hg (.text "")
  have ht : Derives d q .value (.cast v (textDoc d)) := hv.cast .textType
  cases d
  case mysql =>
    exact .parens (.inl rfl) (.arithmetic rfl (hnull _ hv.withoutOthers) (.number "0" _ (by decide)))
  case postgres =>
    exact .cast (hnull _ ht.withoutOthers)
      (.spaced (.keyword "DOUBLE" _ (by decide)) (.keyword "PRECISION" _ (by decide)))
  case mssql =>
    exact .call (.inr (by decide)) (.spaced (.argument ht.withoutMarks)
      (.spaced (.keyword "AS" _ (by decide)) (.keyword "FLOAT" _ (by decide))))
  case sqlite => exact ht.withoutMarks.castKeyword "REAL" _ (by decide)
  case oracle =>
    exact .call (.inr (by decide)) (.spaced (.argument hv.withoutOthers) (.spaced (.keyword "DEFAULT" _ (by decide))
      (.spaced (.keyword "NULL" _ (by decide)) (.spaced (.keyword "ON" _ (by decide))
        (.spaced (.keyword "CONVERSION" _ (by decide)) (.keyword "ERROR" _ (by decide)))))))

theorem isFilled (hg : Derives d q .value g) : Derives d q .predicate (g.isFilled d) := by
  unfold Doc.isFilled
  split
  · exact .isNotNull hg
  · exact .logical rfl (.isNotNull hg) (.comparison rfl (hg.cast .textType) (.text ""))

theorem sum {gs : List Doc} (hl : q.lax ∨ gs ≠ []) (h : ∀ g ∈ gs, Derives d q .predicate g) :
    Derives d q .value (.joined .add (gs.map .oneIf)) :=
  .joined (fun _ _ => .arithmetic rfl) (by simpa using hl) (List.forall_mem_map.2 fun g hg => (h g hg).oneIf)

theorem counted {gs : List Doc} (h : ∀ g ∈ gs, Derives d q .predicate g) : Derives d q .value (.count gs) := by
  cases gs with
  | nil => exact .number "0" (by decide) (by decide)
  | cons g gs => exact .parens (.inl rfl) (.sum (.inr (by simp)) h)

theorem extreme (name aggregate : Word) (hn : isFunction name.text = true) (ha : isFunction aggregate.text = true)
    {gs : List Doc} (h : ∀ g ∈ gs, Derives d q .value g) : Derives d q .value (.extreme d name aggregate gs) := by
  cases d
  case mssql => exact .overRows (.list (List.forall_mem_map.2 fun g hg => .parens (.inl rfl) (h g hg)))
  case sqlite => exact .call (.inr ha) (.list h)
  all_goals exact .call (.inr hn) (.list h)

end Derives

theorem Writes.castFloat (hf : Writes d q .value f) : Writes d q .value (castFloat d f) := by
  obtain ⟨g, hs, hg⟩ := hf
  exact ⟨_, hs.castFloat, hg.cast .floatType⟩

theorem Writes.roundedUp (hf : Writes d q .value f) : Writes d q .value (roundedUp d f) := by
  obtain ⟨g, hs, hg⟩ := hf
  exact ⟨_, hs.roundedUp, hg.roundedUp⟩

theorem Writes.roundedDown (hf : Writes d q .value f) : Writes d q .value (roundedDown d f) := by
  obtain ⟨g, hs, hg⟩ := hf
  exact ⟨_, hs.roundedDown, hg.roundedDown⟩

theorem joined_fits {op : BinaryOp} {o : InfixOp} {x y : Operand} (hx : Fits d q x) (hy : Fits d q y)
    (ho : o.text = op.symbol) (ha : o.isArithmetic = true) : Fits d q (joined d op x y) := by
  intro hq
  obtain ⟨hl, hr⟩ : Quiet q (x.valueUnder d op false) ∧ Quiet q (y.valueUnder d op true) := by
    simpa [joined] using hq
  exact .binary o (by simp [ho]) rfl (fun _ _ => .arithmetic ha) (hx.valueUnder hl) (hy.valueUnder hr)

theorem countIf_writes {test : Operand → Noted Fragment}
    (ht : ∀ x ∈ args, Quiet q (test x) → Writes d q .predicate (test x).result) (hq : Quiet q (countIf test args)) :
    Writes d q .value (countIf test args).result := by
  have hall : ∀ x ∈ args, Quiet q (test x) := by
    cases args with
    | nil => nofun
    | cons x xs => simpa [countIf] using hq
  obtain ⟨gs, hgs, hd⟩ := Fits.layouts fun x hx => ht x hx (hall x hx)
  exact ⟨_, .countIf hgs, .counted hd⟩

section
variable (hs : ∀ x ∈ args, Fits d q x)
include hs

theorem sumChain_fits : Fits d q (sumChain d args) := by
  induction args using sumChain.induct with
  | case1 => exact .null
  | case2 x => exact hs x (by simp)
  | case3 x xs hne ih =>
    rw [sumChain.eq_3 d x xs hne]
    exact joined_fits (o := .add) (hs x (by simp)) (ih fun y hy => hs y (by simp [hy])) rfl rfl

theorem sum_writes (hq : Quiet q (sum d args)) : Writes d q .value (sum d args).result :=
  (sumChain_fits hs).value hq

theorem average_writes (hq : Quiet q (average d args)) : Writes d q .value (average d args).result := by
  rw [average.eq_def] at hq ⊢
  split at hq
  · exact Fits.null.value hq
  · exact (hs _ (by simp)).value hq
  · refine Fits.value (joined_fits (o := .div) (fun hq => ?_) (.literal _) rfl rfl) hq
    rw [sum, isPredicate_value]
    exact sum_writes hs hq

theorem extreme_writes (name aggregate : Word) (hn : isFunction name.text = true)
    (ha : isFunction aggregate.text = true) (hq : Quiet q (extreme d name.text aggregate.text args)) :
    Writes d q .value (extreme d name.text aggregate.text args).result := by
  by_cases hl : args.length = 1
  · obtain ⟨x, rfl⟩ := List.length_eq_one_iff.1 hl
    exact (hs x (by simp)).value hq
  · have hv : Quiet q (values d args) := by
      rw [extreme.eq_def] at hq
      split at hq
      case h_1 => simp at hl
      case h_2 => cases d <;> simpa [nativeCall] using hq
    obtain ⟨gs, hgs, hd⟩ := Fits.values hs hv
    exact ⟨_, .extreme name aggregate hgs hl, .extreme name aggregate hn ha hd⟩

theorem precision_writes (hq : Quiet q (precision d args)) : Writes d q .value (precision d args).result := by
  unfold precision at hq ⊢
  split
  case isTrue h =>
    rw [if_pos h] at hq
    exact Fits.arg hs hq
  case isFalse => exact ⟨.keyword "0" (by decide), ⟨rfl, rfl⟩, .number "0" _ (by decide)⟩

theorem round_writes (hq : Quiet q (round d args)) : Writes d q .value (round d args).result := by
  obtain ⟨hv, hw⟩ : Quiet q (arg d args 0) ∧ Quiet q (precision d args) := by simpa [round] using hq
  obtain ⟨v, hv, dv⟩ := Fits.arg hs hv
  obtain ⟨w, hw, dw⟩ := precision_writes hs hw
  exact ⟨_, .round hv hw, .round dv dw⟩

theorem roundTowards_writes {direction : Dialect → Fragment → Fragment} {layout : Doc → Doc}
    (hd : ∀ f g, Spells d f g → Spells d (direction d f) (layout g))
    (hg : ∀ g, Derives d q .value g → Derives d q .value (layout g)) (hq : Quiet q (roundTowards direction d args)) :
    Writes d q .value (roundTowards direction d args).result := by
  obtain ⟨hv, hw⟩ : Quiet q (groupedArg d args 0) ∧ Quiet q (precision d args) := by simpa [roundTowards] using hq
  obtain ⟨v, hv, dv⟩ := Fits.groupedArg hs hv
  obtain ⟨w, hw, dw⟩ := precision_writes hs hw
  exact ⟨_, .roundTowards hd hv hw, .roundTowards hg dv dw⟩

theorem even_writes (hq : Quiet q (even d args)) : Writes d q .value (even d args).result := by
  obtain ⟨v, hv, dv⟩ := Fits.arg hs (i := 0) (by simpa [even] using hq)
  exact ⟨_, .even hv, .even dv⟩

theorem odd_writes (hq : Quiet q (odd d args)) : Writes d q .value (odd d args).result := by
  obtain ⟨v, hv, dv⟩ := Fits.arg hs (i := 0) (by simpa [odd] using hq)
  exact ⟨_, .odd hv, .odd dv⟩

theorem modulo_writes (hq : Quiet q (modulo d args)) : Writes d q .value (modulo d args).result := by
  obtain ⟨hl, hr⟩ : Quiet q (groupedArg d args 0) ∧ Quiet q (groupedArg d args 1) := by simpa [modulo] using hq
  obtain ⟨l, hl, dl⟩ := Fits.groupedArg hs hl
  obtain ⟨r, hr, dr⟩ := Fits.groupedArg hs hr
  exact ⟨_, .groupedRemainder hl hr, .groupedRemainder dl dr⟩

theorem logarithm_writes (hq : Quiet q (logarithm d args)) : Writes d q .value (logarithm d args).result := by
  by_cases hl : args.length < 2
  · obtain ⟨v, hv, dv⟩ := Fits.arg hs (i := 0) (by simpa [logarithm, hl] using hq)
    exact ⟨_, .naturalLog hl hv, .naturalLog dv⟩
  · obtain ⟨hv, hw⟩ : Quiet q (arg d args 0) ∧ Quiet q (arg d args 1) := by simpa [logarithm, hl] using hq
    obtain ⟨v, hv, dv⟩ := Fits.arg hs hv
    obtain ⟨w, hw, dw⟩ := Fits.arg hs hw
    exact ⟨_, .logToBase hl hv hw, .logToBase dv dw⟩

theorem wholePart_writes (hq : Quiet q (wholePart d args)) : Writes d q .value (wholePart d args).result := by
  obtain ⟨v, hv, dv⟩ := Fits.arg hs (i := 0) (by simpa [wholePart] using hq)
  exact ⟨_, .wholePart hv, .wholePart dv⟩

theorem numberOfText_writes (hq : Quiet q (numberOfText d args)) :
    Writes d q .value (numberOfText d args).result := by
  obtain ⟨v, hv, dv⟩ := Fits.arg hs (i := 0) (by simpa [numberOfText] using hq)
  exact ⟨_, .numberOfText hv, .numberOfText dv⟩

end

section
variable {x : Operand} (hx : Fits d q x)
include hx

theorem isPresent_writes (hq : Quiet q (isPresent d x)) : Writes d q .predicate (isPresent d x).result := by
  obtain ⟨g, hg, dg⟩ := hx.grouped (by simpa [isPresent] using hq)
  exact ⟨_, .isPresent hg, .isNotNull dg⟩

theorem isFilled_writes (hq : Quiet q (isFilled d x)) : Writes d q .predicate (isFilled d x).result := by
  obtain ⟨g, hg, dg⟩ := hx.grouped (by simpa [isFilled] using hq)
  exact ⟨_, .isFilled hg, .isFilled dg⟩

end

end SheetQuery.Sql
