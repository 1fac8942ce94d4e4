import SheetQuery.Proofs.Calls.Dates
import SheetQuery.Proofs.Calls.Logic
import SheetQuery.Proofs.Calls.Strings
import SheetQuery.Sql.Table

/-! Every function in every dialect shows the face that `builtinFace` gives it. -/

namespace SheetQuery

namespace Sql

variable {d : Dialect} {neg : Binding → Bool} {args : List Operand} {ss : List Sketch} {f : Builtin}
  {r : Fragment}

section
variable (hp : r.isPredicate = isTest d f)
include hp

theorem closedCall_all (hw : writtenArgs d f = none) (h : Closed d neg r (anyComment ss)) :
    Drawn d neg r (closedCall d f ss) := by
  simp only [closedCall, hw]
  exact h.drawn hp

theorem closedCall_none (hw : writtenArgs d f = some 0) (h : Closed d neg r false) :
    Drawn d neg r (closedCall d f ss) := by
  simp only [closedCall, hw, List.take_zero]
  exact h.drawn hp

theorem closedCall_one (hw : writtenArgs d f = some 1)
    (h : Closed d neg r (ss.getD 0 .null).face.comment) : Drawn d neg r (closedCall d f ss) := by
  simp only [closedCall, hw, anyComment_take_one]
  exact h.drawn hp

theorem closedCall_two (hw : writtenArgs d f = some 2)
    (h : Closed d neg r ((ss.getD 0 .null).face.comment || (ss.getD 1 .null).face.comment)) :
    Drawn d neg r (closedCall d f ss) := by
  simp only [closedCall, hw, anyComment_take_two]
  exact h.drawn hp

theorem closedCall_three (hw : writtenArgs d f = some 3)
    (h : Closed d neg r ((ss.getD 0 .null).face.comment ||
      ((ss.getD 1 .null).face.comment || (ss.getD 2 .null).face.comment))) :
    Drawn d neg r (closedCall d f ss) := by
  simp only [closedCall, hw, anyComment_take_three]
  exact h.drawn hp

end

/-- A word in place of a call. -/
theorem Closed.keyword {s : String} (h : isKeyword s.toList = true) (he : (Doc.keyword s h).isExpr = true)
    (hr : r = .raw s) : Closed d neg r false := by
  subst hr
  exact ⟨.keyword s h, he, ⟨rfl, rfl⟩, rfl⟩

theorem count_closed (n : Nat) : Closed d neg (.raw (toString n)) false := by
  refine ⟨countDoc n, ?_, ⟨rfl, rfl⟩, rfl⟩
  rw [countDoc, Doc.keyword, Doc.isExpr, beq_iff_eq]
  exact kind_of_isDigit (isDigit_toString n)

theorem column_closed (names : Naming) (name : String) : Closed d neg (columnText d names name) false :=
  .of_bracket _ rfl (.column names name) rfl

theorem builtinFace_of_length_ne_one (hf : f ∈ [.min, .max, .and, .or, .xor]) (hl : ss.length ≠ 1) :
    builtinFace d neg f ss = closedCall d f ss := by
  simp only [List.mem_cons, List.not_mem_nil, or_false] at hf
  rcases ss with _ | ⟨s, _ | ⟨t, ss⟩⟩
  · rcases hf with rfl | rfl | rfl | rfl | rfl <;> rfl
  · simp at hl
  · rcases hf with rfl | rfl | rfl | rfl | rfl <;> rfl

/-- A literal argument is written without minus signs that meet. -/
def LiteralsPlain (ss : List Sketch) : Prop :=
  ∀ s ∈ ss, s.expr.asText?.isSome ∨ s.expr.asNumber?.isSome → s.face.comment = false

section
variable (m : MatchesAll d neg args ss)
include m

theorem MatchesAll.length_le {n : Nat} (h : args.length ≤ n) : (ss.getD n .null).face.comment = false := by
  rw [List.getD_eq_getElem?_getD, List.getElem?_eq_none (m.length_eq ▸ h)]
  rfl

theorem MatchesAll.literal (hs : LiteralsPlain ss) {i : Nat} :
    ((literalArg? args i).isSome = true → (ss.getD i .null).face.comment = false) ∧
      ((numberArg? args i).isSome = true → (ss.getD i .null).face.comment = false) := by
  have hi : args[i]?.map Operand.expr = ss[i]?.map Sketch.expr := by
    rw [← List.getElem?_map, ← List.getElem?_map, MatchesAll.exprs m]
  rw [List.getD_eq_getElem?_getD]
  cases hx : args[i]? with
  | none => simp [literalArg?, numberArg?, hx]
  | some x =>
    rw [hx, Option.map_some] at hi
    obtain ⟨s, hsi, he⟩ := Option.map_eq_some_iff.1 hi.symm
    have hplain := hs s (List.mem_of_getElem? hsi)
    simp only [literalArg?, numberArg?, hx, hsi, Option.bind_some, Option.getD_some, ← he]
    exact ⟨fun h => hplain (.inl h), fun h => hplain (.inr h)⟩

theorem MatchesAll.precision : Inside d neg (precision d args).result (ss.getD 1 .null).face.comment := by
  unfold Sql.precision
  split
  case isTrue => exact MatchesAll.arg m 1
  case isFalse h =>
    rw [MatchesAll.length_le m (by omega)]
    exact ⟨.keyword "0" (by decide), ⟨rfl, rfl⟩, rfl⟩

theorem native_drawn (w : Word) (hw : writtenArgs d f = none) (ht : isTest d f = false) :
    Drawn d neg (nativeCall d w.text args).result (closedCall d f ss) :=
  closedCall_all (by simp [nativeCall, callText, ht]) hw (nativeCall_closed m w)

/-- A function that hands on a single argument closes around any other number of them. -/
theorem handOn_drawn {w : List Operand → Noted Fragment} (hf : f ∈ [.min, .max, .and, .or, .xor])
    (hw : writtenArgs d f = none) (hp : (w args).result.isPredicate = isTest d f)
    (hone : ∀ x s, Matches d neg x s → Drawn d neg (w [x]).result (builtinFace d neg f [s]))
    (hall : args.length ≠ 1 → Closed d neg (w args).result (anyComment ss)) :
    Drawn d neg (w args).result (builtinFace d neg f ss) := by
  by_cases hl : args.length = 1
  · obtain ⟨x, rfl⟩ := List.length_eq_one_iff.1 hl
    obtain ⟨s, rfl⟩ := List.length_eq_one_iff.1 (m.length_eq ▸ hl)
    exact hone x s (List.forall₂_cons.1 m).1
  · rw [builtinFace_of_length_ne_one hf (m.length_eq ▸ hl)]
    exact closedCall_all hp hw (hall hl)

/-- Every function shows its face: most close around the arguments that they write. -/
theorem entry_drawn (names : Naming) (hs : LiteralsPlain ss) (hneg : SignsNegatives neg) (f : Builtin) :
    Drawn d neg ((entry d names f).write d args).result (builtinFace d neg f ss) := by
  have h₀ := MatchesAll.arg m 0
  have h₁ := MatchesAll.arg m 1
  have h₂ := MatchesAll.arg m 2
  have g₀ := MatchesAll.groupedArg m 0
  have g₁ := MatchesAll.groupedArg m 1
  have hdigits := MatchesAll.precision m
  obtain ⟨htext, hnumber⟩ := MatchesAll.literal m (i := 1) hs
  have hp := isPredicate_entry d names args f
  cases f with
  | add | sum => exact sum_drawn m
  | avg => exact average_drawn m
  | min =>
    exact handOn_drawn m (by simp) rfl hp
      (fun _ _ hx => hx.value) fun hl => extreme_closed m hl (.of "LEAST" (by decide)) (.of "MIN" (by decide))
  | max =>
    exact handOn_drawn m (by simp) rfl hp
      (fun _ _ hx => hx.value) fun hl => extreme_closed m hl (.of "GREATEST" (by decide)) (.of "MAX" (by decide))
  | count => exact closedCall_all hp rfl (countIf_closed (fun _ _ => isPresent_inside) m)
  | countFilled =>
    exact closedCall_all hp rfl (countIf_closed (fun _ _ => isFilled_inside) m)
  | countAll => exact closedCall_none hp rfl (count_closed args.length)
  | round => exact closedCall_two hp rfl (round_closed h₀ hdigits)
  | roundUp =>
    exact closedCall_two hp rfl (roundTowards_closed (fun _ _ => .roundedUp) Doc.comment_roundedUp g₀ hdigits)
  | roundDown =>
    exact closedCall_two hp rfl (roundTowards_closed (fun _ _ => .roundedDown) Doc.comment_roundedDown g₀ hdigits)
  | ceiling => exact closedCall_one hp rfl (roundedUp_closed h₀)
  | floor => exact closedCall_one hp rfl (roundedDown_closed h₀)
  | int =>
    cases d
    case postgres | oracle => exact native_drawn m (.of "TRUNC" (by decide)) rfl rfl
    all_goals exact closedCall_one hp rfl (wholePart_closed h₀)
  | even => exact closedCall_one hp rfl (even_closed h₀)
  | odd => exact closedCall_one hp rfl (odd_closed h₀)
  | mod => exact closedCall_two hp rfl (modulo_closed g₀ g₁)
  | log => exact closedCall_two hp rfl (logarithm_closed h₀ h₁ fun h =>
      MatchesAll.length_le m (by omega))
  | value => exact closedCall_one hp rfl (numberOfText_closed h₀)
  | float => exact closedCall_one hp rfl (castFloat_closed h₀)
  | abs => exact native_drawn m (.of "ABS" (by decide)) rfl rfl
  | sqrt => exact native_drawn m (.of "SQRT" (by decide)) rfl rfl
  | exp => exact native_drawn m (.of "EXP" (by decide)) rfl rfl
  | power => exact native_drawn m (.of "POWER" (by decide)) rfl rfl
  | concat =>
    cases d
    case postgres => exact concat_drawn m
    all_goals exact concat_drawn m
  | trim =>
    cases d
    case mssql => exact closedCall_one hp rfl (trimmed_closed h₀)
    all_goals exact native_drawn m (.of "TRIM" (by decide)) rfl rfl
  | upper => exact native_drawn m (.of "UPPER" (by decide)) rfl rfl
  | lower => exact native_drawn m (.of "LOWER" (by decide)) rfl rfl
  | replace => exact native_drawn m (.of "REPLACE" (by decide)) rfl rfl
  | len =>
    cases d
    case mysql => exact native_drawn m (.of "CHAR_LENGTH" (by decide)) rfl rfl
    case mssql => exact native_drawn m (.of "LEN" (by decide)) rfl rfl
    all_goals exact native_drawn m (.of "LENGTH" (by decide)) rfl rfl
  | left =>
    cases d
    case sqlite | oracle => exact closedCall_two hp rfl (leading_closed h₀ h₁)
    all_goals exact native_drawn m (.of "LEFT" (by decide)) rfl rfl
  | right =>
    have hgrouped := (MatchesAll.getD m 1).grouped
    cases d
    case sqlite | oracle => exact (trailing_closed h₀ hgrouped).value rfl
    all_goals exact (nativeCall_closed m (.of "RIGHT" (by decide))).value rfl
  | mid | substr =>
    cases d
    case mssql =>
      exact closedCall_three hp rfl (substring_closed h₀ h₁ h₂ (MatchesAll.length_le m))
    all_goals exact native_drawn m (.of "SUBSTR" (by decide)) rfl rfl
  | search => exact closedCall_two hp rfl (search_closed h₀ h₁)
  | repeatText =>
    cases d
    case mysql | postgres => exact native_drawn m (.of "REPEAT" (by decide)) rfl rfl
    case mssql => exact native_drawn m (.of "REPLICATE" (by decide)) rfl rfl
    all_goals exact closedCall_two hp rfl (repeated_closed h₀ h₁ g₁)
  | url => exact link_drawn m
  | urlEncode => exact closedCall_one hp rfl (linkEncoded_closed h₀)
  | regexMatch =>
    cases d
    case mysql => exact native_drawn m (.of "REGEXP_LIKE" (by decide)) rfl rfl
    all_goals exact closedCall_two hp rfl (patternMatch_closed h₀ h₁ g₀ g₁)
  | regexExtract =>
    cases d
    case postgres => exact closedCall_two hp rfl (patternExtract_closed h₀ h₁)
    all_goals exact native_drawn m (.of "REGEXP_SUBSTR" (by decide)) rfl rfl
  | regexReplace =>
    cases d
    case postgres => exact closedCall_three hp rfl (patternReplace_closed h₀ h₁ h₂)
    all_goals exact native_drawn m (.of "REGEXP_REPLACE" (by decide)) rfl rfl
  | jsonExtract =>
    cases d
    case mssql => exact native_drawn m (.of "JSON_VALUE" (by decide)) rfl rfl
    case sqlite => exact native_drawn m (.of "JSON_EXTRACT" (by decide)) rfl rfl
    all_goals exact closedCall_two hp rfl (jsonMember_closed h₀ h₁ htext)
  | now =>
    cases d
    case mysql | postgres => exact native_drawn m (.of "NOW" (by decide)) rfl rfl
    case mssql => exact native_drawn m (.of "GETDATE" (by decide)) rfl rfl
    case sqlite =>
      refine closedCall_none hp rfl (.of_bracket (.call (.of "DATETIME" (by decide)) (.text "now")) rfl ⟨?_, rfl⟩ rfl)
      simp [Entry.write, entry, dateEntry, Text.replaceChar]
    case oracle => exact closedCall_none hp rfl (.keyword (s := "CURRENT_TIMESTAMP") (by decide) (by decide) rfl)
  | dateAdd => exact closedCall_two hp rfl (dateAdd_closed hneg h₀ h₁ g₀ g₁ hnumber)
  | dateDiff => exact closedCall_two hp rfl (dateDiff_closed h₀ h₁)
  | dateText => exact closedCall_one hp rfl (dateText_closed h₀)
  | day =>
    cases d
    case mysql | mssql => exact native_drawn m (.of "DAY" (by decide)) rfl rfl
    all_goals exact closedCall_one hp rfl (datePart_closed .day h₀)
  | month =>
    cases d
    case mysql | mssql => exact native_drawn m (.of "MONTH" (by decide)) rfl rfl
    all_goals exact closedCall_one hp rfl (datePart_closed .month h₀)
  | year =>
    cases d
    case mysql | mssql => exact native_drawn m (.of "YEAR" (by decide)) rfl rfl
    all_goals exact closedCall_one hp rfl (datePart_closed .year h₀)
  | hour =>
    cases d
    case mysql => exact native_drawn m (.of "HOUR" (by decide)) rfl rfl
    all_goals exact closedCall_one hp rfl (datePart_closed .hour h₀)
  | weekday => exact closedCall_one hp rfl (weekday_closed h₀)
  | ifElse => exact (ifElse_closed m).drawn hp
  | switch => exact closedCall_all hp rfl (switch_closed m)
  | and =>
    exact handOn_drawn m (by simp) rfl hp
      (fun _ _ hx => hx.condition) fun hl => allOf_closed m hl .and
  | or =>
    exact handOn_drawn m (by simp) rfl hp
      (fun _ _ hx => hx.condition) fun hl => allOf_closed m hl .or
  | xor =>
    refine handOn_drawn m (by simp) rfl hp ?_ fun hl => xor_closed m fun _ => hl
    intro x s hx
    by_cases hd : d = .mysql
    · subst hd
      exact hx.condition
    · simp only [builtinFace, hd, if_false]
      exact closedCall_all isPredicate_xor rfl (xor_closed (.cons hx .nil) fun h => absurd h hd)
  | trueValue => exact closedCall_none hp rfl (.keyword (s := "1") (by decide) (by decide) rfl)
  | falseValue => exact closedCall_none hp rfl (.keyword (s := "0") (by decide) (by decide) rfl)
  | blank => exact closedCall_none hp rfl (.keyword (s := "NULL") (by decide) (by decide) rfl)
  | isBlank =>
    cases m with
    | nil => exact isBlank_drawn_nil
    | @cons x s xs ss hx m =>
      by_cases hd : d = .oracle
      · subst hd
        exact isBlank_drawn_oracle hx xs rfl
      · simp only [builtinFace, hd, if_false]
        exact closedCall_one hp rfl (isBlank_closed hx xs hd)
  | isNotBlank =>
    cases m with
    | nil => exact isNotBlank_drawn_nil
    | @cons x s xs ss hx m => exact closedCall_one hp rfl (isNotBlank_closed hx xs)
  | recordId => exact closedCall_none hp rfl (column_closed names _)
  | arrayUnique | arraySort | arrayCompact | arraySlice =>
    exact closedCall_none hp rfl (.keyword (s := "NULL") (by decide) (by decide) rfl)

end

end Sql

end SheetQuery
