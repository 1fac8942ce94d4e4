import SheetQuery.Proofs.Layout
import SheetQuery.Sql.Table

/-! Which functions write predicates: in every dialect the fragment says so of the tests and of nothing
else. -/

namespace SheetQuery

def Entry.write (d : Dialect) (args : List Operand) : Entry → Noted Fragment
  | .native own => Sql.nativeCall d own args
  | .shaped write => write args

namespace Sql

variable {d : Dialect} {args : List Operand}

def isTest (d : Dialect) : Builtin → Bool
  | .and | .or | .xor | .isBlank | .isNotBlank => true
  | .regexMatch => d != .mysql && d != .sqlite
  | _ => false

@[simp]
theorem isPredicate_grouped (x : Operand) : (x.grouped d).result.isPredicate = false := by
  simp only [Operand.grouped, Noted.result_map, groupIf]
  split <;> simp

theorem isPredicate_average : (average d args).result.isPredicate = false := by
  rw [average.eq_def]
  split <;> exact isPredicate_value d _

theorem isPredicate_extreme (name aggregate : String) :
    (extreme d name aggregate args).result.isPredicate = false := by
  rw [extreme.eq_def]
  split
  · exact isPredicate_value d _
  · cases d <;> rfl

theorem isPredicate_countIf (test : Operand → Noted Fragment) :
    (countIf test args).result.isPredicate = false := by
  unfold countIf
  split
  · rfl
  · simp

theorem isPredicate_logarithm : (logarithm d args).result.isPredicate = false := by
  simp only [logarithm, Noted.result_bind]
  split
  · rfl
  · cases d <;> rfl

theorem isPredicate_substring : (substring d args).result.isPredicate = false := by
  unfold substring
  split <;> rfl

theorem isPredicate_jsonMember : (jsonMember d args).result.isPredicate = false := by
  cases d
  case oracle =>
    simp only [jsonMember, Noted.result_bind]
    split <;> rfl
  all_goals rfl

theorem isPredicate_dateAdd : (dateAdd d args).result.isPredicate = false := by
  cases d
  case postgres => rfl
  case oracle =>
    simp only [dateAdd, Noted.result_bind, Noted.result_pure]
    split <;> rfl
  all_goals
    simp only [dateAdd, Noted.result_bind]
    split <;> rfl

theorem isPredicate_dateDiff : (dateDiff d args).result.isPredicate = false := by
  simp only [dateDiff, Noted.result_bind, Noted.result_pure]
  generalize elapsedUnit args = unit
  cases d
  case mysql =>
    simp only
    split <;> rfl
  case mssql => rfl
  all_goals cases unit <;> rfl

theorem isPredicate_weekday : (weekday d args).result.isPredicate = false := by
  simp only [weekday, Noted.result_bind, Noted.result_pure]
  cases d <;> cases (startDay args).result <;> rfl

theorem isPredicate_ifElse : (ifElse d args).result.isPredicate = false := by
  unfold ifElse
  split
  all_goals
    simp only
    split <;> rfl

theorem isPredicate_allOf (word : String) : (allOf d word args).result.isPredicate = true := by
  rw [allOf.eq_def]
  split
  · exact isPredicate_condition d _
  · rfl

theorem isPredicate_xor : (xor d args).result.isPredicate = true := by
  cases d
  case mysql => exact isPredicate_allOf "XOR"
  all_goals rfl

theorem isPredicate_piped {fs : List Fragment} (h : ∀ f ∈ fs, f.isPredicate = false) :
    (piped fs).isPredicate = false := by
  match fs with
  | [] => rfl
  | [f] => exact h f (by simp)
  | f :: f' :: fs => simp [piped]

theorem isPredicate_concat : (concat d args).result.isPredicate = false := by
  cases d
  case oracle =>
    refine isPredicate_piped fun f hf => ?_
    obtain ⟨x, -, rfl⟩ : ∃ x ∈ args, (x.grouped .oracle).result = f := by simpa using hf
    exact isPredicate_grouped x
  case sqlite =>
    refine isPredicate_piped fun f hf => ?_
    simp only [Noted.result_all, List.map_map, List.mem_map, Function.comp_apply] at hf
    obtain ⟨x, -, rfl⟩ := hf
    simp only [Noted.result_bind, Noted.result_pure]
    split
    · exact isPredicate_grouped x
    · rfl
  all_goals rfl

theorem isPredicate_isNotBlank : (isNotBlank d args).result.isPredicate = true := by
  unfold isNotBlank
  split <;> rfl

theorem isPredicate_isBlank : (isBlank d args).result.isPredicate = true := by
  unfold isBlank
  split <;> rfl

theorem isPredicate_linkEncoded : (linkEncoded d args).result.isPredicate = false := by
  simp [linkEncoded, linkEscapes, replaceIn]

theorem isPredicate_columnText (names : Naming) (name : String) :
    (columnText d names name).isPredicate = false := by
  unfold columnText
  split <;> rfl

/-- The fragment says that it is a predicate exactly if the function is a test. -/
theorem isPredicate_entry (d : Dialect) (names : Naming) (args : List Operand) (f : Builtin) :
    ((entry d names f).write d args).result.isPredicate = isTest d f := by
  cases f with
  | add | sum => exact isPredicate_value d _
  | avg => exact isPredicate_average
  | min | max => exact isPredicate_extreme _ _
  | count | countFilled => exact isPredicate_countIf _
  | log => exact isPredicate_logarithm
  | concat =>
    cases d
    case oracle => exact isPredicate_concat (d := .oracle)
    case sqlite => exact isPredicate_concat (d := .sqlite)
    all_goals rfl
  | url => exact isPredicate_value d ⟨.literal .null, concat d _⟩
  | urlEncode => exact isPredicate_linkEncoded
  | mid | substr =>
    cases d
    case mssql => exact isPredicate_substring
    all_goals rfl
  | jsonExtract =>
    cases d
    case mssql | sqlite => rfl
    all_goals exact isPredicate_jsonMember
  | dateAdd => exact isPredicate_dateAdd
  | dateDiff => exact isPredicate_dateDiff
  | weekday => exact isPredicate_weekday
  | ifElse => exact isPredicate_ifElse
  | and | or => exact isPredicate_allOf _
  | xor => exact isPredicate_xor
  | isBlank => exact isPredicate_isBlank
  | isNotBlank => exact isPredicate_isNotBlank
  | recordId => exact isPredicate_columnText names _
  | _ => cases d <;> rfl

end Sql

end SheetQuery
