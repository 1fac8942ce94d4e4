import SheetQuery.Proofs.Grammar.Dates
import SheetQuery.Proofs.Grammar.Logic
import SheetQuery.Proofs.Grammar.Strings

/-! Every function in every dialect writes a predicate if it is a test and a value if not, once it has the
arguments that it cannot do without. -/

namespace SheetQuery.Sql

/-- The number of arguments without which the SQL of a function lacks an operand. -/
def leastArgs : Builtin → Nat
  | .and | .or | .xor => 1
  | .switch => 3
  | _ => 0

variable {d : Dialect} {q : Rules} {args : List Operand} {names : Naming}

theorem keyword_writes (s : String) (hk : isKeyword s.toList = true) (hc : isConstant s = true) :
    Writes d q .value (.raw s) :=
  ⟨.keyword s hk, .keyword s hk, .number s hk hc⟩

theorem column_writes (ht : ∀ t ∈ names.tableAlias, q.mayName t) {name : String} (hn : q.mayName name) :
    Writes d q .value (columnText d names name) :=
  ⟨_, .column names name, .column ht hn⟩

section
variable (hs : ∀ x ∈ args, Fits d q x)
include hs

/-- MySQL takes a match for a value. -/
theorem patternTest_writes (hq : Quiet q (nativeCall .mysql "REGEXP_LIKE" args)) (hd : d = .mysql) :
    Writes d q .value (nativeCall d "REGEXP_LIKE" args).result := by
  subst hd
  obtain ⟨gs, hgs, dgs⟩ := Fits.values hs (by simpa [nativeCall] using hq)
  exact ⟨_, .nativeCall hgs (.of "REGEXP_LIKE"), .ofPredicate rfl (.patternTest (.list dgs))⟩

theorem entry_writes (ht : ∀ t ∈ names.tableAlias, q.mayName t) (hr : q.mayName names.recordIdColumn)
    (f : Builtin) (hl : q.lax ∨ leastArgs f ≤ args.length) (hq : Quiet q ((entry d names f).write d args)) :
    Writes d q (.of (isTest d f)) ((entry d names f).write d args).result := by
  have hne (h : leastArgs f = 1) : q.lax ∨ args ≠ [] := hl.imp_right fun hl =>
    List.ne_nil_of_length_pos (by omega)
  have hnative (w : Word) (hw : isFunction w.text = true) :
      Quiet q (nativeCall d w.text args) → Writes d q .value (nativeCall d w.text args).result :=
    Fits.nativeCall w (.inr hw) hs
  cases f with
  | add | sum => exact sum_writes hs hq
  | avg => exact average_writes hs hq
  | min => exact extreme_writes hs (.of "LEAST" (by decide)) (.of "MIN" (by decide)) (by decide) (by decide) hq
  | max => exact extreme_writes hs (.of "GREATEST" (by decide)) (.of "MAX" (by decide)) (by decide) (by decide) hq
  | count => exact countIf_writes (fun x hx => isPresent_writes (hs x hx)) hq
  | countFilled => exact countIf_writes (fun x hx => isFilled_writes (hs x hx)) hq
  | countAll => exact ⟨countDoc args.length, ⟨rfl, rfl⟩, .count _⟩
  | round => exact round_writes hs hq
  | roundUp => exact roundTowards_writes hs (fun _ _ => .roundedUp) (fun _ => .roundedUp) hq
  | roundDown => exact roundTowards_writes hs (fun _ _ => .roundedDown) (fun _ => .roundedDown) hq
  | ceiling => exact (Fits.arg hs (by simpa [entry, numericEntry, Entry.write] using hq)).roundedUp
  | floor => exact (Fits.arg hs (by simpa [entry, numericEntry, Entry.write] using hq)).roundedDown
  | int =>
    cases d
    case postgres | oracle => exact hnative (.of "TRUNC" (by decide)) (by decide) hq
    all_goals exact wholePart_writes hs hq
  | even => exact even_writes hs hq
  | odd => exact odd_writes hs hq
  | mod => exact modulo_writes hs hq
  | log => exact logarithm_writes hs hq
  | value => exact numberOfText_writes hs hq
  | float => exact (Fits.arg hs (by simpa [entry, numericEntry, Entry.write] using hq)).castFloat
  | abs => exact hnative (.of "ABS" (by decide)) (by decide) hq
  | sqrt => exact hnative (.of "SQRT" (by decide)) (by decide) hq
  | exp => exact hnative (.of "EXP" (by decide)) (by decide) hq
  | power => exact hnative (.of "POWER" (by decide)) (by decide) hq
  | concat =>
    cases d
    case postgres => exact hnative (.of "CONCAT" (by decide)) (by decide) hq
    all_goals exact concat_writes hs hq
  | trim =>
    cases d
    case mssql => exact trimmed_writes hs hq
    all_goals exact hnative (.of "TRIM" (by decide)) (by decide) hq
  | upper => exact hnative (.of "UPPER" (by decide)) (by decide) hq
  | lower => exact hnative (.of "LOWER" (by decide)) (by decide) hq
  | replace => exact hnative (.of "REPLACE" (by decide)) (by decide) hq
  | len =>
    cases d
    case mysql => exact hnative (.of "CHAR_LENGTH" (by decide)) (by decide) hq
    case mssql => exact hnative (.of "LEN" (by decide)) (by decide) hq
    all_goals exact hnative (.of "LENGTH" (by decide)) (by decide) hq
  | left =>
    cases d
    case sqlite | oracle => exact leading_writes hs hq
    all_goals exact hnative (.of "LEFT" (by decide)) (by decide) hq
  | right =>
    cases d
    case sqlite | oracle => exact trailing_writes hs hq
    all_goals exact hnative (.of "RIGHT" (by decide)) (by decide) hq
  | mid | substr =>
    cases d
    case mssql => exact substring_writes hs hq
    all_goals exact hnative (.of "SUBSTR" (by decide)) (by decide) hq
  | search => exact search_writes hs hq
  | repeatText =>
    cases d
    case mysql | postgres => exact hnative (.of "REPEAT" (by decide)) (by decide) hq
    case mssql => exact hnative (.of "REPLICATE" (by decide)) (by decide) hq
    all_goals exact repeated_writes hs hq
  | url => exact link_writes hs hq
  | urlEncode => exact linkEncoded_writes hs hq
  | regexMatch =>
    cases d
    case mysql => exact patternTest_writes hs hq rfl
    case sqlite =>
      obtain ⟨g, hg, dg⟩ := patternMatch_writes hs hq
      exact ⟨g, hg, .ofPredicate rfl dg⟩
    all_goals exact patternMatch_writes hs hq
  | regexExtract =>
    cases d
    case postgres => exact patternExtract_writes hs hq
    all_goals exact hnative (.of "REGEXP_SUBSTR" (by decide)) (by decide) hq
  | regexReplace =>
    cases d
    case postgres => exact patternReplace_writes hs hq
    all_goals exact hnative (.of "REGEXP_REPLACE" (by decide)) (by decide) hq
  | jsonExtract =>
    cases d
    case mssql => exact hnative (.of "JSON_VALUE" (by decide)) (by decide) hq
    case sqlite => exact hnative (.of "JSON_EXTRACT" (by decide)) (by decide) hq
    all_goals exact jsonMember_writes hs hq
  | now =>
    cases d
    case mysql | postgres => exact hnative (.of "NOW" (by decide)) (by decide) hq
    case mssql => exact hnative (.of "GETDATE" (by decide)) (by decide) hq
    case sqlite =>
      refine ⟨.call (.of "DATETIME" (by decide)) (.text "now"), ⟨?_, rfl⟩, .apply _ (by decide) (.text _)⟩
      simp [Entry.write, entry, dateEntry, Text.replaceChar]
    case oracle => exact keyword_writes "CURRENT_TIMESTAMP" (by decide) (by decide)
  | dateAdd => exact dateAdd_writes hs hq
  | dateDiff => exact dateDiff_writes hs hq
  | dateText => exact dateText_writes hs hq
  | day =>
    cases d
    case mysql | mssql => exact hnative (.of "DAY" (by decide)) (by decide) hq
    all_goals exact datePart_writes hs .day hq
  | month =>
    cases d
    case mysql | mssql => exact hnative (.of "MONTH" (by decide)) (by decide) hq
    all_goals exact datePart_writes hs .month hq
  | year =>
    cases d
    case mysql | mssql => exact hnative (.of "YEAR" (by decide)) (by decide) hq
    all_goals exact datePart_writes hs .year hq
  | hour =>
    cases d
    case mysql => exact hnative (.of "HOUR" (by decide)) (by decide) hq
    all_goals exact datePart_writes hs .hour hq
  | weekday => exact weekday_writes hs hq
  | ifElse => exact ifElse_writes hs hq
  | switch => exact switch_writes hs hl hq
  | and => exact allOf_writes hs .and rfl (hne rfl) hq
  | or => exact allOf_writes hs .or rfl (hne rfl) hq
  | xor => exact xor_writes hs (hne rfl) hq
  | trueValue => exact keyword_writes "1" (by decide) (by decide)
  | falseValue => exact keyword_writes "0" (by decide) (by decide)
  | blank => exact keyword_writes "NULL" (by decide) (by decide)
  | isBlank => exact isBlank_writes hs hq
  | isNotBlank => exact isNotBlank_writes hs hq
  | recordId => exact column_writes ht hr
  | arrayUnique | arraySort | arrayCompact | arraySlice => exact keyword_writes "NULL" (by decide) (by decide)

end

end SheetQuery.Sql
