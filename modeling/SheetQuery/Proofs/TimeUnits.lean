import SheetQuery.Proofs.Branches
import SheetQuery.Proofs.Contribution
import SheetQuery.Proofs.DateShifts
import SheetQuery.Proofs.Dependencies

/-! The units of time in calls that shift a date or count the time between two. A literal unit in an expression
without errors is the one that is written. A unit that is no literal is not known before the SQL runs; days or seconds
are written in its place, and no notice says so. The first day of the week is different: one that is no literal comes
with a notice, so that strict compilation refuses it. -/

namespace SheetQuery

namespace Sql

def Framed (marks : String × String) (s : String) : Prop := ∃ t, s = marks.1 ++ t ++ marks.2

/-- What a date shifted by an amount of a unit begins and ends with. -/
def shiftMarks (d : Dialect) (u : ShiftUnit) (amount : String) : String × String :=
  match d with
  | .mysql => ("DATE_", " " ++ u.keyword d ++ ")")
  | .postgres => ("(CAST(", " * INTERVAL '1 " ++ u.keyword d ++ "')")
  | .mssql => ("DATEADD(" ++ u.keyword d ++ ", ", ")")
  | .sqlite =>
    if u = .week then ("DATETIME(", ", (" ++ amount ++ " * 7) || ' days')")
    else ("DATETIME(", ", " ++ amount ++ " || ' " ++ u.keyword d ++ "')")
  | .oracle =>
    match u with
    | .month => ("ADD_MONTHS(", ", " ++ amount ++ ")")
    | .year => ("ADD_MONTHS(", ", " ++ amount ++ " * 12)")
    | .week => ("(", " + NUMTODSINTERVAL(" ++ amount ++ " * 7, 'DAY'))")
    | u => ("(", " + NUMTODSINTERVAL(" ++ amount ++ ", '" ++ u.keyword d ++ "'))")

/-- Whether the unit of a shift stands in its SQL. SQLite has a literal amount and its unit in one bound text. -/
def ShowsShift (d : Dialect) (u : ShiftUnit) (args : List Operand) (f : Fragment) : Prop :=
  match d, numberArg? args 1 with
  | .sqlite, some n => f.bindings.getLast? = some (.text (modifierText u n))
  | d, _ => Framed (shiftMarks d u (groupedArg d args 1).result.text) f.text

/-- What a number of days, turned into a unit of fixed length, begins and ends with. -/
def scaledMarks (days : String × String) : ElapsedUnit → String × String
  | .milliseconds => ("(" ++ days.1, days.2 ++ " * 86400000)")
  | .seconds => ("(" ++ days.1, days.2 ++ " * 86400)")
  | .minutes => ("(" ++ days.1, days.2 ++ " * 1440)")
  | .hours => ("(" ++ days.1, days.2 ++ " * 24)")
  | .weeks => ("(" ++ days.1, days.2 ++ " / 7)")
  | _ => days

def timestampMarks : ElapsedUnit → String × String
  | .milliseconds => ("(EXTRACT(EPOCH FROM (", ")) * 1000)")
  | .seconds => ("EXTRACT(EPOCH FROM (", "))")
  | .minutes => ("(EXTRACT(EPOCH FROM (", ")) / 60)")
  | .hours => ("(EXTRACT(EPOCH FROM (", ")) / 3600)")
  | .days => ("(EXTRACT(EPOCH FROM (", ")) / 86400)")
  | .weeks => ("(EXTRACT(EPOCH FROM (", ")) / 604800)")
  | .months => ("(DATE_PART('year', AGE(", ")))")
  | .quarters => ("TRUNC((DATE_PART('year', AGE(", "))) / 3)")
  | .years => ("DATE_PART('year', AGE(", "))")

def julianMarks : ElapsedUnit → String × String
  | .months => ("((CAST(STRFTIME('%Y', ", ") AS INTEGER))")
  | .quarters => ("(((CAST(STRFTIME('%Y', ", ") AS INTEGER)) / 3)")
  | .years => ("(CAST(STRFTIME('%Y', ", ") AS INTEGER))")
  | u => scaledMarks ("(JULIANDAY(", "))") u

def monthsMarks : ElapsedUnit → String × String
  | .months => ("TRUNC(MONTHS_BETWEEN(CAST(", " AS DATE)))")
  | .quarters => ("TRUNC(MONTHS_BETWEEN(CAST(", " AS DATE)) / 3)")
  | .years => ("TRUNC(MONTHS_BETWEEN(CAST(", " AS DATE)) / 12)")
  | u => scaledMarks ("(CAST(", " AS DATE))") u

/-- What the time between two dates in a unit begins and ends with. -/
def elapsedMarks (d : Dialect) (u : ElapsedUnit) : String × String :=
  match d with
  | .mysql =>
    if u = .milliseconds then ("(TIMESTAMPDIFF(" ++ u.keyword d ++ ", ", ") / 1000)")
    else ("TIMESTAMPDIFF(" ++ u.keyword d ++ ", ", ")")
  | .postgres => timestampMarks u
  | .mssql => ("DATEDIFF(" ++ u.keyword d ++ ", ", ")")
  | .sqlite => julianMarks u
  | .oracle => monthsMarks u

theorem showsShift_dateAdd (d : Dialect) (args : List Operand) :
    ShowsShift d (shiftUnit args) args (dateAdd d args).result := by
  let date := (arg d args 0).result.text
  let amount := (groupedArg d args 1).result.text
  cases d with
  | mysql =>
    cases hn : negativeAmount? args with
    | some n => exact ⟨"SUB(" ++ date ++ ", INTERVAL ?", by simp [dateAdd, hn, shiftMarks, date, ← String.toList_inj]⟩
    | none =>
      exact ⟨"ADD(" ++ date ++ ", INTERVAL " ++ amount,
        by simp [dateAdd, hn, shiftMarks, date, amount, ← String.toList_inj]⟩
  | postgres =>
    exact ⟨date ++ " AS TIMESTAMP) + " ++ amount,
      by simp [dateAdd, shiftMarks, castTo, date, amount, ← String.toList_inj]⟩
  | mssql =>
    cases hn : negativeAmount? args with
    | some n => exact ⟨"-?, " ++ date, by simp [dateAdd, hn, shiftMarks, date, ← String.toList_inj]⟩
    | none =>
      exact ⟨(arg .mssql args 1).result.text ++ ", " ++ date,
        by simp [dateAdd, hn, shiftMarks, date, ← String.toList_inj]⟩
  | sqlite =>
    cases hn : numberArg? args 1 with
    | some n => simp [ShowsShift, dateAdd, hn]
    | none =>
      simp only [ShowsShift, hn]
      refine ⟨date, ?_⟩
      by_cases hweek : shiftUnit args = .week <;>
        simp [dateAdd, hn, hweek, shiftMarks, ShiftUnit.keyword, date, ← String.toList_inj]
  | oracle =>
    refine ⟨(groupedArg .oracle args 0).result.text, ?_⟩
    cases hu : shiftUnit args <;> simp [dateAdd, hu, shiftMarks, ← String.toList_inj]

/-- Of the third argument a shift takes no more than the unit. -/
theorem dateAdd_eq_of_unit {d : Dialect} {date amount x y : Operand}
    (h : shiftUnit [date, amount, x] = shiftUnit [date, amount, y]) :
    dateAdd d [date, amount, x] = dateAdd d [date, amount, y] := by
  unfold dateAdd
  rw [h]
  rfl

section
variable (u : ElapsedUnit) (finish start : Fragment)

theorem framed_timestampDiff : Framed (timestampMarks u)
    (timestampDiff u (castTo "TIMESTAMP" finish) (castTo "TIMESTAMP" start)).text := by
  let dates (s : String) : String := (castTo "TIMESTAMP" finish).text ++ s ++ (castTo "TIMESTAMP" start).text
  cases u
  case years => exact ⟨dates ", ", by simp [timestampDiff, timestampMarks, dates, ← String.toList_inj]⟩
  case months | quarters =>
    exact ⟨dates ", " ++ ")) * 12 + DATE_PART('month', AGE(" ++ dates ", ",
      by simp [timestampDiff, timestampMarks, dates, ← String.toList_inj]⟩
  all_goals exact ⟨dates " - ", by simp [timestampDiff, timestampMarks, dates, ← String.toList_inj]⟩

theorem framed_julianDiff : Framed (julianMarks u) (julianDiff u finish start).text := by
  let parts (pattern : String) : String :=
    finish.text ++ ") AS INTEGER) - CAST(STRFTIME('" ++ pattern ++ "', " ++ start.text
  cases u
  case years =>
    exact ⟨parts "%Y",
      by simp [julianDiff, scaledDays?, formatted, castTo, julianMarks, parts, ← String.toList_inj]⟩
  case months | quarters =>
    exact ⟨parts "%Y" ++ ") AS INTEGER)) * 12 + CAST(STRFTIME('%m', " ++ parts "%m",
      by simp [julianDiff, scaledDays?, formatted, castTo, julianMarks, parts, ← String.toList_inj]⟩
  all_goals
    exact ⟨finish.text ++ ") - JULIANDAY(" ++ start.text,
      by simp [julianDiff, scaledDays?, julianMarks, scaledMarks, ← String.toList_inj]⟩

theorem framed_monthsDiff : Framed (monthsMarks u)
    (monthsDiff u (castTo "DATE" finish) (castTo "DATE" start)).text := by
  cases u
  case months | quarters | years =>
    exact ⟨finish.text ++ " AS DATE), CAST(" ++ start.text,
      by simp [monthsDiff, scaledDays?, castTo, monthsMarks, ← String.toList_inj]⟩
  all_goals
    exact ⟨finish.text ++ " AS DATE) - CAST(" ++ start.text,
      by simp [monthsDiff, scaledDays?, castTo, monthsMarks, scaledMarks, ← String.toList_inj]⟩

end

theorem framed_dateDiff (d : Dialect) (args : List Operand) :
    Framed (elapsedMarks d (elapsedUnit args)) (dateDiff d args).result.text := by
  cases d with
  | mysql =>
    refine ⟨(arg .mysql args 1).result.text ++ ", " ++ (arg .mysql args 0).result.text, ?_⟩
    by_cases hu : elapsedUnit args = .milliseconds <;> simp [dateDiff, hu, elapsedMarks, ← String.toList_inj]
  | mssql =>
    exact ⟨(arg .mssql args 1).result.text ++ ", " ++ (arg .mssql args 0).result.text,
      by simp [dateDiff, elapsedMarks, ← String.toList_inj]⟩
  | postgres => exact framed_timestampDiff (elapsedUnit args) _ _
  | sqlite => exact framed_julianDiff (elapsedUnit args) _ _
  | oracle => exact framed_monthsDiff (elapsedUnit args) _ _

/-- Of the third argument a difference takes no more than the unit. -/
theorem dateDiff_eq_of_unit {d : Dialect} {finish start x y : Operand}
    (h : elapsedUnit [finish, start, x] = elapsedUnit [finish, start, y]) :
    dateDiff d [finish, start, x] = dateDiff d [finish, start, y] := by
  unfold dateDiff
  rw [h]
  rfl

/-- A week whose first day gives no notice has a literal for it. -/
theorem exists_day_of_quiet {args : List Operand} {x : Operand} (hx : args[1]? = some x)
    (h : (startDay args).notices = []) : ∃ s day, x.expr.asText? = some s ∧ Weekday.ofName? s = some day := by
  simp only [startDay, hx] at h
  cases hday : x.expr.asText?.bind Weekday.ofName? with
  | some day =>
    obtain ⟨s, hs, hday⟩ := Option.bind_eq_some_iff.1 hday
    exact ⟨s, day, hs, hday⟩
  | none =>
    rw [hday] at h
    cases h

end Sql

theorem Typed.map_expr_children (schema : Option Schema) (name : String) (args : List Expr) :
    (Typed.of schema (.call (some name) args)).children.map Typed.expr = args :=
  map_expr_buildArgs schema _ 0 args

/-- A literal argument that draws no error passes its test. -/
theorem Check.passes_of_textUnless {args : List Typed} {i : Nat} {p : String → Bool} {f : String → Finding}
    {s : String} (hs : textAt args i = some s) (h : ∀ x ∈ textUnless args i p f, x.severity ≠ .error)
    (hf : (f s).severity = .error) : p s = true := by
  by_contra hp
  have hfound : f s ∈ textUnless args i p f := by
    rw [Bool.not_eq_true] at hp
    simp [textUnless, hs, foundIf, hp]
  exact h _ hfound hf

namespace Expr

open Sql

theorem eq_text_of_asText? {e : Expr} {s : String} (h : e.asText? = some s) : e = text s := by
  unfold asText? at h
  split at h
  · rw [Option.some.inj h, text]
  · cases h

section
variable {readers : Readers} {schema : Option Schema} {span : Span} {frames : List Frame} {name : String}
  {args : List Expr}
  (haccepted : ∀ x ∈ (within frames (call (some name) args)).diagnostics readers schema span, x.severity ≠ .error)
  {f : Builtin} (hf : Builtin.lookup name = some f)
include haccepted hf

/-- What is found in a call is found in the whole. -/
theorem call_accepted : f.signature.arityFault? args.length = none ∧
    ∀ x ∈ Check.arguments readers f (Typed.of schema (call (some name) args)).children, x.severity ≠ .error := by
  obtain ⟨before, after, hblock⟩ :=
    exists_diagnostics_within frames (e := call (some name) args) rfl readers schema span
  have hcall : ∀ x ∈ (call (some name) args).findingsHere readers schema, x.severity ≠ .error := by
    intro x hx
    have hfound : x ∈ (call (some name) args).findings readers schema := by
      rw [findings_eq]
      exact List.mem_append_left _ hx
    refine haccepted ⟨x, span⟩ ?_
    rw [hblock _ rfl]
    exact List.mem_append_left _ (List.mem_append_right _ (List.mem_map_of_mem hfound))
  have hlength : (Typed.of schema (call (some name) args)).children.length = args.length := by
    simpa using congrArg List.length (Typed.map_expr_children schema name args)
  rw [findingsHere, Check.node, Check.call_of_lookup hf, hlength] at hcall
  rw [List.forall_mem_append, List.forall_mem_append] at hcall
  obtain ⟨⟨harity, harguments⟩, -⟩ := hcall
  refine ⟨?_, harguments⟩
  rcases hfault : f.signature.arityFault? args.length with _ | fault
  · rfl
  · rw [hfault] at harity
    exact absurd rfl (harity _ List.mem_cons_self)

theorem text_accepted {i : Nat} {p : String → Bool} {k : String → Finding} (hk : ∀ s, (k s).severity = .error)
    (hcheck : ∀ ts, Check.arguments readers f ts = Check.textUnless ts i p k) {s : String}
    (hs : args[i]? = some (text s)) : p s = true := by
  have htext : Check.textAt (Typed.of schema (call (some name) args)).children i = some s := by
    rw [← Typed.map_expr_children schema name args, List.getElem?_map, Option.map_eq_some_iff] at hs
    obtain ⟨t, ht, hts⟩ := hs
    simp [Check.textAt, ht, hts, text, asText?]
  have harguments := (call_accepted haccepted hf).2
  rw [hcheck] at harguments
  exact Check.passes_of_textUnless htext harguments (hk s)

end

/-- The unit that an argument names, seconds where it is no text that names one. -/
def countedUnit (unit : Expr) : ElapsedUnit :=
  (unit.canonical.asText?.bind ElapsedUnit.ofName?).getD .seconds

theorem namedUnit_text {s : String} {u : ShiftUnit} (h : ShiftUnit.ofName? s = some u) : namedUnit [text s] = u := by
  simp [namedUnit, text, asText?, h]

theorem countedUnit_text {s : String} {u : ElapsedUnit} (h : ElapsedUnit.ofName? s = some u) :
    countedUnit (text s) = u := by
  simp [countedUnit, text, asText?, h]

theorem elapsedUnit_operands (finish start unit : Expr) (d : Dialect) (names : Naming) :
    elapsedUnit ([finish, start, unit].map (operand d names)) = countedUnit unit := by
  simp [elapsedUnit, literalArg?, operand, countedUnit]

/-- The SQL of a shift by a unit: it shows the unit, and a text that names the unit in place of the argument would
make no difference, neither to the SQL nor to the notices. -/
structure ShiftedIn (d : Dialect) (names : Naming) (name : String) (date amount unit : Expr) (u : ShiftUnit) :
    Prop where
  shows : ShowsShift d u ([date, amount, unit].map (operand d names))
    (sqlOf d names (call (some name) [date, amount, unit]))
  same : ∀ s, ShiftUnit.ofName? s = some u → ((call (some name) [date, amount, text s]).operand d names).sql =
    ((call (some name) [date, amount, unit]).operand d names).sql

structure CountedIn (d : Dialect) (names : Naming) (name : String) (finish start unit : Expr) (u : ElapsedUnit) :
    Prop where
  shows : Framed (elapsedMarks d u) (sqlOf d names (call (some name) [finish, start, unit])).text
  same : ∀ s, ElapsedUnit.ofName? s = some u → ((call (some name) [finish, start, text s]).operand d names).sql =
    ((call (some name) [finish, start, unit]).operand d names).sql

section
variable {name : String} (d : Dialect) (names : Naming)

theorem shiftedIn_namedUnit (hname : Text.upper name = "DATEADD") (date amount unit : Expr) :
    ShiftedIn d names name date amount unit (namedUnit [unit]) := by
  have hbuiltin : Builtin.ofName? (Text.upper name) = some .dateAdd := by rw [hname]; decide
  have hsql (es : List Expr) : ((call (some name) es).operand d names).sql = dateAdd d (es.map (operand d names)) :=
    sql_operand_builtin hbuiltin (by decide) rfl es
  refine ⟨?_, fun s hs => ?_⟩
  · rw [sqlOf, hsql, ← shiftUnit_operands date amount [unit] d names]
    exact showsShift_dateAdd d _
  · rw [hsql, hsql]
    refine dateAdd_eq_of_unit ?_
    exact (shiftUnit_operands date amount [text s] d names).trans
      ((namedUnit_text hs).trans (shiftUnit_operands date amount [unit] d names).symm)

theorem countedIn_countedUnit (hname : Text.upper name = "DATETIME_DIFF") (finish start unit : Expr) :
    CountedIn d names name finish start unit (countedUnit unit) := by
  have hbuiltin : Builtin.ofName? (Text.upper name) = some .dateDiff := by rw [hname]; decide
  have hsql (es : List Expr) : ((call (some name) es).operand d names).sql = dateDiff d (es.map (operand d names)) :=
    sql_operand_builtin hbuiltin (by decide) rfl es
  refine ⟨?_, fun s hs => ?_⟩
  · rw [sqlOf, hsql, ← elapsedUnit_operands finish start unit d names]
    exact framed_dateDiff d _
  · rw [hsql, hsql]
    refine dateDiff_eq_of_unit ?_
    exact (elapsedUnit_operands finish start (text s) d names).trans
      ((countedUnit_text hs).trans (elapsedUnit_operands finish start unit d names).symm)

end

/-- In a week that comes without notices the first day is a literal. -/
theorem startDay_literal {d : Dialect} {names : Naming} {name : String} (hname : Text.upper name = "WEEKDAY")
    {args : List Expr} {start : Expr} (hstart : args[1]? = some start)
    (hquiet : (write d names (call (some name) args).canonical).notices = []) :
    ∃ s day, start.canonical = text s ∧ Weekday.ofName? s = some day := by
  have hbuiltin : Builtin.ofName? (Text.upper name) = some .weekday := by rw [hname]; decide
  have hsql (e : Expr) : write d names e.canonical = (e.operand d names).sql := rfl
  rw [hsql, sql_operand_builtin hbuiltin (by decide) rfl, weekday] at hquiet
  have hday : (startDay (args.map (operand d names))).notices = [] := by
    simp only [Noted.notices_bind, List.append_eq_nil_iff] at hquiet
    exact hquiet.2.1
  have hoperand : (args.map (operand d names))[1]? = some (start.operand d names) := by
    rw [List.getElem?_map, hstart, Option.map_some]
  obtain ⟨s, day, hs, hnamed⟩ := exists_day_of_quiet hoperand hday
  simp only [operand] at hs
  exact ⟨s, day, eq_text_of_asText? hs, hnamed⟩

/-- Units of time as they are named. In an expression without errors, whatever the readers accept, a literal
unit names one, and that is the unit written. An argument that names none, and is no literal, is written as
days or seconds without a notice, compiled strictly or not. Only the first day of a week, if the week shows in
the SQL, has to be a literal in canonical form for strict compilation to succeed. -/
theorem time_units_as_named {readers : Readers} {schema : Option Schema} {span : Span} {frames : List Frame}
    {name : String} {args : List Expr}
    (haccepted : ∀ x ∈ (within frames (call (some name) args)).diagnostics readers schema span, x.severity ≠ .error)
    (d : Dialect) (names : Naming) :
    (Text.upper name = "DATEADD" → ∃ date amount unit, args = [date, amount, unit] ∧
      (∀ s, unit = text s → ShiftUnit.ofName? s = some (namedUnit [unit])) ∧
      ShiftedIn d names name date amount unit (namedUnit [unit])) ∧
    (Text.upper name = "DATETIME_DIFF" → ∀ unit, args[2]? = some unit → ∃ finish start, args = [finish, start, unit] ∧
      (∀ s, unit = text s → ElapsedUnit.ofName? s = some (countedUnit unit)) ∧
      CountedIn d names name finish start unit (countedUnit unit)) ∧
    (Text.upper name = "WEEKDAY" → ∀ start f, args[1]? = some start →
      (within frames (call (some name) args)).compileStrict d names = .ok f →
      Contributes d names (call (some name) args).canonical (within frames (call (some name) args)).canonical →
      ∃ s day, start.canonical = text s ∧ Weekday.ofName? s = some day) := by
  refine ⟨fun hname => ?_, fun hname unit hunit => ?_, fun hname start f hstart hok hshows => ?_⟩
  · have hlookup : Builtin.lookup name = some .dateAdd := by rw [Builtin.lookup, hname]; decide
    obtain ⟨date, amount, unit, rfl⟩ : ∃ date amount unit, args = [date, amount, unit] := by
      have harity : args.length = 3 := by
        simpa [Builtin.signature, Signature.arityFault?, Arity.fault?] using (call_accepted haccepted hlookup).1
      exact List.length_eq_three.1 harity
    refine ⟨date, amount, unit, rfl, ?_, shiftedIn_namedUnit d names hname date amount unit⟩
    rintro s rfl
    have hs : (ShiftUnit.ofName? s).isSome = true :=
      text_accepted haccepted hlookup (k := .shiftUnit) (fun _ => rfl) (fun _ => rfl) rfl
    obtain ⟨u, hu⟩ := Option.isSome_iff_exists.1 hs
    rw [namedUnit_text hu, hu]
  · have hlookup : Builtin.lookup name = some .dateDiff := by rw [Builtin.lookup, hname]; decide
    obtain ⟨finish, start, rfl⟩ : ∃ finish start, args = [finish, start, unit] := by
      have harity : args.length ≤ 3 := by
        have hfault := (call_accepted haccepted hlookup).1
        simp only [Builtin.signature, Signature.arityFault?, Arity.fault?] at hfault
        split_ifs at hfault
        omega
      have hlength : args.length = 3 := by
        have hthird := (List.getElem?_eq_some_iff.1 hunit).1
        omega
      obtain ⟨finish, start, third, rfl⟩ := List.length_eq_three.1 hlength
      obtain rfl : third = unit := by simpa using hunit
      exact ⟨finish, start, rfl⟩
    refine ⟨finish, start, rfl, ?_, countedIn_countedUnit d names hname finish start unit⟩
    rintro s rfl
    have hs : (ElapsedUnit.ofName? s).isSome = true :=
      text_accepted haccepted hlookup (k := .elapsedUnit) (fun _ => rfl) (fun _ => rfl) rfl
    obtain ⟨u, hu⟩ := Option.isSome_iff_exists.1 hs
    rw [countedUnit_text hu, hu]
  · have hquiet : (write d names (within frames (call (some name) args)).canonical).notices = [] := by
      have hvalue := Notice.firsts_eq_nil_iff.1 (compileStrict_eq_ok_iff.1 hok).1
      rwa [Operand.value, Noted.notices_map] at hvalue
    exact startDay_literal hname hstart (hshows.quiet hquiet)

/-- A shift inside a difference, and a week from Sunday inside a sum. -/
theorem time_units_as_named_nested :
    let readers : Readers := ⟨fun _ => none, fun _ => none⟩
    let shift := call (some "DateAdd") [column "due", column "n", text " WEEKS"]
    let diff := call (some "Datetime_Diff") [shift, column "due", text "M"]
    let week := call (some "Weekday") [column "due", call (some "Sum") [text "sunday"]]
    let sum := binary .add week (column "n")
    let f : Fragment := ⟨"CAST(STRFTIME('%w', \"due\") AS INTEGER) + \"n\"", [], .value⟩
    ((∀ x ∈ diff.diagnostics readers none ⟨0, 9⟩, x.severity ≠ .error) ∧
      (sqlOf .oracle .default shift).text = "(\"due\" + NUMTODSINTERVAL(\"n\" * 7, 'DAY'))" ∧
      ShiftedIn .oracle .default "DateAdd" (column "due") (column "n") (text " WEEKS") .week ∧
      CountedIn .mssql .default "Datetime_Diff" shift (column "due") (text "M") .months) ∧
    ((∀ x ∈ sum.diagnostics readers none ⟨0, 9⟩, x.severity ≠ .error) ∧ sum.compileStrict .sqlite .default = .ok f ∧
      Contributes .sqlite .default week.canonical sum.canonical ∧
      ∃ s day, (call (some "Sum") [text "sunday"]).canonical = text s ∧ Weekday.ofName? s = some day) := by
  intro readers shift diff week sum f
  have hdiff : ∀ x ∈ diff.diagnostics readers none ⟨0, 9⟩, x.severity ≠ .error := by decide
  have hsum : ∀ x ∈ sum.diagnostics readers none ⟨0, 9⟩, x.severity ≠ .error := by decide
  have hok : sum.compileStrict .sqlite .default = .ok f := by decide
  have hshows : Contributes .sqlite .default week.canonical sum.canonical :=
    .part (i := 0) rfl ⟨.raw "", by decide⟩ .whole
  have hshift : diff = within [.argument (some "Datetime_Diff") [] [column "due", text "M"]] shift := rfl
  have hwhole : diff = within [] diff := rfl
  have hweek : sum = within [.left .add (column "n")] week := rfl
  refine ⟨⟨hdiff, by decide, ?_, ?_⟩, hsum, hok, hshows, ?_⟩
  · rw [hshift] at hdiff
    obtain ⟨_, _, _, ⟨⟩, -, hin⟩ := (time_units_as_named hdiff .oracle .default).1 (by decide)
    rwa [namedUnit_text (u := .week) (by decide)] at hin
  · rw [hwhole] at hdiff
    obtain ⟨_, _, ⟨⟩, -, hin⟩ := (time_units_as_named hdiff .mssql .default).2.1 (by decide) _ rfl
    rwa [countedUnit_text (u := .months) (by decide)] at hin
  · rw [hweek] at hsum hok hshows
    exact (time_units_as_named hsum .sqlite .default).2.2 (by decide) _ f rfl hok hshows

/-- A unit in a column draws neither a diagnostic nor a notice, and is taken for days or seconds. -/
theorem unit_columns_guessed :
    let shift := call (some "DATEADD") [column "d", column "n", column "u"]
    let diff := call (some "DATETIME_DIFF") [column "a", column "b", column "u"]
    (Expr.parse "DATEADD(d, n, u)" = .ok shift ∧ (∀ readers, shift.diagnostics readers none ⟨0, 16⟩ = []) ∧
      shift.compileStrict .mysql .default = .ok ⟨"DATE_ADD(`d`, INTERVAL `n` DAY)", [], .value⟩) ∧
    (Expr.parse "DATETIME_DIFF(a, b, u)" = .ok diff ∧ (∀ readers, diff.diagnostics readers none ⟨0, 22⟩ = []) ∧
      diff.compileStrict .mysql .default = .ok ⟨"TIMESTAMPDIFF(SECOND, `b`, `a`)", [], .value⟩) := by
  intro shift diff
  have hshift : Lexer.scan "DATEADD(d, n, u)" = .ok ⟨[⟨.name "DATEADD", 0⟩, ⟨.openParen, 7⟩, ⟨.name "d", 8⟩,
      ⟨.comma, 9⟩, ⟨.name "n", 11⟩, ⟨.comma, 12⟩, ⟨.name "u", 14⟩, ⟨.closeParen, 15⟩], 16⟩ := by rfl
  have hdiff : Lexer.scan "DATETIME_DIFF(a, b, u)" = .ok ⟨[⟨.name "DATETIME_DIFF", 0⟩, ⟨.openParen, 13⟩,
      ⟨.name "a", 14⟩, ⟨.comma, 15⟩, ⟨.name "b", 17⟩, ⟨.comma, 18⟩, ⟨.name "u", 20⟩, ⟨.closeParen, 21⟩], 22⟩ := by rfl
  exact ⟨⟨(parse_of_scan hshift).trans (by cbv), fun _ => rfl, by decide⟩, (parse_of_scan hdiff).trans (by cbv),
    fun _ => rfl, by decide⟩

end Expr

end SheetQuery
