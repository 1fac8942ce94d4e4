import SheetQuery.Check
import SheetQuery.Proofs.Derivation
import SheetQuery.Proofs.FormulaText

/-! Which notices arise. The SQL of a function gives the notices of its arguments, and of its own only those on
what a dialect cannot do. What is found in an expression names every function that the table does not have, so an
expression read from text in which no error is found compiles without any other notice. -/

namespace SheetQuery

def Noted.Only {α : Type} (P : Notice → Prop) (m : Noted α) : Prop := ∀ n ∈ m.notices, P n

namespace Noted

variable {α β : Type} {P : Notice → Prop}

@[simp] theorem only_pure (a : α) : (pure a : Noted α).Only P := by simp [Only]

@[simp] theorem only_bind (m : Noted α) (k : α → Noted β) : (m >>= k).Only P ↔ m.Only P ∧ (k m.result).Only P := by
  simp [Only, or_imp, forall_and]

@[simp] theorem only_map (k : α → β) (m : Noted α) : (k <$> m).Only P ↔ m.Only P := by simp [Only]

@[simp] theorem only_all (ms : List (Noted α)) : (all ms).Only P ↔ ∀ m ∈ ms, m.Only P := by
  simp only [Only, notices_all, List.mem_flatMap]
  exact ⟨fun h m hm n hn => h n ⟨m, hm, hn⟩, fun h n ⟨m, hm, hn⟩ => h m hm n hn⟩

@[simp] theorem only_notice (n : Notice) : (notice n).Only P ↔ P n := by simp [Only, notice]

end Noted

/-- The notices on what a dialect cannot do. -/
def Notice.limits (d : Dialect) : List Notice :=
  .arrayFunction :: .startDay :: if d = .oracle then [.jsonPath] else []

theorem Notice.mem_firsts {n : Notice} {ns : List Notice} (h : n ∈ firsts ns) : n ∈ ns := by
  induction ns with
  | nil => exact h
  | cons m ns ih =>
    rcases List.mem_cons.1 h with rfl | h
    · exact List.mem_cons_self
    · exact List.mem_cons_of_mem _ (ih (List.mem_filter.1 h).1)

namespace Sql

open Noted

variable {P : Notice → Prop} {d : Dialect} {x y : Operand} {args : List Operand} {names : Naming}

@[simp] theorem only_value : (x.value d).Only P ↔ x.sql.Only P := by simp [Operand.value]

@[simp] theorem only_grouped : (x.grouped d).Only P ↔ x.sql.Only P := by simp [Operand.grouped]

@[simp] theorem only_condition : (x.condition d).Only P ↔ x.sql.Only P := by simp [Operand.condition]

@[simp] theorem only_groupedCondition : (x.groupedCondition d).Only P ↔ x.sql.Only P := by
  simp [Operand.groupedCondition]

@[simp] theorem only_valueUnder (op : BinaryOp) (right : Bool) : (x.valueUnder d op right).Only P ↔ x.sql.Only P := by
  simp [Operand.valueUnder]

@[simp] theorem only_conditionUnder (op : BinaryOp) (right : Bool) :
    (x.conditionUnder d op right).Only P ↔ x.sql.Only P := by
  simp [Operand.conditionUnder]

@[simp] theorem only_literal (v : Literal) : (Operand.literal v).sql.Only P := by simp [Operand.literal]

@[simp] theorem only_null : Operand.null.sql.Only P := only_literal .null

@[simp] theorem only_text (s : String) : (Operand.text s).sql.Only P := only_literal (.text s)

@[simp] theorem only_joined (op : BinaryOp) : (joined d op x y).sql.Only P ↔ x.sql.Only P ∧ y.sql.Only P := by
  simp [joined]

theorem only_sumChain (hs : ∀ x ∈ args, x.sql.Only P) : (sumChain d args).sql.Only P := by
  induction args with
  | nil => exact only_null
  | cons x xs ih =>
    cases xs with
    | nil => exact hs x List.mem_cons_self
    | cons y ys =>
      exact (only_joined .add).2 ⟨hs x List.mem_cons_self, ih fun z hz => hs z (List.mem_cons_of_mem x hz)⟩

theorem only_branches (hs : ∀ x ∈ args, x.sql.Only P) : (branches d args).Only P := by
  fun_induction branches d args with
  | case1 => simp
  | case2 x => simp [hs x]
  | case3 case result rest ih => simp_all

theorem entry_eq (d : Dialect) (names : Naming) (f : Builtin) :
    entry d names f = numericEntry d f ∨ entry d names f = textEntry d f ∨ entry d names f = dateEntry d f ∨
      entry d names f = logicEntry d names f := by
  unfold entry
  split <;> simp

section
variable (hs : ∀ x ∈ args, x.sql.Only P)
include hs

theorem only_getD (i : Nat) : (args.getD i .null).sql.Only P := by
  rw [List.getD_eq_getElem?_getD]
  cases h : args[i]? with
  | none => exact only_null
  | some x => exact hs x (List.mem_of_getElem? h)

theorem only_arg (i : Nat) : (arg d args i).Only P := only_value.2 (only_getD hs i)

theorem only_groupedArg (i : Nat) : (groupedArg d args i).Only P := only_grouped.2 (only_getD hs i)

theorem only_values : (values d args).Only P := by simpa [values] using hs

theorem only_nativeCall (name : String) : (nativeCall d name args).Only P := by
  simp [nativeCall, only_values hs]

theorem only_average : (average d args).Only P := by
  unfold average
  split
  · simp
  · simpa using hs
  · simp [sum, only_sumChain hs]

theorem only_extreme (name aggregate : String) : (extreme d name aggregate args).Only P := by
  unfold extreme
  split
  · simpa using hs
  · cases d <;> simp [only_values hs, only_nativeCall hs]

theorem only_countIf {test : Operand → Noted Fragment} (ht : ∀ x, x.sql.Only P → (test x).Only P) :
    (countIf test args).Only P := by
  unfold countIf
  split
  · simp
  · simpa using fun x hx => ht x (hs x hx)

theorem only_precision : (precision d args).Only P := by
  unfold precision
  split <;> simp [only_arg hs]

theorem only_logarithm : (logarithm d args).Only P := by
  unfold logarithm
  rw [only_bind]
  refine ⟨only_arg hs 0, ?_⟩
  split <;> simp [only_arg hs]

theorem only_concat : (concat d args).Only P := by
  cases d <;> simp [concat, only_nativeCall hs, only_values hs] <;> simpa using hs

theorem only_link : (link d args).Only P := by
  refine (only_map _ _).2 (only_concat ?_)
  match args, hs with
  | [], _ => simp
  | [x], hs => simpa using hs
  | x :: y :: zs, hs => simp_all

theorem only_substring : (substring d args).Only P := by
  unfold substring
  split
  case h_1 x hx => simp [only_arg hs, hs x (List.mem_of_getElem? hx)]
  case h_2 => simp [only_arg hs]

theorem only_dateAdd : (dateAdd d args).Only P := by
  cases d
  case postgres | oracle => simp [dateAdd, only_arg hs, only_groupedArg hs]
  all_goals
    simp only [dateAdd, only_bind, only_arg hs, true_and]
    split <;> simp [only_arg hs, only_groupedArg hs]

theorem only_weekday (h : P .startDay) : (weekday d args).Only P := by
  have hstart : (startDay args).Only P := by
    unfold startDay
    split
    · simp
    · split <;> simp [h]
  simp [weekday, only_arg hs, hstart]

theorem only_jsonMember (h : d = .oracle → P .jsonPath) : (jsonMember d args).Only P := by
  cases d
  case oracle =>
    simp only [jsonMember, only_bind, only_arg hs, true_and]
    split <;> simp [only_arg hs, h]
  all_goals simp [jsonMember, only_arg hs]

theorem only_ifElse : (ifElse d args).Only P := by
  simp only [ifElse]
  split
  case h_1 x hx =>
    have hx := hs x (List.mem_of_head? hx)
    simp only [only_bind, only_condition, hx, only_arg hs, true_and]
    split <;> simp [only_arg hs]
  case h_2 =>
    simp only [only_bind, only_pure, only_arg hs, true_and]
    split <;> simp [only_arg hs]

theorem only_allOf (word : String) : (allOf d word args).Only P := by
  unfold allOf
  split <;> simpa using hs

theorem only_xor : (xor d args).Only P := by
  cases d
  case mysql => exact only_allOf hs "XOR"
  all_goals simpa [xor] using hs

theorem only_isBlank : (isBlank d args).Only P := by
  cases args with
  | nil => simp [isBlank]
  | cons x xs => simpa [isBlank] using hs x

theorem only_isNotBlank : (isNotBlank d args).Only P := by
  cases args with
  | nil => simp [isNotBlank]
  | cons x xs => simpa [isNotBlank, isFilled] using hs x

theorem only_numericEntry (f : Builtin) : ((numericEntry d f).write d args).Only P := by
  have harg := only_arg (d := d) hs
  have hgrouped := only_groupedArg (d := d) hs
  cases f
  case avg => exact only_average hs
  case min | max => exact only_extreme hs _ _
  case count => exact only_countIf hs fun x hx => by simpa [isPresent] using hx
  case countFilled => exact only_countIf hs fun x hx => by simpa [isFilled] using hx
  case log => exact only_logarithm hs
  case int => cases d <;> simp [Entry.write, numericEntry, wholePart, harg, only_nativeCall hs]
  case add | sum | countAll | round | roundUp | roundDown | ceiling | floor | even | odd | mod | value | float =>
    simp [Entry.write, numericEntry, sum, round, roundTowards, even, odd, modulo, numberOfText, harg, hgrouped,
      only_sumChain hs, only_precision hs]
  all_goals exact only_nativeCall hs _

theorem only_textEntry (hpath : d = .oracle → P .jsonPath) (f : Builtin) :
    ((textEntry d f).write d args).Only P := by
  have harg := only_arg (d := d) hs
  have hgrouped := only_groupedArg (d := d) hs
  have hnative := only_nativeCall (d := d) hs
  cases f
  case url => exact only_link hs
  case mid | substr =>
    cases d
    case mssql => exact only_substring hs
    all_goals exact hnative _
  case concat =>
    have hconcat := only_concat (d := d) hs
    cases d
    case postgres => exact hnative _
    all_goals exact hconcat
  case jsonExtract =>
    have hjson := only_jsonMember (d := d) hs hpath
    cases d
    case mssql | sqlite => exact hnative _
    all_goals exact hjson
  case search => simp [Entry.write, textEntry, search, harg]
  case urlEncode => simp [Entry.write, textEntry, linkEncoded, harg]
  case trim => cases d <;> simp [Entry.write, textEntry, trimmed, harg, hnative]
  case left | right => cases d <;> simp [Entry.write, textEntry, leading, trailing, harg, hgrouped, hnative]
  case repeatText => cases d <;> simp [Entry.write, textEntry, repeated, harg, hgrouped, hnative]
  case regexMatch | regexExtract | regexReplace =>
    cases d <;> simp [Entry.write, textEntry, patternMatch, patternExtract, patternReplace, harg, hgrouped, hnative]
  case len => cases d <;> exact hnative _
  all_goals exact hnative _

theorem only_dateEntry (hday : P .startDay) (f : Builtin) : ((dateEntry d f).write d args).Only P := by
  have harg := only_arg (d := d) hs
  have hnative := only_nativeCall (d := d) hs
  cases f
  case dateAdd => exact only_dateAdd hs
  case weekday => exact only_weekday hs hday
  case dateDiff | dateText => simp [Entry.write, dateEntry, dateDiff, dateText, harg]
  case now => cases d <;> simp [Entry.write, dateEntry, hnative]
  case day | month | year | hour =>
    cases d <;> simp [Entry.write, dateEntry, dateEntry.part, datePart, harg, hnative]
  all_goals exact hnative _

theorem only_logicEntry (harray : P .arrayFunction) (f : Builtin) :
    ((logicEntry d names f).write d args).Only P := by
  cases f
  case ifElse => exact only_ifElse hs
  case and | or => exact only_allOf hs _
  case xor => exact only_xor hs
  case isBlank => exact only_isBlank hs
  case isNotBlank => exact only_isNotBlank hs
  case switch =>
    have hmore : ∀ x ∈ args.tail, x.sql.Only P := fun x hx => hs x (List.mem_of_mem_tail hx)
    simp [Entry.write, logicEntry, switch, only_arg hs, only_branches hmore]
  case arrayUnique | arraySort | arrayCompact | arraySlice => exact (only_notice _).2 harray
  case trueValue | falseValue | blank | recordId => exact only_pure _
  all_goals exact only_nativeCall hs _

/-- Besides the notices of its arguments, a function gives only those on what the dialect cannot do. -/
theorem only_entry (harray : P .arrayFunction) (hday : P .startDay) (hpath : d = .oracle → P .jsonPath)
    (f : Builtin) : ((entry d names f).write d args).Only P := by
  rcases entry_eq d names f with h | h | h | h <;> rw [h]
  · exact only_numericEntry hs f
  · exact only_textEntry hs hpath f
  · exact only_dateEntry hs hday f
  · exact only_logicEntry hs harray f

end

theorem only_binary {op : BinaryOp} (hop : ∀ s, op ≠ .other s) (hx : x.sql.Only P) (hy : y.sql.Only P) :
    (binary d op x y).Only P := by
  cases op
  case other s => exact absurd rfl (hop s)
  case concat => exact only_concat (by simp [hx, hy])
  case mod =>
    simp only [binary]
    split <;> simp [hx, hy]
  all_goals simp [binary, binary.logical, binary.comparison, hx, hy]

theorem only_unary {op : UnaryOp} (hop : ∀ s, op ≠ .other s) (hx : x.sql.Only P) : (unary d op x).Only P := by
  cases op
  case other s => exact absurd rfl (hop s)
  case minus =>
    simp only [unary]
    split <;> simp [hx]
  case plus => exact hx
  case not => simp [unary, hx]

end Sql

/-- An operator of the language, or a call of a function that the table has. -/
def Expr.IsKnown : Expr → Prop
  | .binary op _ _ => ∀ s, op ≠ .other s
  | .unary op _ => ∀ s, op ≠ .other s
  | .call name _ => ∃ n f, name = some n ∧ Builtin.ofName? (Text.upper n) = some f
  | .unsupported _ => False
  | _ => True

theorem Expr.stable_isKnown : Stable IsKnown where
  literal _ := trivial
  binary h := h
  unary h := h
  call h _ := h
  operator h l r := by
    simp only [List.mem_cons, List.not_mem_nil, or_false] at h
    rcases h with rfl | rfl | rfl <;> exact fun _ => nofun
  function {name} h args := by
    have hknown : ∀ n ∈ ["SUM", "CONCAT", "FLOAT"], (Builtin.ofName? (Text.upper n)).isSome := by decide
    obtain ⟨f, hf⟩ := Option.isSome_iff_exists.1 (hknown name h)
    exact ⟨name, f, rfl, hf⟩

theorem Sql.only_write {d : Dialect} {names : Naming} {e : Expr} (he : e.Everywhere Expr.IsKnown) :
    (write d names e).Only (· ∈ Notice.limits d) := by
  induction he with
  | literal | column => simp [write]
  | unsupported h => exact h.elim
  | binary h _ _ ihl ihr => exact only_binary h ihl ihr
  | unary h _ ih => exact only_unary h ih
  | call h _ ih =>
    obtain ⟨n, f, rfl, hf⟩ := h
    simp only [write, call, hf, operands_eq_map]
    exact only_entry (List.forall_mem_map.2 ih) (by simp [Notice.limits]) (by simp [Notice.limits])
      (fun hd => by simp [Notice.limits, hd]) f

/-- A call of a function that users have. -/
def Expr.IsListed : Expr → Prop
  | .call name _ => ∃ n f, name = some n ∧ Builtin.lookup n = some f
  | .unsupported _ => False
  | _ => True

theorem Typed.exists_build_mem {schema : Option Schema} {a : Expr} {args : List Expr} (ha : a ∈ args)
    (expected : Nat → Option DataType) (i : Nat) : ∃ t, build schema t a ∈ buildArgs schema expected i args := by
  induction args generalizing i with
  | nil => cases ha
  | cons b args ih =>
    rcases List.mem_cons.1 ha with rfl | ha
    · exact ⟨expected i, List.mem_cons_self⟩
    · obtain ⟨t, ht⟩ := ih ha (i + 1)
      exact ⟨t, List.mem_cons_of_mem _ ht⟩

namespace Check

variable {readers : Readers} {schema : Option Schema} {P : Finding → Prop}

theorem walkAll_eq_flatMap (ts : List Typed) : walkAll readers schema ts = ts.flatMap (walk readers schema) := by
  induction ts with
  | nil => rfl
  | cons t ts ih => rw [walkAll, ih, List.flatMap_cons]

theorem forall_mem_walk {e : Expr} {type : DataType} {parts : List Typed} :
    (∀ f ∈ walk readers schema (.node e type parts), P f) ↔
      (∀ f ∈ node readers schema e type parts, P f) ∧ ∀ t ∈ parts, ∀ f ∈ walk readers schema t, P f := by
  simp only [walk, walkAll_eq_flatMap, List.forall_mem_append, List.forall_mem_flatMap]

theorem exists_lookup_of_call {name : Option String} {args : List Typed}
    (h : ∀ f ∈ call readers name args, f.severity ≠ .error) : ∃ n f, name = some n ∧ Builtin.lookup n = some f := by
  unfold call at h
  split at h
  · exact absurd rfl (h _ List.mem_cons_self)
  · exact absurd rfl (h _ List.mem_cons_self)
  · split at h
    · exact absurd rfl (h _ List.mem_cons_self)
    · exact ⟨_, _, rfl, ‹_›⟩

/-- Without errors every call in the expression is of a function that users have. -/
theorem listed_of_walk {e : Expr} {expected : Option DataType}
    (h : ∀ f ∈ walk readers schema (.build schema expected e), f.severity ≠ .error) : e.Everywhere Expr.IsListed := by
  induction e using Expr.induct generalizing expected with
  | literal => exact .literal trivial
  | column => exact .column trivial
  | unsupported kind =>
    rw [Typed.build, forall_mem_walk] at h
    exact absurd rfl (h.1 _ List.mem_cons_self)
  | unary op e ih =>
    rw [Typed.build, forall_mem_walk, List.forall_mem_singleton] at h
    exact .unary trivial (ih h.2)
  | binary op l r ihl ihr =>
    rw [Typed.build, forall_mem_walk, List.forall_mem_cons, List.forall_mem_singleton] at h
    exact .binary trivial (ihl h.2.1) (ihr h.2.2)
  | call name args ih =>
    rw [Typed.build, forall_mem_walk] at h
    refine .call (exists_lookup_of_call h.1) fun a ha => ?_
    obtain ⟨t, ht⟩ := Typed.exists_build_mem ha _ _
    exact ih a ha (h.2 _ ht)

end Check

namespace Expr

theorem IsListed.isKnown {e : Expr} (h : e.IsListed) (hw : e.IsWorded) : e.IsKnown := by
  cases e with
  | binary | unary => exact hw
  | call =>
    obtain ⟨n, f, rfl, hf⟩ := h
    refine ⟨n, ?_⟩
    rw [Builtin.lookup] at hf
    rw [Builtin.ofName?, Builtin.all, List.find?_cons]
    split
    · exact ⟨_, rfl, rfl⟩
    · exact ⟨f, rfl, hf⟩
  | unsupported => exact h
  | literal | column => trivial

/-- An expression read from text is known where no error is found in it. -/
theorem known_of_diagnostics {readers : Readers} {text : String} {e : Expr} {schema : Option Schema} {span : Span}
    (hparse : parse text = .ok e) (haccepted : ∀ x ∈ e.diagnostics readers schema span, x.severity ≠ .error) :
    e.Everywhere IsKnown := by
  have hfindings : ∀ f ∈ e.findings readers schema, f.severity ≠ .error := fun f hf =>
    haccepted ⟨f, span⟩ (List.mem_map_of_mem hf)
  have hlisted : e.Everywhere IsListed := Check.listed_of_walk hfindings
  exact (hlisted.and (worded_of_parse hparse)).imp fun _ h => h.1.isKnown h.2

variable {d : Dialect} {names : Naming} {e : Expr} {n : Notice}

theorem mem_notices_of_compileStrict (h : e.compileStrict d names = .error n) : n ∈ (e.compile d names).notices := by
  simp only [compileStrict] at h
  split at h
  case h_1 => cases h
  case h_2 hn =>
    cases h
    simp [hn]

theorem Everywhere.mem_limits (he : e.Everywhere IsKnown)
    (hn : n ∈ (e.compile d names).notices ∨ n ∈ (e.compileCondition d names).notices) : n ∈ Notice.limits d := by
  have hwrite : (e.operand d names).sql.Only (· ∈ Notice.limits d) := Sql.only_write (he.canonical stable_isKnown)
  rcases hn with hn | hn
  · exact Sql.only_value.2 hwrite n (Notice.mem_firsts hn)
  · exact Sql.only_condition.2 hwrite n (Notice.mem_firsts hn)

/-- Where no error is found in a formula, whatever the readers of patterns and JSON accept, the only notices are those
on array functions, on the first day of a week and, in one dialect, on paths into documents. -/
theorem compile_notices_of_no_error {readers : Readers} {text : String} {e : Expr} {schema : Option Schema}
    {span : Span} (hparse : parse text = .ok e)
    (haccepted : ∀ x ∈ e.diagnostics readers schema span, x.severity ≠ .error)
    (d : Dialect) (names : Naming) :
    ∀ n : Notice, (n ∈ (e.compile d names).notices ∨ n ∈ (e.compileCondition d names).notices ∨
        e.compileStrict d names = .error n) →
      n.isPassThrough = false ∧
        (n.detail = "array functions over lookup columns" ∨
          n.detail = "WEEKDAY start day that is not a literal day name" ∨
          d = .oracle ∧ n.detail = "JSON_EXTRACT with a non-literal path") := by
  intro n hn
  have hknown := known_of_diagnostics hparse haccepted
  have hlimit : n ∈ Notice.limits d := by
    rcases hn with hn | hn | hn
    · exact hknown.mem_limits (.inl hn)
    · exact hknown.mem_limits (.inr hn)
    · exact hknown.mem_limits (.inl (mem_notices_of_compileStrict hn))
  simp only [Notice.limits, List.mem_cons, List.mem_ite_nil_right, List.not_mem_nil, or_false] at hlimit
  rcases hlimit with rfl | rfl | ⟨hd, rfl⟩
  · exact ⟨rfl, .inl rfl⟩
  · exact ⟨rfl, .inr (.inl rfl)⟩
  · exact ⟨rfl, .inr (.inr ⟨hd, rfl⟩)⟩

theorem compile_notices_json_path :
    let readers : Readers := ⟨fun _ => none, fun _ => none⟩
    let e : Expr := .call (some "json_extract") [.column "a", .binary .concat (.column "b") (.text ".c")]
    parse "json_extract(a, \x7bb\x7d & '.c')" = .ok e ∧
      (∀ x ∈ e.diagnostics readers none ⟨0, 0⟩, x.severity ≠ .error) ∧
      e.compileStrict .oracle .default = .error .jsonPath ∧
      Notice.jsonPath.isPassThrough = false := by
  intro readers e
  have hscan : Lexer.scan "json_extract(a, \x7bb\x7d & '.c')" = .ok ⟨[⟨.name "json_extract", 0⟩, ⟨.openParen, 12⟩,
      ⟨.name "a", 13⟩, ⟨.comma, 14⟩, ⟨.braced "b", 16⟩, ⟨.op .concat, 20⟩, ⟨.text ".c", 22⟩, ⟨.closeParen, 26⟩],
      27⟩ := by decide +kernel
  have hparse : parse "json_extract(a, \x7bb\x7d & '.c')" = .ok e := (parse_of_scan hscan).trans (by cbv)
  have haccepted : ∀ x ∈ e.diagnostics readers none ⟨0, 0⟩, x.severity ≠ .error := by decide
  have hstrict : e.compileStrict .oracle .default = .error .jsonPath := by rfl
  exact ⟨hparse, haccepted, hstrict,
    (compile_notices_of_no_error hparse haccepted .oracle .default _ (.inr (.inr hstrict))).1⟩

end Expr

end SheetQuery
