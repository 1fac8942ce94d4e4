import SheetQuery.Check
import SheetQuery.Proofs.Findings
import SheetQuery.Proofs.Relabeling
import SheetQuery.Proofs.WovenCalls
import SheetQuery.Summary

/-! The case of letters in the names of functions. A name is looked up, compared and written in several ways; none of
them tells two spellings of a registered function apart, neither in checking nor in compiling nor in summing up. -/

namespace SheetQuery

namespace Text

/-- The text with `a` to `z` in upper case and all else as it is. -/
def asciiUpper (s : String) : String := String.ofList (s.toList.map Char.toUpper)

theorem toLower_toUpper (c : Char) : c.toUpper.toLower = c.toLower := by
  have hascii : ∀ n < 128, (Char.ofNat n).toUpper.toLower = (Char.ofNat n).toLower := by decide
  by_cases h : c.toNat < 128
  · simpa using hascii c.toNat h
  · have hupper : c.toUpper = c := by
      refine dif_neg ?_
      rintro ⟨-, hz⟩
      have hn : c.toNat ≤ 122 := hz
      omega
    rw [hupper]

theorem asciiLower_asciiUpper (s : String) : asciiLower (asciiUpper s) = asciiLower s := by
  simp [asciiLower, asciiUpper, Function.comp_def, toLower_toUpper]

end Text

namespace Builtin

/-- The name of a registered function in capital letters; any other name stays as it is. -/
def capitalize (name : String) : String := if (lookup name).isSome then Text.asciiUpper name else name

theorem capitalize_of_lookup {name : String} (h : lookup name = none) : capitalize name = name := by
  simp [capitalize, h]

theorem lookup_eq_none {name : String} (h : ofName? (Text.upper name) = none) : lookup name = none := by
  rw [ofName?, List.find?_eq_none] at h
  rw [lookup, List.find?_eq_none]
  exact fun f hf => h f (List.mem_cons_of_mem float hf)

def capitals : Relabeling where
  column := id
  function := capitalize
  letters name := by
    unfold capitalize
    split
    · exact Text.asciiLower_asciiUpper name
    · rfl
  kept h := by
    simp only [List.mem_cons, List.not_mem_nil, or_false] at h
    rcases h with rfl | rfl | rfl <;> decide

-- By `rfl` the look-up in the table of functions would be unfolded.
theorem function_capitals : capitals.function = capitalize := by
  rw [capitals]

theorem upper_capitalize (name : String) : Text.upper (capitalize name) = Text.upper name := by
  rw [← function_capitals, capitals.upper_function]

theorem lookup_capitalize (name : String) : lookup (capitalize name) = lookup name := by
  rw [lookup, lookup, upper_capitalize]

end Builtin

namespace Expr

def capitalized (e : Expr) : Expr := e.relabel Builtin.capitals

theorem capitalized_call (name : Option String) (args : List Expr) :
    (call name args).capitalized = call (name.map Builtin.capitalize) (args.map capitalized) := by
  rw [← Builtin.function_capitals]
  exact relabel_call Builtin.capitals name args

end Expr

/-! Compiling. -/

namespace Sql

theorem call_capitalize (d : Dialect) (names : Naming) (name : Option String) (args : List Operand) :
    call d names (name.map Builtin.capitalize) args = call d names name args := by
  cases name with
  | none => rfl
  | some n =>
    simp only [Option.map_some, call, Builtin.upper_capitalize]
    cases hf : Builtin.ofName? (Text.upper n) with
    | some f => rfl
    | none =>
      -- the function is passed through by its name, which is not changed
      rw [Builtin.capitalize_of_lookup (Builtin.lookup_eq_none hf)]

theorem write_capitalized (d : Dialect) (names : Naming) (e : Expr) :
    (write d names e).Twin True Eq (write d names e.capitalized) := by
  have w : Weaving d True Eq := weaving_eq d True
  have hkin (e : Expr) : e.Kin e.capitalized := Expr.kin_relabel Builtin.capitals e
  have hnumber (e : Expr) : e.capitalized.asNumber? = e.asNumber? := Expr.asNumber?_relabel Builtin.capitals e
  induction e using Expr.induct with
  | literal v => exact .refl (fun _ => rfl) _
  | column n => exact .refl (fun _ => rfl) _
  | unsupported k => exact .refl (fun _ => rfl) _
  | unary op e ih => exact unary_twin w ⟨hkin e, ih⟩ op (w.negated (hnumber e))
  | binary op l r ihl ihr => exact binary_twin w ⟨hkin l, ihl⟩ op ⟨hkin r, ihr⟩
  | call name args ih =>
    simp only [Expr.capitalized_call, write, operands_eq_map, List.map_map, call_capitalize]
    refine call_twin w name (fun _ => rfl) ?_ (.of_literals ?_)
    all_goals rw [List.forall₂_map_left_iff, List.forall₂_map_right_iff, List.forall₂_same]
    · exact fun a ha => ⟨hkin a, ih a ha⟩
    · exact fun a _ => ⟨Expr.asText?_relabel Builtin.capitals a, hnumber a⟩

end Sql

/-! Checking. -/

/-- The types of an expression's nodes, in the shape of the expression. -/
inductive TypeTree
  | node (type : DataType) (parts : List TypeTree)

namespace Typed

mutual

def types : Typed → TypeTree
  | node _ type parts => .node type (typesAll parts)

def typesAll : List Typed → List TypeTree
  | [] => []
  | t :: ts => types t :: typesAll ts

end

/-- Typed expressions that no check tells apart. -/
structure Peer (schema : Option Schema) (t t' : Typed) : Prop where
  view : t.view = t'.view
  types : t.types = t'.types
  findings : ∀ readers, Check.walk readers schema t = Check.walk readers schema t'

structure AllPeers (schema : Option Schema) (ts ts' : List Typed) : Prop where
  views : ts.map Typed.view = ts'.map Typed.view
  types : typesAll ts = typesAll ts'
  findings : ∀ readers, Check.walkAll readers schema ts = Check.walkAll readers schema ts'

variable {schema : Option Schema}

theorem Peer.cons {t t' : Typed} {ts ts' : List Typed} (h : t.Peer schema t') (hs : AllPeers schema ts ts') :
    AllPeers schema (t :: ts) (t' :: ts') where
  views := by rw [List.map_cons, List.map_cons, h.view, hs.views]
  types := by rw [typesAll, typesAll, h.types, hs.types]
  findings readers := by rw [Check.walkAll, Check.walkAll, h.findings, hs.findings]

theorem AllPeers.type_eq {ts ts' : List Typed} (hs : AllPeers schema ts ts') :
    ts.map Typed.type = ts'.map Typed.type :=
  Check.types_eq_of_views hs.views

/-- Nodes of one type with alike parts are alike if their surroundings see the same in them and the same is found at
both. -/
theorem AllPeers.node {e e' : Expr} {type type' : DataType} {ts ts' : List Typed} (hs : AllPeers schema ts ts')
    (htype : type = type') (hnumber : e.asNumber? = e'.asNumber?) (htext : e.asText? = e'.asText?)
    (hnode : ∀ readers, Check.node readers schema e type ts = Check.node readers schema e' type' ts') :
    (node e type ts).Peer schema (node e' type' ts') where
  view := by simp only [view, Typed.type, Typed.expr, htype, hnumber, htext]
  types := by rw [Typed.types, Typed.types, htype, hs.types]
  findings readers := by rw [Check.walk, Check.walk, hnode, hs.findings]

end Typed

theorem Check.call_capitalize (readers : Readers) (name : Option String) (args : List Typed) :
    call readers name args = call readers (name.map Builtin.capitalize) args := by
  cases name with
  | none => rfl
  | some n =>
    rw [Option.map_some]
    cases hf : Builtin.lookup n with
    | none => rw [Builtin.capitalize_of_lookup hf]
    | some f => rw [call_of_lookup hf, call_of_lookup ((Builtin.lookup_capitalize n).trans hf)]

namespace Typed

variable {schema : Option Schema}

theorem buildArgs_peer {args : List Expr}
    (ih : ∀ a ∈ args, ∀ expected, (build schema expected a).Peer schema (build schema expected a.capitalized))
    (expected : Nat → Option DataType) (i : Nat) : AllPeers schema (buildArgs schema expected i args)
      (buildArgs schema expected i (args.map Expr.capitalized)) := by
  induction args generalizing i with
  | nil => exact ⟨rfl, rfl, fun _ => rfl⟩
  | cons a args ihs =>
    rw [List.forall_mem_cons] at ih
    exact (ih.1 _).cons (ihs ih.2 (i + 1))

theorem build_capitalized (expected : Option DataType) (e : Expr) :
    (build schema expected e).Peer schema (build schema expected e.capitalized) := by
  have hnone : AllPeers schema [] [] := ⟨rfl, rfl, fun _ => rfl⟩
  have hnumber (e : Expr) : e.asNumber? = e.capitalized.asNumber? := (Expr.asNumber?_relabel Builtin.capitals e).symm
  induction e using Expr.induct generalizing expected with
  | literal v => exact ⟨rfl, rfl, fun _ => rfl⟩
  | column n => exact ⟨rfl, rfl, fun _ => rfl⟩
  | unsupported k => exact ⟨rfl, rfl, fun _ => rfl⟩
  | unary op e ih =>
    have hpart := ih none
    refine (hpart.cons hnone).node rfl (hnumber _) rfl fun readers => ?_
    exact congrArg (Check.unary op) (congrArg Prod.fst hpart.view)
  | binary op l r ihl ihr =>
    have hl := ihl none
    have hr := ihr none
    have hltype : (build schema none l).type = (build schema none l.capitalized).type := congrArg Prod.fst hl.view
    have hrtype : (build schema none r).type = (build schema none r.capitalized).type := congrArg Prod.fst hr.view
    refine (hl.cons (hr.cons hnone)).node (congrArg₂ (operationType op) hltype hrtype) (hnumber _) rfl
      fun readers => ?_
    exact congrArg₂ (· ++ ·) (Check.operandValues_eq_of_views hl.view hr.view op)
      (congrArg₂ (Check.operandTypes op) hltype hrtype)
  | call name args ih =>
    have hlookup : (name.map Builtin.capitalize).bind Builtin.lookup = name.bind Builtin.lookup := by
      cases name <;> simp [Builtin.lookup_capitalize]
    have hargs (expected : Nat → Option DataType) := buildArgs_peer ih expected 0
    rw [Expr.capitalized_call, build, build, hlookup]
    refine (hargs _).node ?_ rfl rfl fun readers => ?_
    · split
      · rw [(hargs _).type_eq]
      · rfl
    · exact (Check.call_eq_of_views (hargs _).views readers name).trans (Check.call_capitalize readers name _)

end Typed

/-! Summing up. -/

namespace Summary

theorem walkAll_capitalized {args : List Expr} (ih : ∀ a ∈ args, ∀ s : Summary, s.walk a = s.walk a.capitalized)
    (s : Summary) : s.walkAll args = s.walkAll (args.map Expr.capitalized) := by
  induction args generalizing s with
  | nil => rfl
  | cons a args ihs =>
    rw [List.forall_mem_cons] at ih
    simp only [List.map_cons, walkAll, ih.1, ihs ih.2]

theorem walk_capitalized (s : Summary) (e : Expr) : s.walk e = s.walk e.capitalized := by
  induction e using Expr.induct generalizing s with
  | literal v => rfl
  | column n => rfl
  | unsupported k => rfl
  | unary op e ih =>
    have hnode : (Expr.unary op e).capitalized = .unary op e.capitalized := rfl
    simp only [hnode, walk, ih]
  | binary op l r ihl ihr =>
    have hnode : (Expr.binary op l r).capitalized = .binary op l.capitalized r.capitalized := rfl
    simp only [hnode, walk, ihl, ihr]
  | call name args ih =>
    cases name with
    | none => simp only [Expr.capitalized_call, Option.map_none, walk, walkAll_capitalized ih]
    | some n =>
      simp only [Expr.capitalized_call, Option.map_some, walk, Builtin.upper_capitalize, walkAll_capitalized ih]

end Summary

namespace Expr

theorem operand_capitalized (d : Dialect) (names : Naming) (e : Expr) :
    (e.operand d names).Twin True Eq (e.capitalized.operand d names) := by
  have hcanonical : e.capitalized.canonical = e.canonical.capitalized := canonical_relabel Builtin.capitals e
  rw [operand, operand, hcanonical]
  exact ⟨kin_relabel Builtin.capitals e.canonical, Sql.write_capitalized d names e.canonical⟩

theorem compile_capitalized (d : Dialect) (names : Naming) (e : Expr) :
    e.compile d names = e.capitalized.compile d names := by
  rw [compile, compile, ((operand_capitalized d names e).value (Sql.weaving_eq d True)).eq]

theorem compileCondition_capitalized (d : Dialect) (names : Naming) (e : Expr) :
    e.compileCondition d names = e.capitalized.compileCondition d names := by
  rw [compileCondition, compileCondition, ((operand_capitalized d names e).condition (Sql.weaving_eq d True)).eq]

theorem diagnostics_capitalized (readers : Readers) (schema : Option Schema) (span : Span) (e : Expr) :
    e.diagnostics readers schema span = e.capitalized.diagnostics readers schema span := by
  have hfindings : e.findings readers schema = e.capitalized.findings readers schema :=
    (Typed.build_capitalized none e).findings readers
  rw [diagnostics, diagnostics, hfindings]

theorem types_capitalized (schema : Option Schema) (e : Expr) :
    (Typed.of schema e).types = (Typed.of schema e.capitalized).types :=
  (Typed.build_capitalized none e).types

/-- The case of letters in the name of a registered function makes no difference. Expressions that are the same once
such names are in capital letters have the same diagnostics, the same types node by node, the same SQL as a value and
as a condition in every dialect, with the same bindings and notices, and the same summary. -/
theorem letter_case_ignored {e e' : Expr} (h : e.capitalized = e'.capitalized) :
    (∀ readers schema span, e.diagnostics readers schema span = e'.diagnostics readers schema span) ∧
    (∀ schema, (Typed.of schema e).types = (Typed.of schema e').types) ∧
    (∀ d names, e.compile d names = e'.compile d names ∧
      e.compileCondition d names = e'.compileCondition d names ∧
      e.compileStrict d names = e'.compileStrict d names) ∧
    e.summary = e'.summary := by
  have hcompile (d : Dialect) (names : Naming) : e.compile d names = e'.compile d names := by
    rw [compile_capitalized, h, ← compile_capitalized]
  refine ⟨fun readers schema span => ?_, fun schema => ?_, fun d names => ⟨hcompile d names, ?_, ?_⟩, ?_⟩
  · rw [diagnostics_capitalized, h, ← diagnostics_capitalized]
  · rw [types_capitalized, h, ← types_capitalized]
  · rw [compileCondition_capitalized, h, ← compileCondition_capitalized]
  · rw [compileStrict, compileStrict, hcompile]
  · rw [summary, summary, Summary.walk_capitalized, h, ← Summary.walk_capitalized]

theorem letter_case_ignored_nested :
    (call (some "Avg") [call (some "sum") [column "a", column "b"], call (some "nope") []]).capitalized =
      (call (some "aVG") [call (some "SUM") [column "a", column "b"], call (some "nope") []]).capitalized ∧
    (call (some "Avg") [call (some "sum") [column "a", column "b"], call (some "nope") []]).compile .sqlite .default =
      (call (some "aVG") [call (some "SUM") [column "a", column "b"], call (some "nope") []]).compile .sqlite
        .default := by
  have havg : Builtin.capitalize "Avg" = "AVG" ∧ Builtin.capitalize "aVG" = "AVG" := by decide
  have hsum : Builtin.capitalize "sum" = "SUM" ∧ Builtin.capitalize "SUM" = "SUM" := by decide
  have hsame : (call (some "Avg") [call (some "sum") [column "a", column "b"], call (some "nope") []]).capitalized =
      (call (some "aVG") [call (some "SUM") [column "a", column "b"], call (some "nope") []]).capitalized := by
    simp [capitalized_call, havg, hsum]
  exact ⟨hsame, ((letter_case_ignored hsame).2.2.1 .sqlite .default).1⟩

end Expr

end SheetQuery
