import SheetQuery.Expr.Tree
import SheetQuery.Proofs.Notices

/-! What is found in an expression, part by part. The surroundings of a part see its type and, of a literal, what
it denotes; nothing else of the part has a say in what is found around it, and nothing around it has a say in what
is found in it. Only a text literal is typed by its place. -/

namespace SheetQuery

namespace Typed

def view (t : Typed) : DataType × Option Number × Option String := (t.type, t.expr.asNumber?, t.expr.asText?)

@[simp] theorem expr_build (schema : Option Schema) (expected : Option DataType) (e : Expr) :
    (build schema expected e).expr = e := by
  cases e <;> rfl

/-- Only the type of a text literal depends on what is asked for. -/
theorem build_eq_of {schema : Option Schema} {e : Expr} (he : e.asText? = none) (expected : Option DataType) :
    build schema expected e = of schema e := by
  cases e with
  | literal v =>
    cases v with
    | text s => cases he
    | _ => rfl
  | _ => rfl

theorem buildArgs_append (schema : Option Schema) (expected : Nat → Option DataType) (i : Nat) (as bs : List Expr) :
    buildArgs schema expected i (as ++ bs) =
      buildArgs schema expected i as ++ buildArgs schema expected (i + as.length) bs := by
  induction as generalizing i with
  | nil => rfl
  | cons a as ih =>
    have hlen : i + 1 + as.length = i + (a :: as).length := by simp; omega
    rw [List.cons_append, buildArgs, buildArgs, ih, hlen, List.cons_append]

end Typed

namespace Check

open Typed

theorem operandValues_eq_of_views {l l' r r' : Typed} (hl : l.view = l'.view) (hr : r.view = r'.view)
    (op : BinaryOp) : operandValues op l r = operandValues op l' r' := by
  have hnumber : r.expr.asNumber? = r'.expr.asNumber? := congrArg (fun v => v.2.1) hr
  have hltype : l.type = l'.type := congrArg Prod.fst hl
  have hrtype : r.type = r'.type := congrArg Prod.fst hr
  cases op <;> simp only [operandValues, hnumber, hltype, hrtype]

section
variable {args args' : List Typed} (h : args.map view = args'.map view)
include h

theorem types_eq_of_views : args.map Typed.type = args'.map Typed.type := by
  simpa [Function.comp_def, view] using congrArg (List.map Prod.fst) h

theorem length_eq_of_views : args.length = args'.length := by
  simpa using congrArg List.length h

theorem typeAt_eq_of_views : typeAt args = typeAt args' := by
  funext i
  simpa [typeAt] using congrArg (·[i]?) (types_eq_of_views h)

theorem view_getElem?_eq (i : Nat) : args[i]?.map view = args'[i]?.map view := by
  simpa using congrArg (·[i]?) h

theorem numberAt_eq_of_views : numberAt args = numberAt args' := by
  funext i
  have hi := congrArg (Option.bind · fun v => v.2.1) (view_getElem?_eq h i)
  simpa [numberAt, Option.bind_map, Function.comp_def, view] using hi

theorem textAt_eq_of_views : textAt args = textAt args' := by
  funext i
  have hi := congrArg (Option.bind · fun v => v.2.2) (view_getElem?_eq h i)
  simpa [textAt, Option.bind_map, Function.comp_def, view] using hi

theorem numberIs_eq_of_views : numberIs args = numberIs args' := by
  funext i p
  rw [numberIs, numberAt_eq_of_views h, numberIs]

/-- A test of every argument's type. -/
theorem flatMap_types_eq {α : Type} (k : DataType → List α) :
    args.flatMap (fun a => k a.type) = args'.flatMap fun a => k a.type := by
  rw [← List.flatMap_map Typed.type k, ← List.flatMap_map Typed.type k, types_eq_of_views h]

theorem arguments_eq_of_views (readers : Readers) (f : Builtin) :
    arguments readers f args = arguments readers f args' := by
  have hany : args.any (·.type = .null) = args'.any (·.type = .null) := by
    have hmap (ts : List Typed) : ts.any (·.type = .null) = (ts.map Typed.type).any (· = .null) := by
      rw [List.any_map]; rfl
    rw [hmap, hmap, types_eq_of_views h]
  cases f <;>
    simp only [arguments, ifElse, switch, repeatCount, logarithm, slice, textUnless, textFault, typeAt_eq_of_views h,
      numberAt_eq_of_views h, textAt_eq_of_views h, numberIs_eq_of_views h, types_eq_of_views h,
      length_eq_of_views h, hany]
  case and | or | xor => exact flatMap_types_eq h fun t => foundIf (!t.fitsCondition && !t.isQuiet) _

theorem argumentTypes_eq_of_views (f : Builtin) : argumentTypes f args = argumentTypes f args' := by
  have hindexed : args.zipIdx.flatMap (fun x => argumentType f x.2 x.1.type) =
      args'.zipIdx.flatMap fun x => argumentType f x.2 x.1.type := by
    have hmap (ts : List Typed) : ts.zipIdx.flatMap (fun x => argumentType f x.2 x.1.type) =
        (ts.map Typed.type).zipIdx.flatMap fun x => argumentType f x.2 x.1 := by
      rw [List.zipIdx_map, List.flatMap_map]
      rfl
    rw [hmap, hmap, types_eq_of_views h]
  unfold argumentTypes
  split
  all_goals first | rfl | exact hindexed

theorem call_eq_of_views (readers : Readers) (name : Option String) :
    call readers name args = call readers name args' := by
  unfold call
  split
  · rfl
  · rfl
  · split
    · rfl
    · rw [length_eq_of_views h, arguments_eq_of_views h, argumentTypes_eq_of_views h]

end

theorem call_of_lookup {n : String} {f : Builtin} (h : Builtin.lookup n = some f) (readers : Readers)
    (args : List Typed) :
    call readers (some n) args = ((f.signature.arityFault? args.length).map (.arity f)).toList ++
      arguments readers f args ++ argumentTypes f args := by
  unfold call
  split
  case h_1 hn => cases hn
  case h_2 hn =>
    have hempty : Builtin.lookup "" = none := by decide
    cases hn
    rw [hempty] at h
    cases h
  case h_3 hn =>
    cases hn
    rw [h]

end Check

namespace Expr

open Typed

/-- A node with one of its parts left out. -/
inductive Frame
  | left (op : BinaryOp) (r : Expr)
  | right (op : BinaryOp) (l : Expr)
  | operand (op : UnaryOp)
  | argument (name : Option String) (before after : List Expr)

def Frame.plug : Frame → Expr → Expr
  | .left op r, e => .binary op e r
  | .right op l, e => .binary op l e
  | .operand op, e => .unary op e
  | .argument name before after, e => .call name (before ++ e :: after)

/-- An expression with a part put in; the innermost node comes first. -/
def within (frames : List Frame) (e : Expr) : Expr := frames.foldl (fun e frame => frame.plug e) e

variable {schema : Option Schema} {e e' : Expr}

/-- The surroundings see no difference. -/
def LooksLike (schema : Option Schema) (e e' : Expr) : Prop := (Typed.of schema e).view = (Typed.of schema e').view

@[simp] theorem asText?_plug (frame : Frame) (e : Expr) : (frame.plug e).asText? = none := by
  cases frame <;> rfl

namespace LooksLike

variable (h : LooksLike schema e e')
include h

theorem type_eq : (Typed.of schema e).type = (Typed.of schema e').type := congrArg Prod.fst h

theorem asNumber?_eq : e.asNumber? = e'.asNumber? := by
  simpa [view, Typed.of] using congrArg (fun v => v.2.1) h

theorem asText?_eq : e.asText? = e'.asText? := by
  simpa [view, Typed.of] using congrArg (fun v => v.2.2) h

end LooksLike

def findingsHere (readers : Readers) (schema : Option Schema) (e : Expr) : List Finding :=
  Check.node readers schema e (Typed.of schema e).type (Typed.of schema e).children

/-- The node comes before its parts, and the parts come in their order. -/
theorem findings_eq (readers : Readers) (schema : Option Schema) (e : Expr) : e.findings readers schema =
    e.findingsHere readers schema ++ (Typed.of schema e).children.flatMap (Check.walk readers schema) := by
  rw [← Check.walkAll_eq_flatMap]
  cases e <;> rfl

theorem exists_children_plug (schema : Option Schema) (frame : Frame) : ∃ ts ts', ∀ e : Expr, e.asText? = none →
    (Typed.of schema (frame.plug e)).children = ts ++ Typed.of schema e :: ts' := by
  cases frame with
  | left op r => exact ⟨[], [.of schema r], fun e _ => rfl⟩
  | right op l => exact ⟨[.of schema l], [], fun e _ => rfl⟩
  | operand op => exact ⟨[], [], fun e _ => rfl⟩
  | argument name before after =>
    let expected i := ((name.bind Builtin.lookup).map Builtin.signature).bind (·.expected? i)
    refine ⟨buildArgs schema expected 0 before, buildArgs schema expected (0 + before.length + 1) after,
      fun e he => ?_⟩
    rw [Frame.plug, Typed.of, build, Typed.children, buildArgs_append, buildArgs, build_eq_of he]

section
variable (frame : Frame) (he : e.asText? = none) (h : LooksLike schema e e')
include he h

theorem views_plug : (Typed.of schema (frame.plug e)).children.map view =
    (Typed.of schema (frame.plug e')).children.map view := by
  obtain ⟨ts, ts', hchildren⟩ := exists_children_plug schema frame
  have hview : (Typed.of schema e).view = (Typed.of schema e').view := h
  rw [hchildren e he, hchildren e' (h.asText?_eq ▸ he), List.map_append, List.map_append, List.map_cons,
    List.map_cons, hview]

theorem findingsHere_plug (readers : Readers) :
    (frame.plug e).findingsHere readers schema = (frame.plug e').findingsHere readers schema := by
  cases frame with
  | left op r =>
    exact congrArg₂ (· ++ Check.operandTypes op · (Typed.of schema r).type)
      (Check.operandValues_eq_of_views h rfl op) h.type_eq
  | right op l =>
    exact congrArg₂ (· ++ Check.operandTypes op (Typed.of schema l).type ·)
      (Check.operandValues_eq_of_views rfl h op) h.type_eq
  | operand op => exact congrArg (Check.unary op) h.type_eq
  | argument name before after =>
    exact Check.call_eq_of_views (views_plug (.argument name before after) he h) readers name

theorem type_plug : (Typed.of schema (frame.plug e)).type = (Typed.of schema (frame.plug e')).type := by
  cases frame with
  | left op r => exact congrArg (operationType op · (Typed.of schema r).type) h.type_eq
  | right op l => exact congrArg (operationType op (Typed.of schema l).type) h.type_eq
  | operand op => rfl
  | argument name before after =>
    have htypes := Check.types_eq_of_views (views_plug (.argument name before after) he h)
    simp only [Frame.plug, Typed.of, build, Typed.children, Typed.type] at htypes ⊢
    rw [htypes]

theorem looksLike_plug : LooksLike schema (frame.plug e) (frame.plug e') := by
  have hnumber : (frame.plug e).asNumber? = (frame.plug e').asNumber? := by
    cases frame with
    | operand op => cases op <;> simp [Frame.plug, asNumber?, h.asNumber?_eq]
    | _ => rfl
  have htype : (Typed.of schema (frame.plug e)).type = (Typed.of schema (frame.plug e')).type := type_plug frame he h
  rw [LooksLike, view, view, htype, Typed.of, Typed.of, expr_build, expr_build, hnumber, asText?_plug, asText?_plug]

end

/-- One node around a part: what is found in the part stands as a block between what is found at the node and
before the part, and what is found after it. -/
theorem findings_plug (readers : Readers) (schema : Option Schema) (frame : Frame) (he : e.asText? = none) :
    ∃ before after, ∀ e', LooksLike schema e e' →
      (frame.plug e').findings readers schema = before ++ e'.findings readers schema ++ after ∧
        LooksLike schema (frame.plug e) (frame.plug e') := by
  obtain ⟨ts, ts', hchildren⟩ := exists_children_plug schema frame
  refine ⟨(frame.plug e).findingsHere readers schema ++ ts.flatMap (Check.walk readers schema),
    ts'.flatMap (Check.walk readers schema), fun e' h => ⟨?_, looksLike_plug frame he h⟩⟩
  rw [findings_eq, ← findingsHere_plug frame he h, hchildren e' (h.asText?_eq ▸ he), List.flatMap_append,
    List.flatMap_cons]
  simp only [findings, List.append_assoc]

/-- All nodes around a part, from the innermost on. -/
theorem findings_within (readers : Readers) (schema : Option Schema) (frames : List Frame) (he : e.asText? = none) :
    ∃ before after, ∀ e', LooksLike schema e e' →
      (within frames e').findings readers schema = before ++ e'.findings readers schema ++ after := by
  induction frames generalizing e with
  | nil => exact ⟨[], [], fun e' _ => by simp [within]⟩
  | cons frame frames ih =>
    obtain ⟨before, after, hstep⟩ := findings_plug readers schema frame he
    obtain ⟨before', after', hrest⟩ := ih (asText?_plug frame e)
    refine ⟨before' ++ before, after ++ after', fun e' h => ?_⟩
    obtain ⟨hfound, hlook⟩ := hstep e' h
    have hmore : (within (frame :: frames) e').findings readers schema =
        before' ++ (frame.plug e').findings readers schema ++ after' := hrest (frame.plug e') hlook
    rw [hmore, hfound]
    simp only [List.append_assoc]

theorem exists_diagnostics_within (frames : List Frame) (he : e.asText? = none) (readers : Readers)
    (schema : Option Schema) (span : Span) : ∃ before after, ∀ e', LooksLike schema e e' →
      (within frames e').diagnostics readers schema span = before ++ e'.diagnostics readers schema span ++ after := by
  obtain ⟨before, after, hblock⟩ := findings_within readers schema frames he
  refine ⟨before.map (⟨·, span⟩), after.map (⟨·, span⟩), fun e' h => ?_⟩
  rw [diagnostics, hblock e' h, List.map_append, List.map_append]
  rfl

/-- No diagnostic is hidden by its surroundings. The diagnostics of a part that is no text literal stand as one block
in those of the whole, and what stands around the block is the same for any other part of that type that denotes the
same number or none. -/
theorem diagnostics_within (frames : List Frame) {e : Expr} (he : e.asText? = none) (readers : Readers)
    (schema : Option Schema) (span : Span) : ∃ before after,
      (within frames e).diagnostics readers schema span = before ++ e.diagnostics readers schema span ++ after ∧
      ∀ e', LooksLike schema e e' →
        (within frames e').diagnostics readers schema span =
          before ++ e'.diagnostics readers schema span ++ after := by
  obtain ⟨before, after, hblock⟩ := exists_diagnostics_within frames he readers schema span
  exact ⟨before, after, hblock e rfl, hblock⟩

/-- A pattern that the reader refuses, in a call that is not understood. -/
theorem diagnostics_within_unknown_call :
    let readers : Readers := ⟨fun s => if s = "(" then some "unclosed group" else none, fun _ => none⟩
    let e := call (some "REGEX_MATCH") [column "a", text "("]
    e.diagnostics readers none ⟨0, 9⟩ = [⟨.invalidPattern "unclosed group", ⟨0, 9⟩⟩] ∧
    ∃ before after, (unary .minus (call (some "NOPE") [unsupported "Program", e])).diagnostics readers none ⟨0, 9⟩ =
      before ++ e.diagnostics readers none ⟨0, 9⟩ ++ after := by
  intro readers e
  obtain ⟨before, after, hblock, -⟩ := diagnostics_within
    [.argument (some "NOPE") [unsupported "Program"] [], .operand .minus]
    (e := e) rfl readers none ⟨0, 9⟩
  exact ⟨rfl, before, after, hblock⟩

/-- What is wrong with a node that no formula text has: a kind, a prefix operator or a call that is not
understood. -/
def fault? : Expr → Option Finding
  | .unsupported kind => some (.unsupported kind)
  | .call none _ | .call (some "") _ => some .invalidCall
  | .unary (.other s) _ => some (.unknownUnary s)
  | _ => none

/-- Whether the type of a prefix operator's operand is one that draws no diagnostics. -/
def hasQuietOperand (schema : Option Schema) : Expr → Bool
  | .unary _ e => (Typed.of schema e).type.isQuiet
  | _ => false

section
variable {f : Finding} (h : e.fault? = some f)
include h

theorem severity_of_fault? : f.severity = .error := by
  unfold fault? at h
  split at h <;> cases h <;> rfl

theorem findingsHere_of_fault? (readers : Readers) (schema : Option Schema) :
    e.findingsHere readers schema = if e.hasQuietOperand schema then [] else [f] := by
  unfold fault? at h
  split at h <;> cases h <;> rfl

/-- No signature asks for the types of a malformed node's parts. -/
theorem children_of_fault? (schema : Option Schema) :
    (Typed.of schema e).children = e.children.map (Typed.of schema) := by
  have hargs (i : Nat) (args : List Expr) : buildArgs schema (fun _ => none) i args = args.map (Typed.of schema) := by
    induction args generalizing i with
    | nil => rfl
    | cons a args ih => rw [buildArgs, ih, List.map_cons, Typed.of]
  unfold fault? at h
  split at h <;> cases h
  · rfl
  · exact hargs 0 _
  · exact hargs 0 _
  · rfl

end

/-- A malformed node of a tree given as JSON is reported by one error at the node, before what is found in its parts;
the exception is a prefix operator that is not understood over an operand whose type draws no diagnostics, at which
nothing is reported. -/
theorem malformed_reported {v : Json} {frames : List Frame} {e : Expr} {f : Finding}
    (hv : ofJson v = within frames e) (hf : e.fault? = some f) (readers : Readers) (schema : Option Schema)
    (span : Span) :
    f.severity = .error ∧
    e.diagnostics readers schema span = (if e.hasQuietOperand schema then [] else [⟨f, span⟩]) ++
      e.children.flatMap (·.diagnostics readers schema span) ∧
    ∃ before after,
      (ofJson v).diagnostics readers schema span = before ++ e.diagnostics readers schema span ++ after := by
  have hno : e.asText? = none := by
    unfold fault? at hf
    split at hf <;> cases hf <;> rfl
  refine ⟨severity_of_fault? hf, ?_, ?_⟩
  · rw [diagnostics, findings_eq, findingsHere_of_fault? hf, children_of_fault? hf, List.map_append,
      List.flatMap_map, List.map_flatMap]
    congr 1
    split <;> rfl
  · obtain ⟨before, after, hblock⟩ := exists_diagnostics_within frames hno readers schema span
    exact ⟨before, after, hv ▸ hblock e rfl⟩

/-- A tree with a prefix operator over a part. -/
def prefixTree (operator : String) (argument : Json) : Json :=
  .object [("type", .text "UnaryExpression"), ("operator", .text operator), ("argument", argument)]

theorem malformed_reported_over_boolean :
    let readers : Readers := ⟨fun _ => none, fun _ => none⟩
    ∃ before after, (ofJson (prefixTree "~" (.object [("type", .text "Literal"), ("value", .bool true)]))).diagnostics
      readers none ⟨0, 0⟩ = before ++ [⟨.unknownUnary "~", ⟨0, 0⟩⟩] ++ after := by
  intro readers
  have hv : ofJson (prefixTree "~" (.object [("type", .text "Literal"), ("value", .bool true)])) =
      within [] (.unary (.other "~") (.literal (.boolean true))) := rfl
  obtain ⟨-, hown, before, after, hall⟩ := malformed_reported hv rfl readers none ⟨0, 0⟩
  exact ⟨before, after, hown ▸ hall⟩

/-- The operand's type is not known, and a tree with an operator that is not understood passes without a
diagnostic, whatever the readers. -/
theorem malformed_passes_over_column :
    (ofJson (prefixTree "~" (.object [("type", .text "Identifier"), ("name", .text "a")]))).fault? =
      some (.unknownUnary "~") ∧
    ∀ readers, (ofJson (prefixTree "~" (.object [("type", .text "Identifier"), ("name", .text "a")]))).diagnostics
      readers none ⟨0, 0⟩ = [] := by
  exact ⟨rfl, fun _ => rfl⟩

end Expr

end SheetQuery
