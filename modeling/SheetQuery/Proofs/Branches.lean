import Mathlib.Data.List.Induction
import SheetQuery.Proofs.CanonicalForm
import SheetQuery.Proofs.Findings
import SheetQuery.Proofs.OperandLaws

/-! The branches of a choice by value. SQL takes the arguments after the first two at a time, a case and its result;
the type of the choice is found from the positions of the results. Both pick the same arguments out as results, in the
same order, whatever the number of arguments. -/

namespace SheetQuery

/-- The branches of a choice by value: cases with their results, and perhaps a result for all else. -/
structure Arms (α : Type) where
  cases : List (α × α)
  otherwise : Option α
deriving DecidableEq, Repr

namespace Arms

variable {α β : Type}

/-- Takes the branches off a list two by two. -/
def ofList : List α → Arms α
  | [] => ⟨[], none⟩
  | [x] => ⟨[], some x⟩
  | case :: result :: rest => ⟨(case, result) :: (ofList rest).cases, (ofList rest).otherwise⟩

/-- The branches in the order in which they are given, each case right before its result. -/
def toList (arms : Arms α) : List α :=
  arms.cases.flatMap (fun (case, result) => [case, result]) ++ arms.otherwise.toList

def results (arms : Arms α) : List α := arms.cases.map Prod.snd ++ arms.otherwise.toList

def map (f : α → β) (arms : Arms α) : Arms β := ⟨arms.cases.map (Prod.map f f), arms.otherwise.map f⟩

def clauses (arms : Arms Fragment) : Fragment :=
  let last := match arms.otherwise with
    | some result => " ELSE " ++ result
    | none => .empty
  arms.cases.foldr (fun (case, result) more => " WHEN " ++ case ++ " THEN " ++ result ++ more) last

theorem toList_ofList (xs : List α) : (ofList xs).toList = xs := by
  induction xs using List.twoStepInduction with
  | nil => rfl
  | singleton x => rfl
  | cons_cons case result rest ih _ =>
    rw [toList] at ih
    simp [toList, ofList, ih]

theorem ofList_map (f : α → β) (xs : List α) : ofList (xs.map f) = (ofList xs).map f := by
  induction xs using List.twoStepInduction with
  | nil => rfl
  | singleton x => rfl
  | cons_cons case result rest ih _ => simp [ofList, ih, map]

theorem map_map {γ : Type} (f : α → β) (g : β → γ) (arms : Arms α) : (arms.map f).map g = arms.map (g ∘ f) := by
  simp [map]

theorem results_map (f : α → β) (arms : Arms α) : (arms.map f).results = arms.results.map f := by
  cases h : arms.otherwise <;> simp [results, map, h]

/-- The results stand at every second position. If the number of arguments is odd, the last one is left over and is
the result for all else. -/
theorem results_ofList (xs : List α) (i : Nat) (hi : i % 2 = 1) :
    (ofList xs).results = (xs.zipIdx i).filterMap (fun (x, j) => if j % 2 = 0 then some x else none) ++
      (if xs.length % 2 = 1 then xs.getLast?.toList else []) := by
  induction xs using List.twoStepInduction generalizing i with
  | nil => rfl
  | singleton x => simp [ofList, results, hi]
  | cons_cons case result rest ih _ =>
    have hnext : (i + 1) % 2 = 0 := by omega
    have hlength : (case :: result :: rest).length % 2 = rest.length % 2 := by
      simp only [List.length_cons]
      omega
    have hlast : rest.length % 2 = 1 → (case :: result :: rest).getLast? = rest.getLast? := by
      cases rest <;> simp
    have hrest := ih (i + 2) (by omega)
    rw [results] at hrest
    simp only [results, ofList, List.map_cons, List.cons_append, hrest, List.zipIdx_cons, List.filterMap_cons, hi,
      hnext, hlength]
    by_cases hodd : rest.length % 2 = 1 <;> simp [hodd, hlast]

end Arms

theorem switchResults_cons (t : DataType) (ts : List DataType) :
    switchResults (t :: ts) = (Arms.ofList ts).results := by
  have hlength : (1 < (t :: ts).length ∧ (t :: ts).length % 2 = 0) ↔ ts.length % 2 = 1 := by
    rw [List.length_cons]
    omega
  have hlast : ts.length % 2 = 1 → (t :: ts).getLast? = ts.getLast? := by
    cases ts <;> simp
  rw [Arms.results_ofList _ 1 rfl, switchResults]
  simp only [hlength, List.zipIdx_cons, List.drop_succ_cons, List.drop_zero]
  split
  case isTrue hodd => rw [hlast hodd]
  case isFalse => rw [List.append_nil]

/-- The types at the result positions are those of the results. -/
theorem switchResults_map {α : Type} (type : α → DataType) (args : List α) :
    switchResults (args.map type) = (Arms.ofList args.tail).results.map type := by
  cases args with
  | nil => rfl
  | cons subject rest =>
    rw [List.map_cons, switchResults_cons, Arms.ofList_map, Arms.results_map, List.tail_cons]

namespace Sql

variable {d : Dialect}

theorem result_branches (args : List Operand) :
    (branches d args).result = ((Arms.ofList args).map fun x => (x.value d).result).clauses := by
  induction args using branches.induct with
  | case1 => simp [branches, Arms.ofList, Arms.map, Arms.clauses]
  | case2 x => simp [branches, Arms.ofList, Arms.map, Arms.clauses]
  | case3 case result rest ih =>
    simp only [Arms.map, Arms.clauses] at ih
    simp [branches, ih, Arms.ofList, Arms.map, Arms.clauses]

end Sql

theorem Typed.map_expr_buildArgs (schema : Option Schema) (expected : Nat → Option DataType) (i : Nat)
    (es : List Expr) : (buildArgs schema expected i es).map expr = es := by
  induction es generalizing i with
  | nil => rfl
  | cons e es ih => simp [buildArgs, ih]

section
variable {name : String} (hname : Text.upper name = "SWITCH")
include hname

/-- A choice by value is written from its branches. -/
theorem sqlOf_switch (d : Dialect) (names : Naming) (es : List Expr) : Sql.sqlOf d names (.call (some name) es) =
    "CASE " ++ ((es.head?.map fun e => ((e.operand d names).value d).result).getD .null) ++
      ((Arms.ofList es.tail).map fun e => ((e.operand d names).value d).result).clauses ++ " END" := by
  have hbuiltin : Builtin.ofName? (Text.upper name) = some .switch := by rw [hname]; decide
  rw [Sql.sqlOf, Expr.sql_operand_builtin hbuiltin (by decide) rfl]
  simp only [Sql.switch, Noted.result_bind, Noted.result_pure, Sql.result_branches, List.drop_one, ← List.map_tail,
    Arms.ofList_map, Arms.map_map]
  cases es <;> rfl

/-- The type of a choice by value is found from the types of its results. -/
theorem type_switch (schema : Option Schema) (es : List Expr) :
    (Typed.of schema (.call (some name) es)).type =
      choiceType ((Arms.ofList (Typed.of schema (.call (some name) es)).children.tail).results.map Typed.type) := by
  have hlookup : Builtin.lookup name = some .switch := by rw [Builtin.lookup, hname]; decide
  rw [← switchResults_map]
  simp only [Typed.of, Typed.build, Option.bind_some, hlookup]
  rfl

/-- Whatever the types of the arguments, those written as results are those from whose types, as they are typed in the
call, the type of the choice is found. -/
theorem switch_results_agree (d : Dialect) (names : Naming) (args : List Typed) :
    let arms := Arms.ofList args.tail
    let value := fun x : Typed => ((x.expr.operand d names).value d).result
    Sql.sqlOf d names (.call (some name) (args.map Typed.expr)) =
      "CASE " ++ (args.head?.map value).getD .null ++ (arms.map value).clauses ++ " END" ∧
    arms.toList = args.tail ∧
    switchResults (args.map Typed.type) = arms.results.map Typed.type ∧
    ∀ schema, let typed := (Typed.of schema (.call (some name) (args.map Typed.expr))).children
      typed.map Typed.expr = args.map Typed.expr ∧
        (Typed.of schema (.call (some name) (args.map Typed.expr))).type =
          choiceType ((Arms.ofList typed.tail).results.map Typed.type) := by
  refine ⟨?_, Arms.toList_ofList _, switchResults_map _ _, fun schema => ⟨?_, type_switch hname schema _⟩⟩
  · rw [sqlOf_switch hname, ← List.map_tail, Arms.ofList_map, Arms.map_map, List.head?_map, Option.map_map]
    rfl
  · exact Typed.map_expr_buildArgs schema _ 0 _

end

/-- With four arguments the last is the result for all else. -/
theorem switch_results_agree_four : Text.upper "Switch" = "SWITCH" ∧
    switchResults [.numeric, .text, .date, .boolean] = [.date, .boolean] ∧
    (Arms.ofList ["one", "first", "other"]).results = ["first", "other"] ∧
    (Sql.sqlOf .sqlite .default
      (.call (some "Switch") [.column "n", .column "one", .column "first", .column "other"])).text =
      "CASE \"n\" WHEN \"one\" THEN \"first\" ELSE \"other\" END" := by
  have hname : Text.upper "Switch" = "SWITCH" := by decide
  have h := switch_results_agree hname .sqlite .default
    [.node (.column "n") .numeric [], .node (.column "one") .text [], .node (.column "first") .date [],
      .node (.column "other") .boolean []]
  exact ⟨hname, h.2.2.1, by decide, (congrArg Fragment.text h.1).trans (by decide)⟩

end SheetQuery
