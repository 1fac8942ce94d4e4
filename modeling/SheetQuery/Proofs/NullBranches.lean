import Mathlib.Tactic.ByContra
import Mathlib.Tactic.SplitIfs
import SheetQuery.Typing

/-! NULL among the branches of a choice. The type of IF and of SWITCH is found from the types of the branches that are
not NULL, as long as a rule gives them a type. Where none does, the first branch decides, and that may be a NULL: then
the choice has the type NULL, whatever the others are. -/

namespace SheetQuery

/-- The type of a choice between branches of this type, if there is a rule for it. -/
def DataType.choice? : DataType → Option DataType
  | text => some text
  | numeric => some numeric
  | boolean | logical => some boolean
  | date => some date
  | condition | interval | array | null | unknown => none

def withoutNulls (branches : List DataType) : List DataType := branches.filter (· ≠ .null)

def ruledType (types : List DataType) : Option DataType :=
  let seen := types.eraseDups
  if 1 < seen.length ∨ .text ∈ seen then some .text
  else if .numeric ∈ seen then some .numeric
  else if seen.any DataType.isBoolean then some .boolean
  else if .date ∈ seen then some .date
  else none

/-- NULL comes first, and no rule gives a type to what follows. -/
structure NullLeads (branches : List DataType) : Prop where
  first : branches.head? = some .null
  unruled : ∃ t : DataType, t.choice? = none ∧ ∀ u ∈ withoutNulls branches, u = t

variable {types branches : List DataType} {t u : DataType}

theorem choiceType_eq (branches : List DataType) :
    choiceType branches = (ruledType (withoutNulls branches)).getD (branches.head?.getD .unknown) := by
  unfold choiceType ruledType withoutNulls
  generalize (branches.filter (· ≠ .null)).eraseDups = seen
  dsimp only
  split_ifs <;> rfl

@[simp]
theorem withoutNulls_withoutNulls (branches : List DataType) :
    withoutNulls (withoutNulls branches) = withoutNulls branches := by
  simp [withoutNulls]

theorem ruledType_of_uniform (hne : types ≠ []) (h : ∀ u ∈ types, u = t) : ruledType types = t.choice? := by
  obtain ⟨u, us, rfl⟩ := List.exists_cons_of_ne_nil hne
  rw [List.forall_mem_cons] at h
  obtain ⟨rfl, hus⟩ := h
  have hseen : (u :: us).eraseDups = [u] := by
    rw [List.eraseDups_cons, List.filter_eq_nil_iff.2 (by simpa using hus)]
    rfl
  rw [ruledType, hseen]
  cases u <;> rfl

theorem ruledType_of_mixed (ht : t ∈ types) (hu : u ∈ types) (hne : t ≠ u) : ruledType types = some .text := by
  have hlength : 1 < types.eraseDups.length := by
    by_contra hle
    obtain ⟨x, hx⟩ : ∃ x, ∀ y ∈ types.eraseDups, y = x := by
      match types.eraseDups, Nat.not_lt.1 hle with
      | [], _ => exact ⟨t, by simp⟩
      | [x], _ => exact ⟨x, by simp⟩
    exact hne ((hx t (List.mem_eraseDups.2 ht)).trans (hx u (List.mem_eraseDups.2 hu)).symm)
  exact if_pos (.inl hlength)

theorem ruledType_eq_none_iff (hne : types ≠ []) :
    ruledType types = none ↔ ∃ t : DataType, t.choice? = none ∧ ∀ u ∈ types, u = t := by
  constructor
  · intro hnone
    obtain ⟨t, ht⟩ := List.exists_mem_of_ne_nil types hne
    have huniform : ∀ u ∈ types, u = t := by
      intro u hu
      by_contra hut
      rw [ruledType_of_mixed hu ht hut] at hnone
      cases hnone
    exact ⟨t, by rw [← ruledType_of_uniform hne huniform, hnone], huniform⟩
  · rintro ⟨t, hchoice, huniform⟩
    rw [ruledType_of_uniform hne huniform, hchoice]

/-- Where the rules fail, the type is that of the first branch, NULL or not. -/
theorem choiceType_of_unruled (h : ruledType (withoutNulls branches) = none) :
    choiceType branches = branches.head?.getD .unknown := by
  rw [choiceType_eq, h, Option.getD_none]

theorem head?_withoutNulls (h : branches.head? ≠ some .null) : (withoutNulls branches).head? = branches.head? := by
  cases branches with
  | nil => rfl
  | cons t ts =>
    have ht : t ≠ .null := by simpa using h
    simp [withoutNulls, ht]

theorem choiceType_of_nullLeads (hne : withoutNulls branches ≠ []) (h : NullLeads branches) :
    choiceType branches = .null := by
  rw [choiceType_of_unruled ((ruledType_eq_none_iff hne).2 h.unruled), h.first, Option.getD_some]

/-- Unless NULL leads, the branches that are NULL do not count. -/
theorem choiceType_withoutNulls (hne : withoutNulls branches ≠ []) (h : ¬ NullLeads branches) :
    choiceType (withoutNulls branches) = choiceType branches := by
  rw [choiceType_eq, choiceType_eq branches, withoutNulls_withoutNulls]
  cases hruled : ruledType (withoutNulls branches) with
  | some t => rfl
  | none =>
    have hfirst : branches.head? ≠ some .null := fun hnull => h ⟨hnull, (ruledType_eq_none_iff hne).1 hruled⟩
    rw [head?_withoutNulls hfirst]

theorem choiceType_withoutNulls_ne_null (hne : withoutNulls branches ≠ []) :
    choiceType (withoutNulls branches) ≠ .null := by
  rw [choiceType_eq, withoutNulls_withoutNulls]
  cases hruled : ruledType (withoutNulls branches) with
  | some t =>
    rw [Option.getD_some]
    simp only [ruledType] at hruled
    split_ifs at hruled <;> cases hruled <;> decide
  | none =>
    obtain ⟨t, ht⟩ := Option.ne_none_iff_exists'.1 (mt List.head?_eq_none_iff.1 hne)
    have hmem : t ∈ withoutNulls branches := List.mem_of_head? ht
    rw [ht, Option.getD_none, Option.getD_some]
    simpa using (List.mem_filter.1 hmem).2

def Builtin.branchTypes : Builtin → List DataType → List DataType
  | .ifElse, args => args.drop 1
  | .switch, args => switchResults args
  | _, _ => []

theorem typeOf_branches {f : Builtin} (hf : f = .ifElse ∨ f = .switch) (args : List DataType) :
    f.signature.returns.typeOf args = choiceType (f.branchTypes args) := by
  rcases hf with rfl | rfl <;> rfl

/-- NULL branches and the type of IF and SWITCH. Where a branch is not NULL, taking the NULL branches out leaves the
type as it is exactly if NULL does not lead; where it leads, the type is NULL. Otherwise NULL branches may be put in,
taken out and moved without an effect on the type. -/
theorem null_branches_count_iff {f : Builtin} (hf : f = .ifElse ∨ f = .switch) {args : List DataType}
    (hne : ∃ t ∈ f.branchTypes args, t ≠ .null) :
    (∀ args', f.branchTypes args' = withoutNulls (f.branchTypes args) →
      (f.signature.returns.typeOf args' = f.signature.returns.typeOf args ↔ ¬ NullLeads (f.branchTypes args))) ∧
    (NullLeads (f.branchTypes args) → f.signature.returns.typeOf args = .null) ∧
    ∀ args', withoutNulls (f.branchTypes args') = withoutNulls (f.branchTypes args) →
      ¬ NullLeads (f.branchTypes args) → ¬ NullLeads (f.branchTypes args') →
        f.signature.returns.typeOf args' = f.signature.returns.typeOf args := by
  have hfilled : withoutNulls (f.branchTypes args) ≠ [] := by
    obtain ⟨t, ht, hnull⟩ := hne
    exact List.ne_nil_of_mem (List.mem_filter.2 ⟨ht, by simpa using hnull⟩)
  refine ⟨fun args' hargs => ?_, fun hleads => ?_, fun args' hargs hleads hleads' => ?_⟩
  · rw [typeOf_branches hf, typeOf_branches hf, hargs]
    refine ⟨fun heq hleads => ?_, choiceType_withoutNulls hfilled⟩
    rw [choiceType_of_nullLeads hfilled hleads] at heq
    exact choiceType_withoutNulls_ne_null hfilled heq
  · rw [typeOf_branches hf, choiceType_of_nullLeads hfilled hleads]
  · rw [typeOf_branches hf, typeOf_branches hf, ← choiceType_withoutNulls hfilled hleads, ← hargs,
      choiceType_withoutNulls (by rwa [hargs]) hleads']

/-- A SWITCH whose first result and default are NULL has the type of the result between them. -/
theorem null_branches_count_switch :
    let f := Builtin.switch
    f.branchTypes [.text, .text, .null, .text, .date, .null] = [.null, .date, .null] ∧
    f.branchTypes [.text, .text, .date] = [.date] ∧
    f.signature.returns.typeOf [.text, .text, .date] =
      f.signature.returns.typeOf [.text, .text, .null, .text, .date, .null] := by
  intro f
  have hnone : ¬ NullLeads (f.branchTypes [.text, .text, .null, .text, .date, .null]) := by
    rintro ⟨-, t, ht, huniform⟩
    obtain rfl : .date = t := huniform .date (by decide)
    cases ht
  have hdate : ∃ t ∈ f.branchTypes [.text, .text, .null, .text, .date, .null], t ≠ .null :=
    ⟨.date, by decide, by decide⟩
  exact ⟨rfl, rfl, ((null_branches_count_iff (.inr rfl) hdate).1 [.text, .text, .date] rfl).2 hnone⟩

/-- A condition beside NULL has its own type as the first branch, and the type NULL as the second. -/
theorem null_first_hides_condition :
    let compared : Expr := .binary .gt (.column "a") (.column "b")
    let typeOf (branches : List Expr) : DataType :=
      (Typed.of none (.call (some "IF") (.column "flag" :: branches))).type
    typeOf [.null, compared] = .null ∧ typeOf [compared] = .condition ∧ typeOf [compared, .null] = .condition ∧
      Builtin.ifElse.signature.returns.typeOf [.boolean, .null, .condition] ≠
        Builtin.ifElse.signature.returns.typeOf (.boolean :: withoutNulls [.null, .condition]) := by
  decide

end SheetQuery
