import SheetQuery.Proofs.WovenCalls
import SheetQuery.Proofs.Writing

/-! The parts of an expression that its SQL shows. A part shows if other SQL in its place would change the SQL of the
node above it. What a part gives notice of is lost only where the part does not show: SQL that comes without notices
shows no part that comes with any. -/

namespace SheetQuery

namespace Sql

def assemble (d : Dialect) (names : Naming) (e : Expr) (parts : List (Noted Fragment)) : Noted Fragment :=
  match e, parts with
  | .binary op l r, [m, m'] => binary d op ⟨l, m⟩ ⟨r, m'⟩
  | .unary op x, [m] => unary d op ⟨x, m⟩
  | .call name args, ms => call d names name (List.zipWith Operand.mk args ms)
  | e, _ => write d names e

/-- Whether other SQL in the place of a part would change that of the node. -/
def ShowsPart (d : Dialect) (names : Naming) (e : Expr) (i : Nat) : Prop :=
  ∃ f : Fragment,
    (assemble d names e ((e.children.map (write d names)).modify i fun m => { m with result := f })).result ≠
      (write d names e).result

/-- A part, however deep, that shows in the SQL of the whole. -/
inductive Contributes (d : Dialect) (names : Naming) (c : Expr) : Expr → Prop
  | whole : Contributes d names c c
  | part {e p : Expr} {i : Nat} (child : e.children[i]? = some p) (shows : ShowsPart d names e i)
      (inner : Contributes d names c p) : Contributes d names c e

variable {d : Dialect} {names : Naming} {e : Expr}

theorem write_eq_assemble (e : Expr) : write d names e = assemble d names e (e.children.map (write d names)) := by
  cases e with
  | call name args =>
    have hoperands : operands d names args = List.zipWith Operand.mk args (args.map (write d names)) := by
      rw [operands_eq_map, List.zipWith_map_right, List.zipWith_self]
    rw [write, hoperands]
    rfl
  | _ => simp [assemble, Expr.children, write]

section
variable {ms ms' : List (Noted Fragment)}

theorem forall₂_operands (es : List Expr) (h : List.Forall₂ (Noted.Twin False Eq) ms ms') :
    List.Forall₂ (fun x x' => x.expr = x'.expr ∧ x.sql.Twin False Eq x'.sql) (List.zipWith Operand.mk es ms)
      (List.zipWith Operand.mk es ms') := by
  induction h generalizing es with
  | nil => simp
  | cons hm _ ih =>
    cases es with
    | nil => exact .nil
    | cons e es => exact .cons ⟨rfl, hm⟩ (ih es)

theorem assemble_twin (e : Expr) (h : List.Forall₂ (Noted.Twin False Eq) ms ms') :
    (assemble d names e ms).Twin False Eq (assemble d names e ms') := by
  have w := weaving_eq d False
  have hsame (m : Noted Fragment) : m.Twin False Eq m := .refl (fun _ => rfl) m
  cases e with
  | binary op l r =>
    rcases h with _ | ⟨hl, _ | ⟨hr, _ | ⟨_, _⟩⟩⟩
    case cons.cons.nil => exact binary_twin w ⟨.refl l, hl⟩ op ⟨.refl r, hr⟩
    all_goals exact hsame _
  | unary op x =>
    rcases h with _ | ⟨hx, _ | ⟨_, _⟩⟩
    case cons.nil => exact unary_twin w ⟨.refl x, hx⟩ op (w.negated rfl)
    all_goals exact hsame _
  | call name args =>
    have hargs := forall₂_operands args h
    refine call_twin w name (fun _ => rfl) (hargs.imp fun x x' hx => ⟨hx.1 ▸ .refl _, hx.2⟩) (.of_literals ?_)
    exact hargs.imp fun x x' hx => ⟨by rw [hx.1], by rw [hx.1]⟩
  | _ => exact hsame _

/-- Where a result comes with notices, its SQL has no say in results without any. -/
theorem modify_twin {i : Nat} (h : ∀ m ∈ ms[i]?, m.notices ≠ []) (f : Fragment) :
    List.Forall₂ (Noted.Twin False Eq) ms (ms.modify i fun m => { m with result := f }) := by
  induction ms generalizing i with
  | nil => simp
  | cons m ms ih =>
    cases i with
    | zero =>
      have hm : m.notices ≠ [] := h m rfl
      exact .cons ⟨Iff.rfl, nofun, fun hq => absurd (hq.resolve_right id) hm⟩
        (List.forall₂_same.2 fun m _ => .refl (fun _ => rfl) m)
    | succ i => exact .cons (.refl (fun _ => rfl) m) (ih fun m hm => h m (by simpa using hm))

end

/-- A part that shows in SQL without notices has none. -/
theorem ShowsPart.quiet {p : Expr} {i : Nat} (h : ShowsPart d names e i) (hp : e.children[i]? = some p)
    (hq : (write d names e).notices = []) : (write d names p).notices = [] := by
  obtain ⟨f, hf⟩ := h
  by_contra hloud
  have hpart : ∀ m ∈ (e.children.map (write d names))[i]?, m.notices ≠ [] := by
    rw [List.getElem?_map, hp]
    rintro _ ⟨⟩
    exact hloud
  have htwin : (assemble d names e _).Twin False Eq _ := assemble_twin e (modify_twin hpart f)
  rw [← write_eq_assemble] at htwin
  exact hf (htwin.result (.inl hq)).symm

/-- Along a path of parts that show no notice is lost. -/
theorem Contributes.quiet {c : Expr} (h : Contributes d names c e) (hq : (write d names e).notices = []) :
    (write d names c).notices = [] := by
  induction h with
  | whole => exact hq
  | part child shows _ ih => exact ih (shows.quiet child hq)

end Sql

end SheetQuery
