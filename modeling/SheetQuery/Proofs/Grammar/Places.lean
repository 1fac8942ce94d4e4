import SheetQuery.Proofs.Grammar

/-! Operands as the grammar sees them. Where notices are not tolerated, nothing is said of the SQL of an
operand that gives one; all else is a value or a predicate as it says, and every place an operand can be put in
makes of it what stands there. -/

namespace SheetQuery.Sql

def Quiet {α : Type} (q : Rules) (m : Noted α) : Prop := q.loud ∨ m.notices = []

section
variable {α β : Type} {q : Rules}

@[simp] theorem quiet_pure (a : α) : Quiet q (pure a) := .inr rfl

@[simp] theorem quiet_bind (m : Noted α) (k : α → Noted β) :
    Quiet q (m >>= k) ↔ Quiet q m ∧ Quiet q (k m.result) := by
  simp [Quiet, or_and_left]

@[simp] theorem quiet_map (k : α → β) (m : Noted α) : Quiet q (k <$> m) ↔ Quiet q m := by
  simp [Quiet]

@[simp] theorem quiet_all (ms : List (Noted α)) : Quiet q (.all ms) ↔ ∀ m ∈ ms, Quiet q m := by
  simp only [Quiet, Noted.notices_all, List.flatMap_eq_nil_iff]
  exact ⟨fun h m hm => h.imp_right fun h => h m hm, fun h => by by_cases hq : q.loud <;> simp_all⟩

@[simp] theorem quiet_notice (n : Notice) : Quiet q (Noted.notice n) ↔ q.loud := by
  simp [Quiet, Noted.notice]

end

/-- An operand whose SQL is of the sort that it says, unless it comes with notices that may not arise. -/
def Fits (d : Dialect) (q : Rules) (x : Operand) : Prop :=
  Quiet q x.sql → Writes d q (.of x.sql.result.isPredicate) x.sql.result

section
variable {d : Dialect} {q : Rules} {f h : Fragment} {x : Operand} {args : List Operand}

theorem Category.of_eq (p : Bool) : Category.of p = .value ∨ Category.of p = .predicate := by
  cases p <;> simp [Category.of]

namespace Writes

theorem asValue (hf : Writes d q (.of f.isPredicate) f) : Writes d q .value (asValue d f) := by
  obtain ⟨g, hs, hg⟩ := hf
  exact ⟨_, hs.toValue, hg.toValue⟩

theorem asCondition (hf : Writes d q (.of f.isPredicate) f) : Writes d q .predicate (asCondition d f) := by
  obtain ⟨g, hs, hg⟩ := hf
  exact ⟨_, hs.toCondition, hg.toCondition⟩

theorem groupIf {s : Category} (hs : s = .value ∨ s = .predicate) (b : Bool) (hf : Writes d q s f) :
    Writes d q s (groupIf b f) := by
  obtain ⟨g, hf, hg⟩ := hf
  exact ⟨_, hf.groupIf b, hg.groupIf hs b⟩

theorem shaped_groupIf (b : Bool) (hf : Writes d q (.of f.isPredicate) f) :
    Writes d q (.of (Sql.groupIf b f).isPredicate) (Sql.groupIf b f) := by
  have hp : (Sql.groupIf b f).isPredicate = f.isPredicate := by cases b <;> rfl
  rw [hp]
  exact hf.groupIf (Category.of_eq _) b

theorem binary (op : InfixOp) {s t : Category} {o : Fragment} (ho : o.text.toList = ' ' :: (op.text.toList ++ [' ']))
    (hb : o.bindings = []) (hop : ∀ l r, Derives d q s l → Derives d q s r → Derives d q t (.binary op l r))
    (hf : Writes d q s f) (hh : Writes d q s h) : Writes d q t (f ++ o ++ h) := by
  obtain ⟨l, hl, dl⟩ := hf
  obtain ⟨r, hr, dr⟩ := hh
  exact ⟨.binary op l r, .binary op ho hb hl hr, hop l r dl dr⟩

end Writes

namespace Fits

theorem null : Fits d q .null := fun _ => ⟨.keyword "NULL" (by decide), ⟨rfl, rfl⟩, .number "NULL" _ (by decide)⟩

theorem literal (v : Literal) : Fits d q (.literal v) := by
  cases v with
  | null => exact null
  | number n => exact fun _ => ⟨_, .bind (.number n), .placeholder _⟩
  | text s => exact fun _ => ⟨_, .bind (.text s), .placeholder _⟩
  | boolean b => exact fun _ => ⟨_, .bind (.boolean b), .placeholder _⟩

section
variable (hx : Fits d q x)
include hx

theorem value (hq : Quiet q (x.value d)) : Writes d q .value (x.value d).result :=
  (hx (by simpa [Operand.value] using hq)).asValue

theorem grouped (hq : Quiet q (x.grouped d)) : Writes d q .value (x.grouped d).result := by
  have hv := hx.value (by simpa [Operand.grouped] using hq)
  exact hv.groupIf (.inl rfl) (isOperation x.expr)

theorem condition (hq : Quiet q (x.condition d)) : Writes d q .predicate (x.condition d).result := by
  have hf := hx (by simpa [Operand.condition] using hq)
  exact (hf.shaped_groupIf _).asCondition

theorem groupedCondition (hq : Quiet q (x.groupedCondition d)) :
    Writes d q .predicate (x.groupedCondition d).result := by
  have hc := hx.condition (by simpa [Operand.groupedCondition] using hq)
  exact hc.groupIf (.inr rfl) _

theorem valueUnder {op : BinaryOp} {right : Bool} (hq : Quiet q (x.valueUnder d op right)) :
    Writes d q .value (x.valueUnder d op right).result := by
  have hf := hx (by simpa [Operand.valueUnder] using hq)
  exact (hf.shaped_groupIf _).asValue

theorem conditionUnder {op : BinaryOp} {right : Bool} (hq : Quiet q (x.conditionUnder d op right)) :
    Writes d q .predicate (x.conditionUnder d op right).result := by
  have hf := hx (by simpa [Operand.conditionUnder] using hq)
  exact (hf.shaped_groupIf _).asCondition

end

section
variable (hs : ∀ x ∈ args, Fits d q x)
include hs

theorem getD (i : Nat) : Fits d q (args.getD i .null) := by
  rw [List.getD_eq_getElem?_getD]
  cases h : args[i]? with
  | none => exact null
  | some x => exact hs x (List.mem_of_getElem? h)

theorem arg {i : Nat} (hq : Quiet q (arg d args i)) : Writes d q .value (arg d args i).result :=
  (getD hs i).value hq

theorem groupedArg {i : Nat} (hq : Quiet q (groupedArg d args i)) :
    Writes d q .value (groupedArg d args i).result :=
  (getD hs i).grouped hq

end

/-- The layouts of operands, each put in its place. -/
theorem layouts {s : Category} {put : Operand → Fragment} (h : ∀ x ∈ args, Writes d q s (put x)) :
    ∃ gs, List.Forall₂ (fun x g => Spells d (put x) g) args gs ∧ ∀ g ∈ gs, Derives d q s g := by
  induction args with
  | nil => exact ⟨[], .nil, nofun⟩
  | cons x xs ih =>
    obtain ⟨g, hx, hg⟩ := h x List.mem_cons_self
    obtain ⟨gs, hxs, hgs⟩ := ih fun y hy => h y (List.mem_cons_of_mem x hy)
    exact ⟨g :: gs, .cons hx hxs, List.forall_mem_cons.2 ⟨hg, hgs⟩⟩

theorem values (hs : ∀ x ∈ args, Fits d q x) (hq : Quiet q (values d args)) :
    ∃ gs, List.Forall₂ (fun x g => Spells d (x.value d).result g) args gs ∧ ∀ g ∈ gs, Derives d q .value g := by
  have hv : ∀ x ∈ args, Quiet q (x.value d) := by simpa [Sql.values] using hq
  exact layouts fun x hx => (hs x hx).value (hv x hx)

theorem nativeCall (w : Word) (hw : q.lax ∨ isFunction w.text = true) (hs : ∀ x ∈ args, Fits d q x)
    (hq : Quiet q (nativeCall d w.text args)) : Writes d q .value (nativeCall d w.text args).result := by
  obtain ⟨gs, hgs, hd⟩ := values hs (by simpa [Sql.nativeCall] using hq)
  exact ⟨_, .nativeCall hgs w, .call hw (.list hd)⟩

end Fits

end

end SheetQuery.Sql
