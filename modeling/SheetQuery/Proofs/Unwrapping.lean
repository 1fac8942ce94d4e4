import SheetQuery.Proofs.CanonicalForm
import SheetQuery.Proofs.Terms

/-! SQL read back as an expression. The tree of a fragment is taken for the expression that it shows once
the wrappers of compilation are off: CASE and comparisons with 0 that turn predicates into values and back,
casts, the guards of concatenations, and parentheses. What every wrapper shows is what it is put around. -/

namespace SheetQuery

def Binding.toLiteral : Binding → Literal
  | number n => .number n
  | text s => .text s
  | boolean b => .boolean b

namespace Sql

inductive Reading
  | expr (e : Expr)
  /-- Several expressions with the concatenation operator between them. -/
  | joined (es : List Expr)
  | word (s : String)
  | name (s : String)
  | text (s : String)
  | unknown

def InfixOp.binaryOp? : InfixOp → Option BinaryOp
  | or => some .or
  | and => some .and
  | eq => some .eq
  | ne => some .notEq
  | lt => some .lt
  | gt => some .gt
  | le => some .ltEq
  | ge => some .gtEq
  | add => some .add
  | sub => some .sub
  | mul => some .mul
  | div => some .div
  | mod => some .mod
  | xor | is | tilde | regexp | pipe | path => none

namespace Reading

def listed? : List (String × Reading) → Option (List Expr)
  | [] => some []
  | (_, .expr e) :: ps => (e :: ·) <$> listed? ps
  | _ :: _ => none

/-- A word is NULL or part of a wrapper. -/
def ofWord (s : String) : Reading := if s = "NULL" then expr .null else word s

def ofName (table : Option String) (s : String) : Reading :=
  if table = none then expr (.column s) else name s

def run (table : Option String) : List Reading → Reading
  | [name t, word ".", name s] => if table = some t then expr (.column s) else unknown
  | [word s, word t] => word (s ++ " " ++ t)
  | _ => unknown

def binary : InfixOp → Reading → Reading → Reading
  | .ne, expr e, word "0" => expr e
  | .pipe, expr l, expr r => joined [l, r]
  | .pipe, joined es, expr r => joined (es ++ [r])
  | op, expr l, expr r =>
    match op.binaryOp? with
    | some o => expr (.binary o l r)
    | none => unknown
  | _, _, _ => unknown

def minus : Reading → Reading
  | expr e => expr (.unary .minus e)
  | _ => unknown

/-- What stands in parentheses, after a name or none. -/
def group (d : Dialect) : String → List (String × Reading) → Reading
  | "", [("", expr e)] => expr e
  | "", [("", joined es)] => expr (.call (some "CONCAT") es)
  | "CAST", [("", expr e), ("AS", word t)] =>
    if t = "BOOLEAN" then expr e
    else if t = d.floatName then expr (.call (some "FLOAT") [e])
    else unknown
  | "MOD", [("", expr l), (",", expr r)] => expr (.binary .mod l r)
  | "IFNULL", [("", expr e), (",", text "")] => expr e
  | "COALESCE", [("", expr e), (",", text "")] => expr e
  | "CONCAT", ps =>
    match listed? ps with
    | some es => expr (.call (some "CONCAT") es)
    | none => unknown
  | _, _ => unknown

/-- One and zero for a predicate. -/
def choice : List (String × Reading) → Reading
  | [("WHEN", expr e), ("THEN", word "1"), ("ELSE", word "0")] => expr e
  | _ => unknown

end Reading

mutual

def Term.reading (d : Dialect) (table : Option String) : Term → Reading
  | .word s => .ofWord s
  | .value v => .expr (.literal v.toLiteral)
  | .name s => .ofName table s
  | .text s => .text s
  | .run ts => .run table (Term.readings d table ts)
  | .binary op l r => .binary op (l.reading d table) (r.reading d table)
  | .minus t => (t.reading d table).minus
  | .group n ps => .group d n (Term.partReadings d table ps)
  | .choice ps => .choice (Term.partReadings d table ps)
  | .not _ | .unread => .unknown

def Term.readings (d : Dialect) (table : Option String) : List Term → List Reading
  | [] => []
  | t :: ts => t.reading d table :: Term.readings d table ts

def Term.partReadings (d : Dialect) (table : Option String) :
    List (String × Term) → List (String × Reading)
  | [] => []
  | (s, t) :: ps => (s, t.reading d table) :: Term.partReadings d table ps

end

def readExpr (d : Dialect) (table : Option String) (f : Fragment) : Option Expr :=
  (readTerm d f).bind fun t =>
    match t.reading d table with
    | .expr e => some e
    | _ => none

end Sql

/-- The operators whose chains may be grouped in any way. -/
def BinaryOp.regroups : BinaryOp → Bool
  | add | mul | and | or => true
  | _ => false

namespace Expr

/-- Regrouping a chain of one associative operator and, if `folds`, a minus sign taken into a number. -/
inductive Regroups (folds : Prop) : Expr → Expr → Prop
  | refl (e : Expr) : Regroups folds e e
  | trans {e e' e'' : Expr} : Regroups folds e e' → Regroups folds e' e'' → Regroups folds e e''
  | assoc {op : BinaryOp} (h : op.regroups = true) (a b c : Expr) :
    Regroups folds (.binary op (.binary op a b) c) (.binary op a (.binary op b c))
  | sign {e : Expr} {n : Number} (hf : folds) (h : e.asNumber? = some n) :
    Regroups folds (.number n.neg) (.unary .minus e)
  | binary (op : BinaryOp) {l l' r r' : Expr} :
    Regroups folds l l' → Regroups folds r r' → Regroups folds (.binary op l r) (.binary op l' r')
  | unary (op : UnaryOp) {e e' : Expr} : Regroups folds e e' → Regroups folds (.unary op e) (.unary op e')
  | call (name : Option String) (before after : List Expr) {a a' : Expr} :
    Regroups folds a a' → Regroups folds (.call name (before ++ a :: after)) (.call name (before ++ a' :: after))

theorem Regroups.args {folds : Prop} (name : Option String) {as as' : List Expr}
    (h : List.Forall₂ (Regroups folds) as as') : Regroups folds (.call name as) (.call name as') := by
  have hfrom (before : List Expr) : Regroups folds (.call name (before ++ as)) (.call name (before ++ as')) := by
    induction h generalizing before with
    | nil => exact .refl _
    | @cons a a' as as' ha _ ih =>
      refine .trans (.call name before as ha) ?_
      simpa using ih (before ++ [a'])
  exact hfrom []

/-- Without folding, a minus sign stays where it is. -/
theorem Regroups.unary_of {e e' : Expr} {op : UnaryOp} (h : Regroups False e e') (he : ∃ x, e' = .unary op x) :
    ∃ x, e = .unary op x := by
  induction h with
  | refl => exact he
  | trans _ _ ih ih' => exact ih (ih' he)
  | sign hf => exact hf.elim
  | unary op' _ _ =>
    obtain ⟨x, hx⟩ := he
    cases hx
    exact ⟨_, rfl⟩
  | assoc | binary | call =>
    obtain ⟨x, hx⟩ := he
    cases hx

end Expr

namespace Sql

open SheetQuery.Expr

/-- A layout that shows an expression, up to regrouping. -/
def Doc.Shows (d : Dialect) (table : Option String) (g : Doc) (e : Expr) : Prop :=
  ∃ t e', g.Reads t ∧ t.reading d table = .expr e' ∧ Regroups True e' e

namespace Doc.Shows

variable {d : Dialect} {table : Option String} {g l r : Doc} {e e' : Expr}

attribute [local simp] Term.reading Term.readings Term.partReadings Reading.ofName Reading.ofWord Reading.run
  Reading.binary Reading.minus Reading.group Reading.choice Reading.listed?

theorem isExpr (h : g.Shows d table e) : g.isExpr = true := by
  obtain ⟨t, x, ht, -⟩ := h
  exact ht.expr

theorem regroup (h : g.Shows d table e) (hr : Regroups True e e') : g.Shows d table e' := by
  obtain ⟨t, x, ht, hx, hxe⟩ := h
  exact ⟨t, x, ht, hx, hxe.trans hr⟩

theorem value (v : Binding) : (Doc.value v).Shows d table (.literal v.toLiteral) :=
  ⟨_, _, .value v, rfl, .refl _⟩

theorem null : (Doc.keyword "NULL").Shows d table .null :=
  ⟨_, _, .word (by decide), rfl, .refl _⟩

theorem column (table : Option String) (name : String) :
    (Doc.column table name).Shows d table (.column name) := by
  refine ⟨_, .column name, .column table name, ?_, .refl _⟩
  cases table <;> simp

theorem parens (h : g.Shows d table e) : (Doc.parens g).Shows d table e := by
  obtain ⟨t, x, ht, hx, hxe⟩ := h
  exact ⟨_, x, ht.parens, by simp [hx], hxe⟩

theorem minus (h : g.Shows d table e) (ho : unbroken Operator.minus.level g.operators = true) :
    (Doc.minus g).Shows d table (.unary .minus e) := by
  obtain ⟨t, x, ht, hx, hxe⟩ := h
  exact ⟨_, _, ht.minus ho, by simp [hx], .unary .minus hxe⟩

theorem binary {o : InfixOp} {op : BinaryOp} (hop : o.binaryOp? = some op) (hl : l.Shows d table e)
    (hr : r.Shows d table e') (hlo : ∀ u ∈ l.operators, o.level ≤ u.level)
    (hro : unbroken o.level r.operators = true) : (Doc.binary o l r).Shows d table (.binary op e e') := by
  obtain ⟨t, x, ht, hx, hxe⟩ := hl
  obtain ⟨u, y, hu, hy, hye⟩ := hr
  refine ⟨_, .binary op x y, ht.binary hu hlo hro, ?_, .binary op hxe hye⟩
  cases o <;> simp_all [InfixOp.binaryOp?]

theorem oneIf (h : g.Shows d table e) : g.oneIf.Shows d table e := by
  obtain ⟨t, x, ht, hx, hxe⟩ := h
  refine ⟨_, x, ht.oneIf, ?_, hxe⟩
  simp [hx]

/-- A value in the place of a condition where conditions are comparisons. -/
theorem nonzero (h : g.Shows d table e) (ho : ∀ u ∈ g.operators, InfixOp.ne.level ≤ u.level) :
    (Doc.binary .ne g (.keyword "0")).Shows d table e := by
  obtain ⟨t, x, ht, hx, hxe⟩ := h
  have hzero : (Doc.keyword "0").Reads (.word "0") := .word (by decide)
  exact ⟨_, x, ht.binary hzero ho rfl, by simp [hx], hxe⟩

/-- A cast to a type of one word or more. -/
theorem cast (h : g.Shows d table e) {type : Doc} (ws : List String) (ht : type.items = ws.map .word)
    (hne : ws ≠ []) (hws : ∀ w ∈ ws, (Item.word w).kind = .operand) {f : Expr → Expr}
    (hf : ∀ x, Reading.group d "CAST" [("", .expr x), ("AS", (Term.ofRun (ws.map .word)).reading d table)] =
      .expr (f x)) (hr : ∀ x, Regroups True x e → Regroups True (f x) e') : (Doc.cast g type).Shows d table e' := by
  obtain ⟨t, x, hg, hx, hxe⟩ := h
  refine ⟨_, f x, hg.cast ws ht hne hws, ?_, hr x hxe⟩
  simpa [hx] using hf x

theorem boolean (h : g.Shows d table e) : (Doc.cast g (.keyword "BOOLEAN")).Shows d table e :=
  h.cast (f := fun x => x) ["BOOLEAN"] rfl (by simp) (by decide) (fun _ => rfl) fun _ hx => hx

theorem float (h : g.Shows d table e) :
    (Doc.cast g (floatDoc d)).Shows d table (.call (some "FLOAT") [e]) := by
  have hcall (x : Expr) (hx : Regroups True x e) :
      Regroups True (.call (some "FLOAT") [x]) (.call (some "FLOAT") [e]) :=
    .call (some "FLOAT") [] [] hx
  cases d
  case mysql => exact h.cast ["DOUBLE"] rfl (by simp) (by decide) (fun _ => rfl) hcall
  case postgres => exact h.cast ["DOUBLE", "PRECISION"] rfl (by simp) (by decide) (fun _ => rfl) hcall
  case mssql | oracle => exact h.cast ["FLOAT"] rfl (by simp) (by decide) (fun _ => rfl) hcall
  case sqlite => exact h.cast ["REAL"] rfl (by simp) (by decide) (fun _ => rfl) hcall

theorem remainder (hl : l.Shows d table e) (hr : r.Shows d table e') {w : Word} (hw : w.text = "MOD") :
    (Doc.call w (.listed l r)).Shows d table (.binary .mod e e') := by
  obtain ⟨t, x, ht, hx, hxe⟩ := hl
  obtain ⟨u, y, hu, hy, hye⟩ := hr
  refine ⟨_, .binary .mod x y, ht.callPair hu, ?_, .binary .mod hxe hye⟩
  simp [hx, hy, hw]

/-- A part of a concatenation that is replaced if it is NULL. -/
theorem guarded (h : g.Shows d table e) {w : Word} (hw : w.text = "IFNULL" ∨ w.text = "COALESCE") :
    (Doc.call w (.listed g (.text ""))).Shows d table e := by
  obtain ⟨t, x, ht, hx, hxe⟩ := h
  refine ⟨_, x, ht.callPair (.text ""), ?_, hxe⟩
  rcases hw with hw | hw <;>
    simp [hx, hw]

/-- The parts of a list with commas, a separator `s` standing before it. -/
theorem parted {gs : List Doc} {es : List Expr} (h : List.Forall₂ (Doc.Shows d table) gs es) (hne : gs ≠ [])
    (s : String) : ∃ ps xs, Parted s (Doc.list gs).items ps ∧
      Reading.listed? (Term.partReadings d table ps) = some xs ∧ List.Forall₂ (Regroups True) xs es := by
  induction h generalizing s with
  | nil => exact absurd rfl hne
  | @cons g e gs es hg h ih =>
    obtain ⟨t, x, ht, hx, hxe⟩ := hg
    cases h with
    | nil =>
      exact ⟨_, [x], .one ht.items, by simp [hx], .cons hxe .nil⟩
    | @cons g' e' gs es hg' h =>
      obtain ⟨ps, xs, hp, hxs, hes⟩ := ih (by simp) ","
      refine ⟨_, x :: xs, .more (x := .comma) ht.items rfl hp, ?_, .cons hxe hes⟩
      simp [hx, hxs]

theorem concatenated {gs : List Doc} {es : List Expr} (h : List.Forall₂ (Doc.Shows d table) gs es)
    (hne : gs ≠ []) {w : Word} (hw : w.text = "CONCAT") :
    (Doc.call w (.list gs)).Shows d table (.call (some "CONCAT") es) := by
  obtain ⟨ps, xs, hp, hxs, hes⟩ := parted h hne ""
  refine ⟨_, .call (some "CONCAT") xs, .call hp, ?_, .args _ hes⟩
  simp [hxs, hw]

/-- Further parts of a chain of the concatenation operator. -/
theorem joined_foldl {a : Doc} {t : Term} {xs : List Expr} (ha : a.Reads t)
    (hx : t.reading d table = .joined xs) (hao : ∀ u ∈ a.operators, InfixOp.pipe.level ≤ u.level)
    {gs : List Doc} {es : List Expr} (h : List.Forall₂ (Doc.Shows d table) gs es)
    (hgo : ∀ g ∈ gs, g.operators = []) : ∃ t' ys, (gs.foldl (.binary .pipe) a).Reads t' ∧
      t'.reading d table = .joined (xs ++ ys) ∧ List.Forall₂ (Regroups True) ys es := by
  induction h generalizing a t xs with
  | nil => exact ⟨t, [], ha, by simpa using hx, .nil⟩
  | @cons g e gs es hg h ih =>
    obtain ⟨u, y, hu, hy, hye⟩ := hg
    have hg := hgo g List.mem_cons_self
    have hb : (Doc.binary .pipe a g).Reads (.binary .pipe t u) := ha.binary hu hao (by rw [hg]; rfl)
    have hxy : (Term.binary .pipe t u).reading d table = .joined (xs ++ [y]) := by
      simp [hx, hy]
    have hbo : ∀ u ∈ (Doc.binary .pipe a g).operators, InfixOp.pipe.level ≤ u.level := by
      simp only [Doc.operators, hg, List.mem_append, List.mem_singleton, or_imp, forall_and, forall_eq]
      exact ⟨hao, Nat.le_refl _⟩
    obtain ⟨t', ys, ht', hys, hes⟩ := ih hb hxy hbo fun g' hg' => hgo g' (List.mem_cons_of_mem g hg')
    exact ⟨t', y :: ys, ht', by simpa using hys, .cons hye hes⟩

theorem joined {g g' : Doc} {gs : List Doc} {es : List Expr}
    (h : List.Forall₂ (Doc.Shows d table) (g :: g' :: gs) es) (ho : ∀ x ∈ g :: g' :: gs, x.operators = []) :
    (Doc.parens (gs.foldl (.binary .pipe) (.binary .pipe g g'))).Shows d table (.call (some "CONCAT") es) := by
  obtain _ | ⟨⟨t, x, ht, hx, hxe⟩, _ | ⟨⟨u, y, hu, hy, hye⟩, h⟩⟩ := h
  have hg := ho g (by simp)
  have hg' := ho g' (by simp)
  have hb : (Doc.binary .pipe g g').Reads (.binary .pipe t u) := ht.binary hu (by simp [hg]) (by rw [hg']; rfl)
  have hxy : (Term.binary .pipe t u).reading d table = .joined [x, y] := by
    simp [hx, hy]
  obtain ⟨t', ys, ht', hys, hes⟩ := joined_foldl hb hxy (by simp [Doc.operators, hg, hg', Operator.level]) h
    fun g'' hg'' => ho g'' (by simp [hg''])
  refine ⟨_, .call (some "CONCAT") (x :: y :: ys), ht'.parens, ?_, .args _ (.cons hxe (.cons hye hes))⟩
  simp [hys]

end Doc.Shows

end Sql

end SheetQuery
