import SheetQuery.Proofs.Faces

/-! Operands in their places. `Drawn d neg f φ` says that a fragment is laid out as one expression that
shows the face `φ`. Every place an operand can be put in does to the face what it does to the text. -/

namespace SheetQuery.Sql

/-- A fragment is one expression with this face. -/
def Drawn (d : Dialect) (neg : Binding → Bool) (f : Fragment) (φ : Face) : Prop :=
  ∃ g : Doc, g.isExpr = true ∧ Spells d f g ∧ g.face neg f.isPredicate = φ

/-- A fragment is laid out, and `b` tells whether two minus signs meet in it. -/
def Inside (d : Dialect) (neg : Binding → Bool) (f : Fragment) (b : Bool) : Prop :=
  ∃ g : Doc, Spells d f g ∧ g.comment neg = b

/-- A fragment shows nothing outside brackets, and `b` tells whether two minus signs meet in it. -/
def Closed (d : Dialect) (neg : Binding → Bool) (f : Fragment) (b : Bool) : Prop :=
  Drawn d neg f { Face.closed b with predicate := f.isPredicate }

def Doc.isBracket : Doc → Bool
  | text _ | column _ _ | parens _ | call _ _ | choice _ => true
  | _ => false

theorem Doc.face_of_isBracket {g : Doc} (hg : g.isBracket = true) (neg : Binding → Bool) (p : Bool) :
    g.isExpr = true ∧ g.face neg p = { Face.closed (g.comment neg) with predicate := p } := by
  cases g with
  | text _ | column _ _ | parens _ | call _ _ | choice _ => exact ⟨rfl, rfl⟩
  | _ => simp [isBracket] at hg

section
variable {d : Dialect} {neg : Binding → Bool} {f h : Fragment} {φ ψ : Face} {b : Bool}

theorem Drawn.inside : Drawn d neg f φ → Inside d neg f φ.comment := by
  rintro ⟨g, _, hs, rfl⟩
  exact ⟨g, hs, rfl⟩

theorem Drawn.isPredicate : Drawn d neg f φ → f.isPredicate = φ.predicate := by
  rintro ⟨g, _, _, rfl⟩
  rfl

theorem Closed.drawn {p : Bool} (h : Closed d neg f b) (hp : f.isPredicate = p) :
    Drawn d neg f { Face.closed b with predicate := p } := hp ▸ h

theorem Closed.value (h : Closed d neg f b) (hp : f.isPredicate = false) : Drawn d neg f (.closed b) :=
  h.drawn hp

/-- Brackets close around whatever is in them. -/
theorem Closed.of_bracket (g : Doc) (hg : g.isBracket = true) (hs : Spells d f g)
    (hb : g.comment neg = b) : Closed d neg f b := by
  obtain ⟨he, hf⟩ := Doc.face_of_isBracket hg neg f.isPredicate
  exact ⟨g, he, hs, by rw [hf, hb]⟩

theorem Drawn.binary (op : InfixOp) {o : Fragment} (ho : o.text.toList = ' ' :: (op.text.toList ++ [' ']))
    (hb : o.bindings = []) (hf : Drawn d neg f φ) (hh : Drawn d neg h ψ) :
    Drawn d neg (f ++ o ++ h) (.binary op φ ψ) := by
  obtain ⟨g, hg, hs, rfl⟩ := hf
  obtain ⟨g', hg', hs', rfl⟩ := hh
  exact ⟨.binary op g g', by simp [Doc.isExpr, hg, hg'], .binary op ho hb hs hs', rfl⟩

theorem Drawn.asValue (hf : Drawn d neg f φ) : Drawn d neg (asValue d f) (φ.asValue d) := by
  have hp := hf.isPredicate
  obtain ⟨g, hg, hs, rfl⟩ := hf
  have hv := hs.toValue
  by_cases hc : (f.isPredicate && !d.predicatesAreValues) = true
  · simp only [Sql.asValue, Doc.toValue, Face.asValue, ← hp, hc, if_true] at hv ⊢
    exact Closed.of_bracket g.oneIf rfl hv (by simp)
  · simp only [Sql.asValue, Doc.toValue, Face.asValue, ← hp, hc, Bool.false_eq_true, if_false] at hv ⊢
    exact ⟨g, hg, hv, rfl⟩

theorem Drawn.groupIf (hf : Drawn d neg f φ) : Drawn d neg (groupIf b f) (φ.groupIf b) := by
  have hp := hf.isPredicate
  obtain ⟨g, hg, hs, rfl⟩ := hf
  cases b
  · exact ⟨g, hg, hs, rfl⟩
  · refine ⟨.parens g, rfl, hs.parenthesized, ?_⟩
    simp [Sql.groupIf, Face.groupIf, Doc.face, Doc.operators, Face.closed]

theorem Drawn.asCondition (hf : Drawn d neg f φ) :
    Drawn d neg (asCondition d f) (φ.asCondition d) := by
  obtain ⟨g, hg, hs, rfl⟩ := hf
  have hk : (Doc.keyword "0" (by decide)).isExpr = true := by decide
  have hc := hs.toCondition
  cases hp : f.isPredicate with
  | true =>
    simp only [Sql.asCondition, Doc.toCondition, Face.asCondition, Doc.face, hp, if_true] at hc ⊢
    exact ⟨g, hg, hc, by rw [Doc.face, hp]⟩
  | false =>
    simp only [Sql.asCondition, Doc.toCondition, Face.asCondition, hp, Bool.false_eq_true, if_false] at hc ⊢
    cases d
    case mssql | oracle =>
      exact ⟨_, by simp [Doc.isExpr, hg, hk], hc, by simp [Doc.face, Doc.operators, Doc.keyword]⟩
    case mysql | sqlite => exact ⟨g, hg, hc, rfl⟩
    case postgres => exact Closed.of_bracket _ rfl hc (by simp [Doc.face])

/-- An operand as a side of an operator, which takes conditions or values. -/
def sideOf (d : Dialect) (op : BinaryOp) (right : Bool) (x : Operand) : Noted Fragment :=
  if op.isLogical then x.conditionUnder d op right else x.valueUnder d op right

/-- An operand whose SQL shows the face of a sketch of the same expression. -/
structure Matches (d : Dialect) (neg : Binding → Bool) (x : Operand) (s : Sketch) : Prop where
  expr : x.expr = s.expr
  drawn : Drawn d neg x.sql.result s.face

namespace Matches

variable {x : Operand} {s : Sketch} (m : Matches d neg x s)
include m

theorem value : Drawn d neg (x.value d).result (s.value d) := m.drawn.asValue

theorem grouped : Drawn d neg (x.grouped d).result (s.grouped d) := by
  have hv := m.value.groupIf (b := isOperation s.expr)
  simpa only [Operand.grouped, Noted.result_map, Sketch.grouped, m.expr] using hv

theorem condition : Drawn d neg (x.condition d).result (s.condition d) := by
  have hp := m.drawn.isPredicate
  have hc := (m.drawn.groupIf (b := !s.face.predicate && isOperation s.expr)).asCondition
  simpa only [Operand.condition, Noted.result_map, Sketch.condition, hp, m.expr] using hc

theorem valueUnder (op : BinaryOp) (right : Bool) :
    Drawn d neg (x.valueUnder d op right).result (s.valueUnder d op right) := by
  have hv := (m.drawn.groupIf (b := clashesUnder op right s.expr)).asValue
  simpa only [Operand.valueUnder, Noted.result_map, Sketch.valueUnder, m.expr] using hv

theorem conditionUnder (op : BinaryOp) (right : Bool) :
    Drawn d neg (x.conditionUnder d op right).result (s.conditionUnder d op right) := by
  have hc := (m.drawn.groupIf (b := clashesUnder op right s.expr)).asCondition
  simpa only [Operand.conditionUnder, Noted.result_map, Sketch.conditionUnder, m.expr] using hc

theorem side (op : BinaryOp) (right : Bool) :
    Drawn d neg (sideOf d op right x).result (s.under d op right) := by
  unfold sideOf Sketch.under
  split
  · exact m.conditionUnder op right
  · exact m.valueUnder op right

/-- As a condition among others, with parentheses or not. -/
theorem groupedCondition : Inside d neg (x.groupedCondition d).result (s.condition d).comment := by
  have hc := (m.condition.groupIf
    (b := isOperation x.expr && !(x.condition d).result.text.startsWith '(')).inside
  rwa [Face.comment_groupIf] at hc

end Matches

end

section
variable {d : Dialect} {neg : Binding → Bool}

theorem comment_list (gs : List Doc) : (Doc.list gs).comment neg = gs.any (·.comment neg) := by
  induction gs with
  | nil => rfl
  | cons g gs ih =>
    cases gs with
    | nil => simp [Doc.list]
    | cons g' gs => simp [Doc.list, ih]

theorem comment_joined (op : InfixOp) (gs : List Doc) :
    (Doc.joined op gs).comment neg = gs.any (·.comment neg) := by
  cases gs with
  | nil => rfl
  | cons g gs =>
    have hfold : (gs.foldl (.binary op) g).comment neg = (g.comment neg || gs.any (·.comment neg)) := by
      induction gs generalizing g with
      | nil => simp
      | cons g' gs ih => simp [ih, Bool.or_assoc]
    simpa [Doc.joined] using hfold

/-- Operands that are laid out as `F` writes them, and whether two minus signs meet in one of them. -/
def InsideAll (d : Dialect) (neg : Binding → Bool) (F : Operand → Fragment) (xs : List Operand) (b : Bool) :
    Prop :=
  ∃ gs : List Doc, List.Forall₂ (fun x g => Spells d (F x) g) xs gs ∧ gs.any (·.comment neg) = b

/-- Arguments whose SQL shows the faces of sketches. -/
abbrev MatchesAll (d : Dialect) (neg : Binding → Bool) : List Operand → List Sketch → Prop :=
  List.Forall₂ (Matches d neg)

theorem Matches.null : Matches d neg .null .null where
  expr := rfl
  drawn := ⟨.keyword "NULL" (by decide), by decide, ⟨rfl, rfl⟩, rfl⟩

section
variable {args : List Operand} {ss : List Sketch} (m : MatchesAll d neg args ss)
include m

theorem MatchesAll.getD (i : Nat) : Matches d neg (args.getD i .null) (ss.getD i .null) := by
  induction m generalizing i with
  | nil => exact .null
  | cons h _ ih =>
    cases i with
    | zero => exact h
    | succ i => exact ih i

theorem MatchesAll.arg (i : Nat) :
    Inside d neg (arg d args i).result (ss.getD i .null).face.comment := by
  have h := (MatchesAll.getD m i).value.inside
  rw [Sketch.comment_value] at h
  exact h

theorem MatchesAll.groupedArg (i : Nat) :
    Inside d neg (groupedArg d args i).result (ss.getD i .null).face.comment := by
  have h := (MatchesAll.getD m i).grouped.inside
  rw [Sketch.comment_grouped] at h
  exact h

theorem MatchesAll.inside {F : Operand → Fragment}
    (hf : ∀ x s, Matches d neg x s → Inside d neg (F x) s.face.comment) :
    InsideAll d neg F args (anyComment ss) := by
  induction m with
  | nil => exact ⟨[], .nil, rfl⟩
  | cons hx _ ih =>
    obtain ⟨g, hs, hb⟩ := hf _ _ hx
    obtain ⟨gs, hss, hbs⟩ := ih
    exact ⟨g :: gs, .cons hs hss, by simp [anyComment, hb] at hbs ⊢; rw [hbs]⟩

theorem MatchesAll.values : InsideAll d neg (fun x => (x.value d).result) args (anyComment ss) :=
  MatchesAll.inside m fun x s hx => by simpa using hx.value.inside

theorem nativeCall_closed (w : Word) : Closed d neg (nativeCall d w.text args).result (anyComment ss) := by
  obtain ⟨gs, hs, hc⟩ := MatchesAll.values m
  exact .of_bracket (.call w (.list gs)) rfl (.nativeCall hs w) ((comment_list gs).trans hc)

end

end

end SheetQuery.Sql
