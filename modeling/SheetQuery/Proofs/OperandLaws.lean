import SheetQuery.Proofs.Operands

/-! Calls and prefix operators as operands. Neither is ever put in parentheses, so they are kept whole
exactly if what they show binds tightly enough. Most functions show nothing; a single MIN, MAX, AND or OR
shows what its argument shows, and so does a plus sign. NOT shows itself. -/

namespace SheetQuery.Sql

def unified : BinaryOp → BinaryOp
  | .eqEq => .eq
  | op => op

/-- The left side of an operator in canonical form: a dividend is cast. -/
def leftSide : BinaryOp → Expr → Expr
  | .div, e => if e.calledName = some "FLOAT" then e else .call (some "FLOAT") [e]
  | _, e => e

def leftOperand (d : Dialect) (names : Naming) (op : BinaryOp) (e : Expr) : Operand :=
  ⟨leftSide op e.canonical, write d names (leftSide op e.canonical)⟩

def sqlOf (d : Dialect) (names : Naming) (e : Expr) : Fragment := (e.operand d names).sql.result

def sketchOf (d : Dialect) (e : Expr) : Sketch := ⟨e.canonical, face d noSign e.canonical⟩

def leftSketch (d : Dialect) (op : BinaryOp) (e : Expr) : Sketch :=
  ⟨leftSide op e.canonical, face d noSign (leftSide op e.canonical)⟩

/-- Whether two minus signs meet in the SQL of an expression. -/
def minusesMeet (d : Dialect) (e : Expr) : Bool := (face d noSign e.canonical).comment

/-- The parts of `l & r`: each side gives itself, or its own parts if it is a concatenation. -/
def concatenated (l r : Expr) : List Expr :=
  Canonical.concatParts l.canonical ++ Canonical.concatParts r.canonical

/-- When the parts of `l & r` are kept whole. -/
structure ConcatLaw (d : Dialect) (names : Naming) (l r : Expr) : Prop where
  /-- Where the concatenation is a function. -/
  listed : joinsByOperator d = false →
    (KeepsArgs d "CONCAT" (sqlOf d names (.binary .concat l r))
      (listedTexts d ((concatenated l r).map fun e => ⟨e, write d names e⟩)) ↔
      minusesMeet d (.binary .concat l r) = false)
  /-- Where it is an operator, in parentheses unless there is only one part. -/
  piped (before : List Expr) (e : Expr) (after : List Expr) : joinsByOperator d = true →
    concatenated l r = before ++ e :: after →
    ∃ f, sqlOf d names (.binary .concat l r) = (if (before ++ after).isEmpty then f else f.parenthesized) ∧
      (KeepsAmong d .pipe f (before.map fun e => partText d ⟨e, write d names e⟩) (partText d ⟨e, write d names e⟩)
          (after.map fun e => partText d ⟨e, write d names e⟩) ↔
        minusesMeet d (.binary .concat l r) = false ∧
          (after ≠ [] → ∀ u ∈ (partFace d ⟨e, face d noSign e⟩).operators, InfixOp.pipe.level ≤ u.level) ∧
          (before ≠ [] → unbroken InfixOp.pipe.level (partFace d ⟨e, face d noSign e⟩).operators = true))

/-- When `c` is kept whole as an operand beside `x`. -/
structure OperandLaw (d : Dialect) (names : Naming) (c x : Expr) : Prop where
  left (op : BinaryOp) (o : InfixOp) : infixOf? d op = some o →
    (KeepsLeft d o (sqlOf d names (.binary op c x)) (sideOf d (unified op) false (leftOperand d names op c)).result ↔
      minusesMeet d (.binary op c x) = false ∧
        ∀ u ∈ ((leftSketch d op c).under d (unified op) false).operators, o.level ≤ u.level)
  right (op : BinaryOp) (o : InfixOp) : infixOf? d op = some o →
    (KeepsRight d o (sqlOf d names (.binary op x c)) (sideOf d (unified op) true (c.operand d names)).result ↔
      minusesMeet d (.binary op x c) = false ∧
        unbroken o.level ((sketchOf d c).under d (unified op) true).operators = true)
  /-- The remainder where it is a function. -/
  remainder : d.hasPercent = false →
    (KeepsArgs d "MOD" (sqlOf d names (.binary .mod c x)) [((c.operand d names).value d).result,
      ((x.operand d names).value d).result] ↔ minusesMeet d (.binary .mod c x) = false) ∧
    (KeepsArgs d "MOD" (sqlOf d names (.binary .mod x c)) [((x.operand d names).value d).result,
      ((c.operand d names).value d).result] ↔ minusesMeet d (.binary .mod x c) = false)
  concat : ConcatLaw d names c x ∧ ConcatLaw d names x c

/-- When `c` is kept whole under a prefix operator. -/
structure PrefixLaw (d : Dialect) (names : Naming) (c : Expr) : Prop where
  minus : c.canonical.asNumber? = none →
    (KeepsUnder d .minus (sqlOf d names (.unary .minus c)) ((c.operand d names).grouped d).result ↔
      minusesMeet d (.unary .minus c) = false ∧
        unbroken Operator.minus.level ((sketchOf d c).grouped d).operators = true)
  /-- A number and its signs are one value. -/
  folded (n : Number) : c.canonical.asNumber? = some n →
    sqlOf d names (.unary .minus c) = .bind (.number n.neg)
  plus : sqlOf d names (.unary .plus c) = sqlOf d names c
  not : KeepsUnder d .not (sqlOf d names (.unary .not c)) ((c.operand d names).condition d).result.parenthesized ↔
    minusesMeet d c = false

section
variable {d : Dialect} {names : Naming} {c x : Expr} {op : BinaryOp} {o : InfixOp}

theorem infixOf_unified (h : infixOf? d op = some o) : infixOf? d (unified op) = some o := by
  cases op <;> exact h

theorem canonical_infixOp (h : infixOf? d op = some o) (l r : Expr) :
    (Expr.binary op l r).canonical = .binary (unified op) (leftSide op l.canonical) r.canonical := by
  cases op
  case concat | other => simp [infixOf?] at h
  case div => exact Expr.canonical_div l r
  all_goals rfl

theorem signsNegatives_noSign : SignsNegatives noSign := fun _ h => by simp [noSign] at h

theorem matches_of_worded {e : Expr} (he : e.Worded) (d : Dialect) (names : Naming) :
    Matches d noSign ⟨e, write d names e⟩ ⟨e, face d noSign e⟩ :=
  ⟨rfl, write_drawn signsNegatives_noSign he⟩

theorem leftSide_worded {e : Expr} (he : e.Worded) (op : BinaryOp) : (leftSide op e).Worded := by
  cases op
  case div =>
    simp only [leftSide]
    split
    · exact he
    · exact .named (by decide) (by simpa using he)
  all_goals exact he

theorem sqlOf_concat (l r : Expr) : sqlOf d names (.binary .concat l r) =
    (concat d ((concatenated l r).map fun e => ⟨e, write d names e⟩)).result := by
  rw [sqlOf, Expr.operand, Expr.canonical_concat, write_concat]
  rfl

theorem comment_concatFace (ss : List Sketch) : (concatFace d ss).comment = anyComment ss := by
  rcases ss with _ | ⟨s, _ | ⟨t, ss⟩⟩
  · rfl
  · simp only [concatFace, anyComment_singleton]
    split <;> simp [Face.closed]
  · rfl

theorem minusesMeet_concat (l r : Expr) : minusesMeet d (.binary .concat l r) =
    anyComment ((concatenated l r).map fun e => ⟨e, face d noSign e⟩) := by
  rw [minusesMeet, Expr.canonical_concat, face_concat, comment_concatFace]
  rfl

theorem matchesAll_of_worded {es : List Expr} (h : ∀ e ∈ es, e.Worded) (d : Dialect) (names : Naming) :
    MatchesAll d noSign (es.map fun e => ⟨e, write d names e⟩) (es.map fun e => ⟨e, face d noSign e⟩) :=
  List.forall₂_map_left_iff.2 (List.forall₂_map_right_iff.2
    (List.forall₂_same.2 fun e he => matches_of_worded (h e he) d names))

theorem concatLaw {l r : Expr} (hl : l.Worded) (hr : r.Worded) : ConcatLaw d names l r := by
  have hparts : ∀ e ∈ concatenated l r, e.Worded := List.forall_mem_append.2
    ⟨Canonical.concatParts_everywhere hl.canonical, Canonical.concatParts_everywhere hr.canonical⟩
  refine ⟨fun hd => ?_, fun before e after hd hsplit => ?_⟩
  · rw [sqlOf_concat, minusesMeet_concat]
    exact keepsArgs_concat_iff (matchesAll_of_worded hparts d names) hd
  · rw [hsplit] at hparts
    obtain ⟨hbefore, he, hafter⟩ : (∀ e ∈ before, e.Worded) ∧ e.Worded ∧ ∀ e ∈ after, e.Worded := by
      simpa only [List.forall_mem_append, List.forall_mem_cons] using hparts
    obtain ⟨f, hf, hkeeps⟩ := keepsAmong_piped_iff (matchesAll_of_worded hbefore d names)
      (matches_of_worded he d names) (matchesAll_of_worded hafter d names)
    refine ⟨f, ?_, ?_⟩
    · rw [sqlOf_concat, concat_operator hd, hsplit]
      simpa using hf
    · rw [minusesMeet_concat, hsplit]
      simpa [Function.comp_def] using hkeeps

theorem operandLaw (hc : c.Worded) (hx : x.Worded) : OperandLaw d names c x := by
  have mc : Matches d noSign (c.operand d names) (sketchOf d c) := matches_of_worded hc.canonical d names
  have mx : Matches d noSign (x.operand d names) (sketchOf d x) := matches_of_worded hx.canonical d names
  have mleft {e : Expr} (he : e.Worded) (op : BinaryOp) :
      Matches d noSign (leftOperand d names op e) (leftSketch d op e) :=
    matches_of_worded (leftSide_worded he.canonical op) d names
  refine ⟨?_, ?_, ?_, concatLaw hc hx, concatLaw hx hc⟩
  · intro op o ho
    rw [sqlOf, minusesMeet, Expr.operand, canonical_infixOp ho c x]
    exact keepsLeft_side_iff (mleft hc op) mx (infixOf_unified ho)
  · intro op o ho
    rw [sqlOf, minusesMeet, Expr.operand, canonical_infixOp ho x c]
    exact keepsRight_side_iff (mleft hx op) mc (infixOf_unified ho)
  · intro hd
    exact ⟨keepsArgs_remainder_iff mc mx hd, keepsArgs_remainder_iff mx mc hd⟩

theorem prefixLaw (hc : c.Worded) : PrefixLaw d names c := by
  have mc : Matches d noSign (c.operand d names) (sketchOf d c) := matches_of_worded hc.canonical d names
  refine ⟨fun hn => keepsUnder_minus_iff mc hn, fun n hn => ?_, rfl, keepsUnder_not_iff mc⟩
  rw [sqlOf, Expr.operand, Expr.canonical_unary]
  simp only [write, unary, hn, Noted.result_pure]

end

/-- Whether a call with so many arguments can show an operator: functions that become operators, functions
that hand on a single argument, and the test for NULL where it is an operator. -/
def canShow (d : Dialect) : Builtin → Nat → Bool
  | .add, _ | .sum, _ | .avg, _ => true
  | .min, n | .max, n | .and, n | .or, n => n = 1
  | .xor, n => d = .mysql ∧ n = 1
  | .concat, n => n = 1 ∧ joinsByOperator d
  | .isBlank, n => n = 0 ∨ d = .oracle
  | .isNotBlank, n => n = 0
  | _, _ => false

/-- An operand that is kept whole unless two minus signs meet. -/
structure ClosedOperand (d : Dialect) (names : Naming) (c x : Expr) : Prop where
  left (op : BinaryOp) (o : InfixOp) : infixOf? d op = some o →
    (KeepsLeft d o (sqlOf d names (.binary op c x)) (sideOf d (unified op) false (leftOperand d names op c)).result ↔
      minusesMeet d (.binary op c x) = false)
  right (op : BinaryOp) (o : InfixOp) : infixOf? d op = some o →
    (KeepsRight d o (sqlOf d names (.binary op x c)) (sideOf d (unified op) true (c.operand d names)).result ↔
      minusesMeet d (.binary op x c) = false)
  minus : c.canonical.asNumber? = none →
    (KeepsUnder d .minus (sqlOf d names (.unary .minus c)) ((c.operand d names).grouped d).result ↔
      minusesMeet d (.unary .minus c) = false)

section
variable {d : Dialect} {names : Naming} {c x : Expr} {op : BinaryOp} {o : InfixOp} {s : Sketch}

theorem operators_groupIf_subset (b : Bool) (φ : Face) : (φ.groupIf b).operators ⊆ φ.operators := by
  cases b
  · exact List.Subset.refl _
  · exact List.nil_subset _

theorem operators_asValue_subset (d : Dialect) (φ : Face) : (φ.asValue d).operators ⊆ φ.operators := by
  unfold Face.asValue
  split
  · exact List.nil_subset _
  · exact List.Subset.refl _

theorem operators_grouped_subset (d : Dialect) (s : Sketch) : (s.grouped d).operators ⊆ s.face.operators :=
  List.Subset.trans (operators_groupIf_subset _ _) (operators_asValue_subset d _)

theorem InfixOp.level_lt_minus (o : InfixOp) : o.level < Operator.minus.level := by
  cases o <;> decide

/-- Beside AND and OR a value may be compared with zero, which binds tighter. -/
theorem level_lt_of_minus (h : ∀ u ∈ s.face.operators, u = .minus) (ho : infixOf? d op = some o) (right : Bool) :
    ∀ u ∈ (s.under d op right).operators, o.level < u.level := by
  have hminus {os : List Operator} (hos : os ⊆ s.face.operators) : ∀ u ∈ os, o.level < u.level := by
    intro u hu
    rw [h u (hos hu)]
    exact o.level_lt_minus
  have hg := operators_groupIf_subset (clashesUnder op right s.expr) s.face
  unfold Sketch.under
  split
  case isTrue hlog =>
    have hne : o.level < Operator.level (.between .ne) := by
      cases op <;> simp [BinaryOp.isLogical] at hlog <;> cases ho <;> decide
    unfold Sketch.conditionUnder Face.asCondition
    split
    · exact hminus hg
    · cases d
      case mssql | oracle =>
        intro u hu
        rcases List.mem_append.1 hu with hu | hu
        · exact hminus hg u hu
        · rw [List.mem_singleton.1 hu]
          exact hne
      case postgres => exact hminus (List.nil_subset _)
      case mysql | sqlite => exact hminus hg
  case isFalse => exact hminus (List.Subset.trans (operators_asValue_subset d _) hg)

theorem operators_leftSketch (h : ∀ u ∈ (sketchOf d c).face.operators, u = .minus) (op : BinaryOp) :
    ∀ u ∈ (leftSketch d op c).face.operators, u = .minus := by
  cases op
  case div =>
    have hf : Builtin.ofName? (Text.upper "FLOAT") = some .float := by decide
    simp only [leftSketch, leftSide]
    split
    · exact h
    · simp only [face, callFace, hf]
      exact List.forall_mem_nil _
  all_goals exact h

theorem closedOperand (hc : c.Worded) (hx : x.Worded) (h : ∀ u ∈ (sketchOf d c).face.operators, u = .minus) :
    ClosedOperand d names c x := by
  have law : OperandLaw d names c x := operandLaw hc hx
  have plaw : PrefixLaw d names c := prefixLaw hc
  refine ⟨fun op o ho => ?_, fun op o ho => ?_, fun hn => ?_⟩
  · rw [law.left op o ho, and_iff_left]
    exact fun u hu => (level_lt_of_minus (operators_leftSketch h op) (infixOf_unified ho) false u hu).le
  · rw [law.right op o ho, and_iff_left]
    exact unbroken_of_lt (level_lt_of_minus h (infixOf_unified ho) true)
  · rw [plaw.minus hn, and_iff_left]
    refine unbroken_of_ne_between (fun u hu op => ?_) _
    rw [h u (operators_grouped_subset d _ hu)]
    exact Operator.noConfusion

end

section
variable {d : Dialect} {f : Builtin} {n : String} {args : List Expr}

theorem operators_builtinFace {neg : Binding → Bool} {ss : List Sketch} (h : canShow d f ss.length = false) :
    (builtinFace d neg f ss).operators = [] := by
  cases f
  case add | sum | avg => simp [canShow] at h
  case min | max | and | or =>
    rcases ss with _ | ⟨s, _ | ⟨t, ss⟩⟩
    · rfl
    · simp [canShow] at h
    · rfl
  case xor =>
    rcases ss with _ | ⟨s, _ | ⟨t, ss⟩⟩
    · rfl
    · have hd : d ≠ .mysql := by simpa [canShow] using h
      simp [builtinFace, hd, closedCall, Face.closed]
    · rfl
  case concat =>
    have hl : ss.length ≠ 1 ∨ ¬ (d = .oracle ∨ d = .sqlite) := by
      simpa [canShow, joinsByOperator, imp_iff_not_or] using h
    rw [builtinFace, concatFace_closed hl]
    rfl
  case right =>
    simp only [builtinFace, trailingFace]
    split <;> rfl
  case isBlank =>
    obtain ⟨hl, hd⟩ : ss ≠ [] ∧ d ≠ .oracle := by simpa [canShow] using h
    obtain ⟨s, ss, rfl⟩ := List.exists_cons_of_ne_nil hl
    simp [builtinFace, hd, closedCall, Face.closed]
  case isNotBlank =>
    cases ss with
    | nil => simp [canShow] at h
    | cons s ss => rfl
  all_goals rfl

open Canonical in
theorem hasName_eq_false_of_ofName? (hf : Builtin.ofName? (Text.upper n) = some f)
    (h : f ∉ [.avg, .add, .sum]) : hasName (some n) "AVG" = false ∧ hasName (some n) "ADD" = false ∧
      hasName (some n) "SUM" = false := by
  simp only [List.mem_cons, List.not_mem_nil, or_false, not_or] at h
  obtain ⟨havg, hadd, hsum⟩ := h
  exact ⟨Expr.hasName_eq_false hf (by decide) havg, Expr.hasName_eq_false hf (by decide) hadd,
    Expr.hasName_eq_false hf (by decide) hsum⟩

/-- A call that is not reduced shows what its function makes of the arguments. -/
theorem face_call (hf : Builtin.ofName? (Text.upper n) = some f) (h : f ∉ [.avg, .add, .sum])
    (hurl : Canonical.hasName (some n) "URL" = false ∨ args = []) :
    (sketchOf d (.call (some n) args)).face = builtinFace d noSign f (args.map (sketchOf d)) := by
  obtain ⟨havg, hadd, hsum⟩ := hasName_eq_false_of_ofName? hf h
  simp only [sketchOf, Expr.canonical_call havg hadd hsum hurl, face, callFace, hf, sketches_eq_map, List.map_map]
  rfl

/-- The SQL of a call that cannot show an operator shows none. -/
theorem operators_call (hf : Builtin.ofName? (Text.upper n) = some f) (h : canShow d f args.length = false) :
    (sketchOf d (.call (some n) args)).face.operators = [] := by
  have hn : f ∉ [.avg, .add, .sum] := by
    simp only [List.mem_cons, List.not_mem_nil, or_false]
    rintro (rfl | rfl | rfl) <;> simp [canShow] at h
  have hcall (hurl : Canonical.hasName (some n) "URL" = false ∨ args = []) :
      (sketchOf d (.call (some n) args)).face.operators = [] := by
    rw [face_call hf hn hurl]
    exact operators_builtinFace (by simpa using h)
  cases hurl : Canonical.hasName (some n) "URL" with
  | false => exact hcall (.inl hurl)
  | true =>
    cases args with
    | nil => exact hcall (.inr rfl)
    | cons a as =>
      -- a link is a concatenation of three parts or more
      obtain ⟨havg, hadd, hsum⟩ := hasName_eq_false_of_ofName? hf hn
      rw [sketchOf, Expr.canonical_url havg hadd hsum hurl, Canonical.linkOf, face_concat, concatFace_closed]
      · rfl
      · simp

/-- Calls of functions as operands: when they are kept whole, and which always are. -/
theorem call_kept_whole (hf : Builtin.ofName? (Text.upper n) = some f) (hargs : ∀ a ∈ args, a.Worded) {x : Expr}
    (hx : x.Worded) (d : Dialect) (names : Naming) :
    OperandLaw d names (.call (some n) args) x ∧ PrefixLaw d names (.call (some n) args) ∧
      (canShow d f args.length = false → ClosedOperand d names (.call (some n) args) x) ∧
      ∀ a, args = [a] →
        ((f = .min ∨ f = .max) → (sketchOf d (.call (some n) args)).face = (sketchOf d a).value d) ∧
        ((f = .and ∨ f = .or) → (sketchOf d (.call (some n) args)).face = (sketchOf d a).condition d) := by
  have hc : (Expr.call (some n) args).Worded :=
    .call (by rintro n ⟨⟩; exact Builtin.isWordChar_of_ofName? hf) hargs
  refine ⟨operandLaw hc hx, prefixLaw hc, fun h => closedOperand hc hx (by simp [operators_call hf h]), ?_⟩
  rintro a rfl
  have hface (h : f ∉ [.avg, .add, .sum]) (hurl : f ≠ .url) :
      (sketchOf d (.call (some n) [a])).face = builtinFace d noSign f [sketchOf d a] :=
    face_call hf h (.inl (Expr.hasName_eq_false hf (by decide) hurl))
  constructor
  · rintro (rfl | rfl) <;> exact hface (by decide) (by decide)
  · rintro (rfl | rfl) <;> exact hface (by decide) (by decide)

/-- `ABS(a + b) * c` keeps the call as its left operand, and `a & b & ABS(a + b)` keeps it as its last part. -/
theorem abs_call_kept :
    let sum : Expr := .binary .add (.column "a") (.column "b")
    let call : Expr := .call (some "ABS") [sum]
    let pair : Expr := .binary .concat (.column "a") (.column "b")
    let part (e : Expr) := partText .sqlite ⟨e, write .sqlite .default e⟩
    canShow .sqlite .abs 1 = false ∧
      KeepsLeft .sqlite .mul (sqlOf .sqlite .default (.binary .mul call (.column "c")))
        (sideOf .sqlite .mul false (call.operand .sqlite .default)).result ∧
      ∃ f, sqlOf .sqlite .default (.binary .concat pair call) = f.parenthesized ∧
        KeepsAmong .sqlite .pipe f [part (.column "a"), part (.column "b")] (part call) [] := by
  intro sum call pair part
  have hcolumn (name : String) : (Expr.column name).Worded := .column trivial
  have hsum : sum.Worded := .binary nofun (hcolumn "a") (hcolumn "b")
  have hpair : pair.Worded := .binary nofun (hcolumn "a") (hcolumn "b")
  have habs {x : Expr} (hx : x.Worded) := call_kept_whole (f := .abs) (n := "ABS") (by decide)
    (List.forall_mem_singleton.2 hsum) hx .sqlite .default
  obtain ⟨f, hf, hkeeps⟩ := (habs hpair).1.concat.2.piped [.column "a", .column "b"] call [] rfl rfl
  refine ⟨by decide, (((habs (hcolumn "c")).2.2.1 (by decide)).left .mul .mul rfl).2 (by decide), f, hf, ?_⟩
  exact hkeeps.2 ⟨by decide, fun h => absurd rfl h, fun _ => by decide⟩

/-- `MIN(a + b) * c` is written without parentheses, and the product takes only `b`. -/
theorem min_call_taken_apart :
    let sum : Expr := .binary .add (.column "a") (.column "b")
    let product : Expr := .binary .mul (.call (some "MIN") [sum]) (.column "c")
    (sqlOf .sqlite .default product).text = "\"a\" + \"b\" * \"c\"" ∧
      ¬ KeepsLeft .sqlite .mul (sqlOf .sqlite .default product)
        (sideOf .sqlite .mul false ((Expr.call (some "MIN") [sum]).operand .sqlite .default)).result := by
  intro sum product
  have hsum : sum.Worded := .binary nofun (.column trivial) (.column trivial)
  have hcall : (Expr.call (some "MIN") [sum]).Worded := .named (by decide) (List.forall_mem_singleton.2 hsum)
  have law : OperandLaw .sqlite .default (.call (some "MIN") [sum]) (.column "c") :=
    operandLaw hcall (.column trivial)
  refine ⟨by decide, fun h => ?_⟩
  obtain ⟨-, hlevel⟩ := (law.left .mul .mul rfl).1 h
  exact absurd (hlevel (.between .add) (by decide)) (by decide)

end

section
variable {d : Dialect} {names : Naming} {e x : Expr} {op : BinaryOp} {o : InfixOp}

theorem binary_eq_of_sides (ho : infixOf? d op = some o) {l l' r r' : Operand}
    (hl : sideOf d op false l = sideOf d op false l') (hr : sideOf d op true r = sideOf d op true r') :
    binary d op l r = binary d op l' r' := by
  cases op
  case concat | other => simp [infixOf?] at ho
  case mod =>
    have hd : d.hasPercent = true := by simpa [infixOf?] using congrArg Option.isSome ho
    simp only [sideOf, BinaryOp.isLogical, if_false, Bool.false_eq_true] at hl hr
    simp only [binary, joined, hd, if_true]
    rw [hl, hr]
  all_goals
    simp only [sideOf, BinaryOp.isLogical, if_true, if_false, Bool.false_eq_true] at hl hr
    simp only [binary, binary.logical, binary.comparison, joined]
    rw [hl, hr]

/-- A plus sign leaves no trace but that its operand gets no parentheses. -/
theorem sideOf_plus {right : Bool} (h : clashesUnder op right e = false) :
    sideOf d op right ⟨.unary .plus e, write d names (.unary .plus e)⟩ = sideOf d op right ⟨e, write d names e⟩ := by
  have hw : write d names (.unary .plus e) = write d names e := rfl
  have hc : clashesUnder op right (.unary .plus e) = false := rfl
  rw [sideOf, sideOf, Operand.conditionUnder, Operand.conditionUnder, Operand.valueUnder, Operand.valueUnder]
  simp only [hw, hc, h]

/-- The sides on which a plus sign changes nothing. -/
def plusVanishes (op : BinaryOp) (right : Bool) (e : Expr) : Bool :=
  if op = .div ∧ right = false then e.calledName ≠ some "FLOAT" else clashesUnder (unified op) right e = false

theorem write_float_plus (e : Expr) : write d names (.call (some "FLOAT") [.unary .plus e]) =
    write d names (.call (some "FLOAT") [e]) := by
  have hf : Builtin.ofName? (Text.upper "FLOAT") = some .float := by decide
  simp only [write, call, hf, operands]
  rfl

theorem leftSide_of_ne (h : op ≠ .div) (e : Expr) : leftSide op e = e := by
  cases op
  case div => exact absurd rfl h
  all_goals rfl

theorem sqlOf_plus_left (ho : infixOf? d op = some o) (h : plusVanishes op false e.canonical = true) :
    sqlOf d names (.binary op (.unary .plus e) x) = sqlOf d names (.binary op e x) := by
  rw [sqlOf, sqlOf, Expr.operand, Expr.operand, canonical_infixOp ho, canonical_infixOp ho, Expr.canonical_unary]
  refine congrArg Noted.result (binary_eq_of_sides (infixOf_unified ho) ?_ rfl)
  by_cases hdiv : op = .div
  · subst hdiv
    have hn : e.canonical.calledName ≠ some "FLOAT" := by simpa [plusVanishes] using h
    have hp : (Expr.unary .plus e.canonical).calledName ≠ some "FLOAT" := by simp [Expr.calledName]
    simp only [leftSide, if_neg hn, if_neg hp, write_float_plus]
    rfl
  · rw [leftSide_of_ne hdiv, leftSide_of_ne hdiv]
    exact sideOf_plus (by simpa [plusVanishes, hdiv] using h)

theorem sqlOf_plus_right (ho : infixOf? d op = some o) (h : plusVanishes op true e.canonical = true) :
    sqlOf d names (.binary op x (.unary .plus e)) = sqlOf d names (.binary op x e) := by
  have hc : clashesUnder (unified op) true e.canonical = false := by simpa [plusVanishes] using h
  rw [sqlOf, sqlOf, Expr.operand, Expr.operand, canonical_infixOp ho, canonical_infixOp ho]
  exact congrArg Noted.result (binary_eq_of_sides (infixOf_unified ho) rfl (sideOf_plus hc))

theorem operators_not_under (op : BinaryOp) (right : Bool) :
    ((sketchOf d (.unary .not e)).under d op right).operators =
      if op.isLogical = true ∨ d.predicatesAreValues = true then [.not] else [] := by
  have hface : (sketchOf d (.unary .not e)).face = .not ((sketchOf d e).condition d) := rfl
  have hc : clashesUnder op right (sketchOf d (.unary .not e)).expr = false := rfl
  cases hl : op.isLogical <;> cases hd : d.predicatesAreValues <;>
    simp [Sketch.under, Sketch.conditionUnder, Sketch.valueUnder, hface, hc, hl, hd, Face.groupIf, Face.asCondition,
      Face.asValue, Face.not, Face.closed]

theorem unbroken_not_under (op : BinaryOp) (p : Nat) :
    unbroken p ((sketchOf d (.unary .not e)).under d op true).operators = true := by
  rw [operators_not_under]
  split <;> rfl

theorem level_le_not_iff (ho : infixOf? d op = some o) :
    o.level ≤ Operator.not.level ↔ op.isLogical = true := by
  cases op
  case concat | other => simp [infixOf?] at ho
  case mod =>
    obtain ⟨-, rfl⟩ : d.hasPercent = true ∧ InfixOp.mod = o := by simpa [infixOf?] using ho
    decide
  all_goals
    obtain rfl := Option.some.inj ho
    decide

/-- Only AND and OR take NOT as their left side, unless it is turned into a value. -/
theorem not_left_iff (ho : infixOf? d op = some o) :
    (∀ u ∈ ((leftSketch d op (.unary .not e)).under d (unified op) false).operators, o.level ≤ u.level) ↔
      op.isLogical = true ∨ d.predicatesAreValues = false ∨ op = .div := by
  by_cases hdiv : op = .div
  · have hface : (leftSketch d op (.unary .not e)).face.operators = [] := by
      rw [hdiv]
      rfl
    have hlt := level_lt_of_minus (s := leftSketch d op (.unary .not e)) (by simp [hface]) (infixOf_unified ho) false
    exact iff_of_true (fun u hu => (hlt u hu).le) (.inr (.inr hdiv))
  · have hleft : leftSketch d op (.unary .not e) = sketchOf d (.unary .not e) := by
      rw [leftSketch, leftSide_of_ne hdiv]
      rfl
    have hlog : (unified op).isLogical = op.isLogical := by cases op <;> rfl
    rw [hleft, operators_not_under, hlog]
    cases hl : op.isLogical <;> cases hd : d.predicatesAreValues <;> simp [hdiv, level_le_not_iff ho, hl]

/-- A minus sign shows itself and what its operand shows, which is nothing if it is in parentheses. -/
theorem minus_shows (h : isOperation e.canonical = true ∨ ∀ v ∈ (sketchOf d e).face.operators, v = .minus) :
    ∀ v ∈ (sketchOf d (.unary .minus e)).face.operators, v = .minus := by
  have hface : (sketchOf d (.unary .minus e)).face = unaryFace d noSign .minus (sketchOf d e) := rfl
  have hexpr : (sketchOf d e).expr = e.canonical := rfl
  have hgrouped : ∀ v ∈ ((sketchOf d e).grouped d).operators, v = .minus := by
    rcases h with h | h
    · simp [Sketch.grouped, hexpr, h, Face.groupIf, Face.closed]
    · exact fun v hv => h v (operators_grouped_subset d _ hv)
  rw [hface, unaryFace]
  split
  · simp
  · simpa [Face.minus] using hgrouped

/-- Prefix operators: what they take as their operand, when they are kept whole as an operand, and where a
plus sign makes no difference. -/
theorem prefix_kept_whole {u : UnaryOp} (hu : ∀ s, u ≠ .other s) (he : e.Worded) (hx : x.Worded) (d : Dialect)
    (names : Naming) :
    PrefixLaw d names e ∧ OperandLaw d names (.unary u e) x ∧ PrefixLaw d names (.unary u e) ∧
      ((isOperation e.canonical = true ∨ ∀ v ∈ (sketchOf d e).face.operators, v = .minus) →
        ClosedOperand d names (.unary .minus e) x) ∧
      (∀ op o, infixOf? d op = some o →
        (KeepsLeft d o (sqlOf d names (.binary op (.unary .not e) x))
          (sideOf d (unified op) false (leftOperand d names op (.unary .not e))).result ↔
          minusesMeet d (.binary op (.unary .not e) x) = false ∧
            (op.isLogical = true ∨ d.predicatesAreValues = false ∨ op = .div)) ∧
        (KeepsRight d o (sqlOf d names (.binary op x (.unary .not e)))
          (sideOf d (unified op) true ((Expr.unary .not e).operand d names)).result ↔
          minusesMeet d (.binary op x (.unary .not e)) = false)) ∧
      (sketchOf d (.unary .plus e)).face = (sketchOf d e).face ∧
      ∀ op o, infixOf? d op = some o →
        (plusVanishes op false e.canonical = true →
          sqlOf d names (.binary op (.unary .plus e) x) = sqlOf d names (.binary op e x)) ∧
        (plusVanishes op true e.canonical = true →
          sqlOf d names (.binary op x (.unary .plus e)) = sqlOf d names (.binary op x e)) := by
  have hprefixed {v : UnaryOp} (hv : ∀ s, v ≠ .other s) : (Expr.unary v e).Worded := .unary hv he
  have hnot : OperandLaw d names (.unary .not e) x := operandLaw (hprefixed (by simp)) hx
  refine ⟨prefixLaw he, operandLaw (hprefixed hu) hx, prefixLaw (hprefixed hu), ?_, ?_, rfl, ?_⟩
  · exact fun h => closedOperand (hprefixed (by simp)) hx (minus_shows h)
  · intro op o ho
    rw [hnot.left op o ho, not_left_iff ho, hnot.right op o ho]
    exact ⟨Iff.rfl, and_iff_left (unbroken_not_under _ _)⟩
  · exact fun op o ho => ⟨sqlOf_plus_left ho, sqlOf_plus_right ho⟩

/-- `-(a + b) * c` keeps its left operand. -/
theorem minus_operand_kept :
    let sum : Expr := .binary .add (.column "a") (.column "b")
    isOperation sum.canonical = true ∧
      KeepsLeft .sqlite .mul (sqlOf .sqlite .default (.binary .mul (.unary .minus sum) (.column "c")))
        (sideOf .sqlite .mul false ((Expr.unary .minus sum).operand .sqlite .default)).result := by
  intro sum
  have hsum : sum.Worded := .binary nofun (.column trivial) (.column trivial)
  have hminus := prefix_kept_whole (u := .minus) nofun hsum (x := .column "c") (.column trivial) .sqlite .default
  exact ⟨rfl, ((hminus.2.2.2.1 (.inl rfl)).left .mul .mul rfl).2 (by decide)⟩

/-- `+(a + b) * c` loses its parentheses and is taken apart, and so is `!a = b` in SQLite. -/
theorem plus_and_not_taken_apart :
    let sum : Expr := .binary .add (.column "a") (.column "b")
    let product : Expr := .binary .mul (.unary .plus sum) (.column "c")
    let equation : Expr := .binary .eq (.unary .not (.column "a")) (.column "b")
    let side (op : BinaryOp) (e : Expr) := (sideOf .sqlite op false (e.operand .sqlite .default)).result
    ((sqlOf .sqlite .default product).text = "\"a\" + \"b\" * \"c\"" ∧
      ¬ KeepsLeft .sqlite .mul (sqlOf .sqlite .default product) (side .mul (.unary .plus sum))) ∧
    (sqlOf .sqlite .default equation).text = "NOT (\"a\") = \"b\"" ∧
      ¬ KeepsLeft .sqlite .eq (sqlOf .sqlite .default equation) (side .eq (.unary .not (.column "a"))) := by
  intro sum product equation side
  have hsum : sum.Worded := .binary nofun (.column trivial) (.column trivial)
  have hplus : OperandLaw .sqlite .default (.unary .plus sum) (.column "c") :=
    operandLaw (.unary nofun hsum) (.column trivial)
  have hnot : OperandLaw .sqlite .default (.unary .not (.column "a")) (.column "b") :=
    operandLaw (.unary nofun (.column trivial)) (.column trivial)
  refine ⟨⟨by decide, fun h => ?_⟩, by decide, fun h => ?_⟩
  · obtain ⟨-, hlevel⟩ := (hplus.left .mul .mul rfl).1 h
    exact absurd (hlevel (.between .add) (by decide)) (by decide)
  · obtain ⟨-, hlevel⟩ := (hnot.left .eq .eq rfl).1 h
    exact absurd (hlevel .not (by decide)) (by decide)

end

end SheetQuery.Sql
