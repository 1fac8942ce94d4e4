import SheetQuery.Proofs.Layouts.Arithmetic
import SheetQuery.Proofs.Placement

/-! The numeric functions close around their arguments, sums and averages apart: those hand on what `+` and
`/` show. -/

namespace SheetQuery.Sql

variable {d : Dialect} {neg : Binding → Bool} {args : List Operand} {f : Fragment} {b c : Bool}

@[simp]
theorem comment_floatDoc : (floatDoc d).comment neg = false := by
  cases d <;> simp [floatDoc]

@[simp]
theorem comment_textDoc : (textDoc d).comment neg = false := by
  cases d <;> simp [textDoc]

@[simp]
theorem comment_countDoc (n : Nat) : (countDoc n).comment neg = false := rfl

theorem castFloat_closed (h : Inside d neg f b) : Closed d neg (castFloat d f) b := by
  obtain ⟨g, hs, rfl⟩ := h
  exact .of_bracket _ rfl hs.castFloat (by simp)

theorem round_closed (h₀ : Inside d neg (arg d args 0).result b)
    (h₁ : Inside d neg (precision d args).result c) : Closed d neg (round d args).result (b || c) := by
  obtain ⟨v, hv, rfl⟩ := h₀
  obtain ⟨p, hp, rfl⟩ := h₁
  refine .of_bracket _ ?_ (.round hv hp) ?_ <;> cases d <;> simp [Doc.round, Doc.isBracket]

namespace Doc

theorem isBracket_roundedUp (g : Doc) : (roundedUp d g).isBracket = true := by cases d <;> rfl

theorem isBracket_roundedDown (g : Doc) : (roundedDown d g).isBracket = true := by cases d <;> rfl

@[simp]
theorem comment_roundedUp (g : Doc) : (roundedUp d g).comment neg = g.comment neg := by
  cases d <;> simp [roundedUp]

@[simp]
theorem comment_roundedDown (g : Doc) : (roundedDown d g).comment neg = g.comment neg := by
  cases d <;> simp [roundedDown]

end Doc

theorem roundedUp_closed (h : Inside d neg f b) : Closed d neg (roundedUp d f) b := by
  obtain ⟨v, hv, rfl⟩ := h
  exact .of_bracket _ v.isBracket_roundedUp hv.roundedUp (by simp)

theorem roundedDown_closed (h : Inside d neg f b) : Closed d neg (roundedDown d f) b := by
  obtain ⟨v, hv, rfl⟩ := h
  exact .of_bracket _ v.isBracket_roundedDown hv.roundedDown (by simp)

theorem roundTowards_closed {direction : Dialect → Fragment → Fragment} {layout : Doc → Doc}
    (hd : ∀ f g, Spells d f g → Spells d (direction d f) (layout g))
    (hc : ∀ g, (layout g).comment neg = g.comment neg) (h₀ : Inside d neg (groupedArg d args 0).result b)
    (h₁ : Inside d neg (precision d args).result c) :
    Closed d neg (roundTowards direction d args).result (b || c) := by
  obtain ⟨v, hv, rfl⟩ := h₀
  obtain ⟨p, hp, rfl⟩ := h₁
  exact .of_bracket _ rfl (.roundTowards hd hv hp) (by simp [Doc.roundTowards, Doc.powerOfTen, hc])

theorem even_closed (h : Inside d neg (arg d args 0).result b) : Closed d neg (even d args).result b := by
  obtain ⟨v, hv, rfl⟩ := h
  exact .of_bracket _ rfl hv.even (by simp [Doc.even, Doc.bySign])

theorem odd_closed (h : Inside d neg (arg d args 0).result b) : Closed d neg (odd d args).result b := by
  obtain ⟨v, hv, rfl⟩ := h
  exact .of_bracket _ rfl hv.odd (by simp [Doc.odd, Doc.bySign, Doc.halfBeside])

theorem groupedRemainder_closed {l r : Fragment} (hl : Inside d neg l b) (hr : Inside d neg r c) :
    Closed d neg (groupedRemainder d l r) (b || c) := by
  obtain ⟨g, hg, rfl⟩ := hl
  obtain ⟨g', hg', rfl⟩ := hr
  refine .of_bracket _ ?_ (hg.groupedRemainder hg') ?_ <;> unfold Doc.groupedRemainder <;> split <;> rfl

theorem modulo_closed (h₀ : Inside d neg (groupedArg d args 0).result b)
    (h₁ : Inside d neg (groupedArg d args 1).result c) : Closed d neg (modulo d args).result (b || c) :=
  groupedRemainder_closed h₀ h₁

theorem logarithm_closed (h₀ : Inside d neg (arg d args 0).result b)
    (h₁ : Inside d neg (arg d args 1).result c) (hc : args.length < 2 → c = false) :
    Closed d neg (logarithm d args).result (b || c) := by
  obtain ⟨v, hv, rfl⟩ := h₀
  obtain ⟨w, hw, rfl⟩ := h₁
  by_cases hl : args.length < 2
  · rw [hc hl, Bool.or_false]
    exact .of_bracket _ rfl (.naturalLog hl hv) rfl
  · refine .of_bracket _ rfl (.logToBase hl hv hw) ?_
    unfold Doc.logToBase
    split
    · exact Bool.or_comm _ _
    · rfl

theorem wholePart_closed (h : Inside d neg (arg d args 0).result b) :
    Closed d neg (wholePart d args).result b := by
  obtain ⟨v, hv, rfl⟩ := h
  refine .of_bracket _ ?_ hv.wholePart ?_ <;> cases d <;> simp [Doc.wholePart, Doc.cast, Doc.isBracket]

@[simp]
theorem Doc.comment_replaceAll (pairs : List (String × String)) (g : Doc) :
    (replaceAll pairs g).comment neg = g.comment neg := by
  induction pairs generalizing g with
  | nil => rfl
  | cons p ps ih =>
    have hp : (replaceIn p.1 p.2 g).comment neg = g.comment neg := by simp [replaceIn]
    exact (ih (replaceIn p.1 p.2 g)).trans hp

@[simp]
theorem Doc.comment_withoutMarks (g : Doc) : g.withoutMarks.comment neg = g.comment neg := by
  simp [withoutMarks]

theorem numberOfText_closed (h : Inside d neg (arg d args 0).result b) :
    Closed d neg (numberOfText d args).result b := by
  obtain ⟨v, hv, rfl⟩ := h
  refine .of_bracket _ ?_ hv.numberOfText ?_ <;> cases d <;>
    simp [Doc.numberOfText, Doc.withoutOthers, Doc.cast, Doc.isBracket]

section
variable {ss : List Sketch} {x : Operand} {s : Sketch}

theorem isPresent_inside (m : Matches d neg x s) : Inside d neg (isPresent d x).result s.face.comment := by
  obtain ⟨g, hg, hc⟩ := m.grouped.inside
  exact ⟨_, hg.isPresent, by simpa [Doc.isPresent] using hc⟩

theorem isFilled_inside (m : Matches d neg x s) : Inside d neg (isFilled d x).result s.face.comment := by
  obtain ⟨g, hg, hc⟩ := m.grouped.inside
  refine ⟨_, hg.isFilled, ?_⟩
  unfold Doc.isFilled
  split <;> simpa [Doc.isPresent] using hc

theorem Doc.comment_count (gs : List Doc) : (count gs).comment neg = gs.any (·.comment neg) := by
  cases gs with
  | nil => rfl
  | cons g gs => simp [count, comment_joined, Function.comp_def]

theorem Doc.face_count (neg : Binding → Bool) (gs : List Doc) (p : Bool) :
    (count gs).isExpr = true ∧
      (count gs).face neg p = { Face.closed ((count gs).comment neg) with predicate := p } := by
  cases gs with
  | nil => exact ⟨by decide, rfl⟩
  | cons g gs => exact ⟨rfl, rfl⟩

theorem countIf_closed {test : Operand → Noted Fragment}
    (ht : ∀ x s, Matches d neg x s → Inside d neg (test x).result s.face.comment)
    (m : MatchesAll d neg args ss) : Closed d neg (countIf test args).result (anyComment ss) := by
  obtain ⟨gs, hs, hc⟩ := m.inside ht
  obtain ⟨he, hf⟩ := Doc.face_count neg gs (countIf test args).result.isPredicate
  exact ⟨_, he, .countIf hs, by rw [hf, Doc.comment_count, hc]⟩

theorem extreme_closed (m : MatchesAll d neg args ss) (hl : args.length ≠ 1) (name aggregate : Word) :
    Closed d neg (extreme d name.text aggregate.text args).result (anyComment ss) := by
  obtain ⟨gs, hs, hc⟩ := MatchesAll.values m
  have hrows : (Doc.list (gs.map .parens)).comment neg = anyComment ss := by
    rw [comment_list, List.any_map, ← hc]
    rfl
  refine .of_bracket _ ?_ (.extreme name aggregate hs hl) ?_ <;> cases d <;>
    simp [Doc.extreme, Doc.overRows, Doc.isBracket, hrows, comment_list, hc]

/-- The operators on values that keep their symbol. -/
theorem Matches.joined {op : BinaryOp} {o : InfixOp} (ho : infixOf? d op = some o)
    (hs : op.symbol = o.text) (hn : (op.isLogical || op.isComparison) = false) (hc : op ≠ .concat)
    {y : Operand} {t : Sketch} (m : Matches d neg x s) (m' : Matches d neg y t) :
    Matches d neg (joined d op x y) ⟨.binary op s.expr t.expr, binaryFace d op s t⟩ where
  expr := by rw [Sql.joined, m.expr, m'.expr]
  drawn := by
    have hl : op.isLogical = false := (Bool.or_eq_false_iff.1 hn).1
    have hf : binaryFace d op s t = .binary o (s.valueUnder d op false) (t.valueUnder d op true) := by
      cases op <;> simp_all [binaryFace, Sketch.under]
    rw [hf]
    refine Drawn.binary o ?_ ?_ (m.valueUnder op false) (m'.valueUnder op true)
    · simp [hs]
    · rfl

theorem sumChain_matches (m : MatchesAll d neg args ss) :
    Matches d neg (sumChain d args) (sumSketch d ss) := by
  induction m with
  | nil => exact .null
  | cons h m ih =>
    cases m with
    | nil => exact h
    | cons h' m => exact .joined (o := .add) rfl rfl rfl (by simp) h ih

theorem sum_drawn (m : MatchesAll d neg args ss) :
    Drawn d neg (sum d args).result ((sumSketch d ss).value d) :=
  (sumChain_matches m).value

theorem MatchesAll.exprs (m : MatchesAll d neg args ss) :
    args.map Operand.expr = ss.map Sketch.expr := by
  induction m with
  | nil => rfl
  | cons h _ ih => rw [List.map_cons, List.map_cons, h.expr, ih]

theorem Matches.literal (v : Literal) : Matches d neg (.literal v) ⟨.literal v, literalFace neg v⟩ where
  expr := rfl
  drawn := by
    cases v with
    | number n => exact ⟨.value (.number n), rfl, .bind _, rfl⟩
    | text s => exact ⟨.value (.text s), rfl, .bind _, rfl⟩
    | boolean b => exact ⟨.value (.boolean b), rfl, .bind _, rfl⟩
    | null => exact Matches.null.drawn

theorem average_drawn (m : MatchesAll d neg args ss) :
    Drawn d neg (average d args).result (averageFace d neg ss) := by
  have hexprs := m.exprs
  have hlength := m.length_eq
  have hsum := sum_drawn m
  cases m with
  | nil => exact Matches.null.value
  | @cons x s args ss h m =>
    cases m with
    | nil => exact h.value
    | cons =>
      refine (Matches.joined (o := .div) rfl rfl rfl (by simp) ⟨?_, hsum⟩ ?_).value
      · rw [hexprs]
      · rw [← hlength]
        exact .literal _

end

end SheetQuery.Sql
