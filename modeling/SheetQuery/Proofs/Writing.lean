import SheetQuery.Compile
import SheetQuery.Proofs.Calls.Table
import SheetQuery.Proofs.Everywhere

/-! The SQL of every expression is laid out as one expression and shows the face that `face` gives it. -/

namespace SheetQuery

/-- An operator of the language, or a call whose name is a word. -/
def Expr.IsWorded : Expr → Prop
  | .binary op _ _ => ∀ s, op ≠ .other s
  | .unary op _ => ∀ s, op ≠ .other s
  | .call name _ => ∀ n, name = some n → n.toList ≠ [] ∧ ∀ c ∈ n.toList, Sql.isWordChar c = true
  | _ => True

/-- An expression with the operators of the language, in which the names of functions are words. -/
abbrev Expr.Worded (e : Expr) : Prop := e.Everywhere Expr.IsWorded

namespace Sql

variable {d : Dialect} {neg : Binding → Bool} {names : Naming} {x y : Operand} {s t : Sketch}

/-- An operator stands between its two sides. -/
theorem binary_spelled {op : BinaryOp} {o : InfixOp} (ho : infixOf? d op = some o) {g g' : Doc}
    (hl : Spells d (sideOf d op false x).result g) (hr : Spells d (sideOf d op true y).result g') :
    Spells d (binary d op x y).result (.binary o g g') := by
  cases op
  case concat | other => simp [infixOf?] at ho
  case mod =>
    obtain ⟨hd, rfl⟩ : d.hasPercent = true ∧ InfixOp.mod = o := by simpa [infixOf?] using ho
    simp only [binary, hd, if_true]
    exact .binary .mod (by simp [BinaryOp.symbol, InfixOp.text]) rfl hl hr
  case add | sub | mul | div =>
    obtain rfl := Option.some.inj ho
    exact .binary _ (by simp [BinaryOp.symbol, InfixOp.text]) rfl hl hr
  all_goals
    obtain rfl := Option.some.inj ho
    exact (Spells.binary _ (by simp [BinaryOp.symbol, InfixOp.text]) rfl hl hr).asPredicate

theorem isPredicate_binary {op : BinaryOp} {o : InfixOp} (ho : infixOf? d op = some o) :
    (binary d op x y).result.isPredicate = (op.isLogical || op.isComparison) := by
  cases op
  case concat | other => simp [infixOf?] at ho
  case mod =>
    obtain ⟨hd, -⟩ : d.hasPercent = true ∧ InfixOp.mod = o := by simpa [infixOf?] using ho
    simp only [binary, hd, if_true]
    rfl
  all_goals rfl

theorem binaryFace_infixOp {op : BinaryOp} {o : InfixOp} (ho : infixOf? d op = some o) (s t : Sketch) :
    binaryFace d op s t = { Face.binary o (s.under d op false) (t.under d op true) with
      predicate := op.isLogical || op.isComparison } := by
  cases op
  case concat | other => simp [infixOf?] at ho
  all_goals simp [binaryFace, ho, BinaryOp.isLogical, BinaryOp.isComparison, Face.asPredicate, Face.binary]

section
variable (m : Matches d neg x s) (m' : Matches d neg y t)
include m m'

theorem infix_drawn {op : BinaryOp} {o : InfixOp} (ho : infixOf? d op = some o) :
    Drawn d neg (binary d op x y).result (binaryFace d op s t) := by
  obtain ⟨g, hg, hs, hf⟩ := m.side op false
  obtain ⟨g', hg', hs', hf'⟩ := m'.side op true
  refine ⟨.binary o g g', by simp [Doc.isExpr, hg, hg'], binary_spelled ho hs hs', ?_⟩
  rw [binaryFace_infixOp ho, isPredicate_binary ho, ← hf, ← hf']
  rfl

/-- The remainder where it is a function. -/
theorem remainder_drawn (hd : d.hasPercent = false) :
    Drawn d neg (binary d .mod x y).result (binaryFace d .mod s t) := by
  have hf : binaryFace d .mod s t = .closed (anyComment [s, t]) := by simp [binaryFace, infixOf?, hd]
  obtain ⟨g, hg, hc⟩ := m.value.inside
  obtain ⟨g', hg', hc'⟩ := m'.value.inside
  rw [hf]
  refine Closed.value (.of_bracket (.call (.of "MOD" (by decide)) (.listed g g')) rfl ⟨?_, ?_⟩ ?_) ?_
  · simp [binary, remainder, hd, hg.text, hg'.text]
  · simp [binary, remainder, hd, hg.bindings, hg'.bindings]
  · simp [hc, hc', anyComment]
  · simp [binary, remainder, hd]

theorem binary_drawn {op : BinaryOp} (hop : ∀ s, op ≠ .other s) :
    Drawn d neg (binary d op x y).result (binaryFace d op s t) := by
  cases ho : infixOf? d op with
  | some o => exact infix_drawn m m' ho
  | none =>
    cases op
    case concat => exact concat_drawn (.cons m (.cons m' .nil))
    case mod => exact remainder_drawn m m' (by simpa [infixOf?] using ho)
    case other s => exact absurd rfl (hop s)
    all_goals simp [infixOf?] at ho

end

theorem Drawn.minus {f : Fragment} {φ : Face} (h : Drawn d neg f φ) : Drawn d neg ("-" ++ f) φ.minus := by
  obtain ⟨g, hg, hs, rfl⟩ := h
  refine ⟨.minus g, hg, ⟨?_, ?_⟩, rfl⟩
  · simp [hs.text]
  · simp [hs.bindings]

theorem unary_drawn {op : UnaryOp} (hop : ∀ s, op ≠ .other s) (m : Matches d neg x s) :
    Drawn d neg (unary d op x).result (unaryFace d neg op s) := by
  cases op with
  | minus =>
    simp only [unary, unaryFace, m.expr]
    cases hn : s.expr.asNumber? with
    | some n => exact ⟨.value (.number n.neg), rfl, .bind _, rfl⟩
    | none => exact m.grouped.minus
  | plus => exact m.drawn
  | not =>
    obtain ⟨g, hg, hc⟩ := m.condition.inside
    refine ⟨.not (.parens g), rfl, ⟨?_, ?_⟩, ?_⟩
    · simp [unary, hg.text]
    · simp [unary, hg.bindings]
    · simp [unary, unaryFace, Face.not, Doc.face, Doc.operators, hc]
  | other s => exact absurd rfl (hop s)

theorem call_drawn {name : Option String} {args : List Operand} {ss : List Sketch}
    (hn : ∀ n, name = some n → n.toList ≠ [] ∧ ∀ c ∈ n.toList, isWordChar c = true)
    (m : MatchesAll d neg args ss) (hs : LiteralsPlain ss) (hneg : SignsNegatives neg) :
    Drawn d neg (call d names name args).result (callFace d neg name ss) := by
  cases name with
  | none => exact Matches.null.drawn
  | some n =>
    simp only [call, callFace]
    cases Builtin.ofName? (Text.upper n) with
    | some f => exact entry_drawn m names hs hneg f
    | none => exact (nativeCall_closed m ⟨n, (hn n rfl).1, (hn n rfl).2⟩).value rfl

/-- The SQL of a literal is one value or a word. -/
theorem comment_face_of_literal {e : Expr} (h : e.asText?.isSome ∨ e.asNumber?.isSome) :
    (face d neg e).comment = false := by
  induction e using Expr.induct with
  | literal v => cases v <;> rfl
  | column n => rfl
  | unary op e ih =>
    cases op with
    | minus =>
      obtain ⟨n, hn⟩ : ∃ n, e.asNumber? = some n := by
        simpa [Expr.asText?, Expr.asNumber?, Option.isSome_iff_exists] using h
      simp [face, unaryFace, hn]
    | plus => exact ih (.inr (by simpa [Expr.asText?, Expr.asNumber?] using h))
    | not => simp [Expr.asText?, Expr.asNumber?] at h
    | other s => simp [Expr.asText?, Expr.asNumber?] at h
  | binary op l r => simp [Expr.asText?, Expr.asNumber?] at h
  | call n args => simp [Expr.asText?, Expr.asNumber?] at h
  | unsupported k => rfl

theorem literalsPlain_sketches (es : List Expr) : LiteralsPlain (sketches d neg es) := by
  induction es with
  | nil => simp [sketches, LiteralsPlain]
  | cons e es ih =>
    intro s hs
    rcases List.mem_cons.1 hs with rfl | hs
    · exact comment_face_of_literal
    · exact ih s hs

theorem operands_eq_map (es : List Expr) :
    operands d names es = es.map fun e => ⟨e, write d names e⟩ := by
  induction es with
  | nil => rfl
  | cons e es ih => rw [operands, ih, List.map_cons]

theorem sketches_eq_map (es : List Expr) : sketches d neg es = es.map fun e => ⟨e, face d neg e⟩ := by
  induction es with
  | nil => rfl
  | cons e es ih => rw [sketches, ih, List.map_cons]

theorem write_concat (es : List Expr) : (write d names (.call (some "CONCAT") es)).result =
    (concat d (es.map fun e => ⟨e, write d names e⟩)).result := by
  have hf : Builtin.ofName? (Text.upper "CONCAT") = some .concat := by decide
  simp only [write, call, hf, operands_eq_map]
  cases d <;> rfl

theorem face_concat (es : List Expr) : face d neg (.call (some "CONCAT") es) =
    concatFace d (es.map fun e => ⟨e, face d neg e⟩) := by
  have hf : Builtin.ofName? (Text.upper "CONCAT") = some .concat := by decide
  simp only [face, callFace, hf, sketches_eq_map, builtinFace]

/-- The SQL of an expression shows its face. -/
theorem write_drawn (hneg : SignsNegatives neg) {e : Expr} (he : e.Worded) :
    Drawn d neg (write d names e).result (face d neg e) := by
  induction e using Expr.induct with
  | literal v => exact (Matches.literal v).drawn
  | column n => exact (column_closed names n).value (isPredicate_columnText names n)
  | unsupported k => exact Matches.null.drawn
  | binary op l r ihl ihr =>
    cases he with
    | binary known left right => exact binary_drawn ⟨rfl, ihl left⟩ ⟨rfl, ihr right⟩ known
  | unary op e ih =>
    cases he with
    | unary known operand => exact unary_drawn known ⟨rfl, ih operand⟩
  | call n args ih =>
    cases he with
    | call named parts =>
      have m : MatchesAll d neg (operands d names args) (sketches d neg args) := by
        clear named
        induction args with
        | nil => exact .nil
        | cons e es ihs =>
          exact .cons ⟨rfl, ih e (by simp) (parts e (by simp))⟩
            (ihs (fun a ha => ih a (by simp [ha])) fun a ha => parts a (by simp [ha]))
      exact call_drawn named m (literalsPlain_sketches args) hneg

end Sql

end SheetQuery
