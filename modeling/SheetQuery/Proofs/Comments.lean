import SheetQuery.Proofs.Bindings
import SheetQuery.Proofs.FormulaText
import SheetQuery.Proofs.OperandLaws

/-! Comments in compiled SQL. Two minus signs that meet begin one, and nothing else does: they meet where a
minus sign is put before an operand that shows one and gets no parentheses, and in line also where the literal
of a number below zero follows one. -/

namespace SheetQuery

namespace Sql

variable {d : Dialect} {neg : Binding → Bool} {f : Fragment} {b : Bool} {names : Naming} {e : Expr}

/-- Whether two minus signs meet in the SQL of an expression whose values are written in. -/
def signsMeet (d : Dialect) (e : Expr) : Bool := (face d isNegative e.canonical).comment

theorem signsNegatives_isNegative : SignsNegatives isNegative := fun _ h => h

/-- A fragment laid out in two ways has the same text with values in either. -/
theorem Inside.comment_inline {g : Doc} (h : Inside d isNegative f b) (hs : Spells d f g)
    (hn : ∀ n ∈ g.names, isSealed d n = true) : hasComment d .outside (f.inline d).toList = b := by
  obtain ⟨g', hs', rfl⟩ := h
  have hsame : g.charsWith d (literalChars d) = g'.charsWith d (literalChars d) :=
    Option.some.inj (hs.substituted_eq.symm.trans hs'.substituted_eq)
  have hc := hasComment_charsWith d (tame_literal d) g' Separated.nil
  rw [List.append_nil, hasComment, Bool.or_false] at hc
  rw [hs.inline_eq hn, hsame, hc]

theorem Inside.comment_text (h : Inside d noSign f b) : hasComment d .outside f.text.toList = b := by
  obtain ⟨g, hs, rfl⟩ := h
  exact hs.hasComment_eq

theorem operand_matches (he : e.Worded) (hneg : SignsNegatives neg) :
    Matches d neg (e.operand d names) ⟨e.canonical, face d neg e.canonical⟩ :=
  ⟨rfl, write_drawn hneg he.canonical⟩

/-- The name of the result adds no minus sign. -/
theorem compile_inside (he : e.Worded) (hneg : SignsNegatives neg) :
    Inside d neg (e.compile d names).fragment (face d neg e.canonical).comment := by
  have m : Matches d neg (e.operand d names) _ := operand_matches he hneg
  obtain ⟨g, hs, hc⟩ := m.value.inside
  rw [Sketch.comment_value] at hc
  refine ⟨g.under names.outputName, Spells.under hs, ?_⟩
  rw [← hc]
  cases names.outputName <;> simp [Doc.under]

theorem compileCondition_inside (he : e.Worded) (hneg : SignsNegatives neg) :
    Inside d neg (e.compileCondition d names).fragment (face d neg e.canonical).comment := by
  have m : Matches d neg (e.operand d names) _ := operand_matches he hneg
  have hi := m.condition.inside
  rwa [Sketch.comment_condition] at hi

end Sql

namespace Expr

open Sql

variable {d : Dialect} {names : Naming} {e : Expr}

/-- The SQL of a parsed formula has a comment exactly if two minus signs meet in it; in line, provided every
name in quotes is sealed, exactly if they meet in it once its values are written in. -/
theorem comment_iff_minuses_meet {text : String} (h : Expr.parse text = .ok e) (d : Dialect) (names : Naming) :
    hasComment d .outside (e.compile d names).fragment.text.toList = minusesMeet d e ∧
    hasComment d .outside (e.compileCondition d names).fragment.text.toList = minusesMeet d e ∧
    (names.All (isSealed d · = true) → e.Everywhere (NamedBy (isSealed d · = true)) →
      hasComment d .outside ((e.compile d names).fragment.inline d).toList = signsMeet d e ∧
      hasComment d .outside ((e.compileCondition d names).fragment.inline d).toList = signsMeet d e) := by
  have he : e.Worded := worded_of_parse h
  refine ⟨(compile_inside he signsNegatives_noSign).comment_text,
    (compileCondition_inside he signsNegatives_noSign).comment_text, fun hn hc => ?_⟩
  have hm : e.Everywhere (Rules.naming True (isSealed d · = true)).Meets :=
    (hc.and he).imp fun _ h => h.1.meets fun _ => h.2
  obtain ⟨g, hg, hs⟩ := compile_laid_out hn.tableAlias hn.recordIdColumn id hm (.inl trivial)
  obtain ⟨g', hg', hs'⟩ := compileCondition_laid_out hn.tableAlias hn.recordIdColumn id hm (.inl trivial)
  exact ⟨(compile_inside he signsNegatives_isNegative).comment_inline hs (Doc.names_under hg.names hn.outputName),
    (compileCondition_inside he signsNegatives_isNegative).comment_inline hs' hg'.names⟩

/-- `a - -b` has two minus signs with a space between them. -/
theorem comment_iff_minuses_meet_spaced :
    let e : Expr := .binary .sub (.column "a") (.unary .minus (.column "b"))
    Expr.parse "a - -b" = .ok e ∧ minusesMeet .sqlite e = false ∧ signsMeet .sqlite e = false ∧
      hasComment .sqlite .outside (e.compile .sqlite .default).fragment.text.toList = false ∧
      hasComment .sqlite .outside ((e.compile .sqlite .default).fragment.inline .sqlite).toList = false := by
  intro e
  have hscan : Lexer.scan "a - -b" = .ok ⟨[⟨.name "a", 0⟩, ⟨.op .sub, 2⟩, ⟨.op .sub, 4⟩, ⟨.name "b", 5⟩], 6⟩ := by
    rfl
  have h : Expr.parse "a - -b" = .ok e := (parse_of_scan hscan).trans (by cbv)
  have hm : minusesMeet .sqlite e = false := by decide
  have hs : signsMeet .sqlite e = false := by decide
  have hnames : Naming.default.All (isSealed .sqlite · = true) :=
    ⟨by simp [Naming.default], by simp [Naming.default], by decide⟩
  have hcolumns : e.Everywhere (NamedBy (isSealed .sqlite · = true)) :=
    .binary trivial (.column rfl) (.unary trivial (.column rfl))
  obtain ⟨htext, -, hinline⟩ := comment_iff_minuses_meet h .sqlite .default
  exact ⟨h, hm, hs, htext.trans hm, (hinline hnames hcolumns).1.trans hs⟩

/-- A plus sign between two minus signs leaves no trace, and neither does MIN of one argument. -/
theorem minuses_meet_across_plus :
    let e : Expr := .unary .minus (.unary .plus (.unary .minus (.column "a")))
    let e' : Expr := .unary .minus (.call (some "MIN") [.unary .minus (.column "a")])
    Expr.parse "-+-a" = .ok e ∧ (e.compile .sqlite .default).fragment.text = "--\"a\"" ∧
      Expr.parse "-MIN(-a)" = .ok e' ∧ (e'.compile .sqlite .default).fragment.text = "--\"a\"" ∧
      hasComment .sqlite .outside "--\"a\"".toList = true := by
  intro e e'
  have hplus : Lexer.scan "-+-a" = .ok ⟨[⟨.op .sub, 0⟩, ⟨.op .add, 1⟩, ⟨.op .sub, 2⟩, ⟨.name "a", 3⟩], 4⟩ := by rfl
  have hmin : Lexer.scan "-MIN(-a)" = .ok ⟨[⟨.op .sub, 0⟩, ⟨.name "MIN", 1⟩, ⟨.openParen, 4⟩, ⟨.op .sub, 5⟩,
      ⟨.name "a", 6⟩, ⟨.closeParen, 7⟩], 8⟩ := by rfl
  exact ⟨(parse_of_scan hplus).trans (by cbv), by decide, (parse_of_scan hmin).trans (by cbv), by decide, by decide⟩

end Expr

end SheetQuery
