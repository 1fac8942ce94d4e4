import SheetQuery.Proofs.Calls.Arithmetic
import SheetQuery.Proofs.Layouts.Strings

/-! The functions on text close around their arguments. A concatenation of one part may hand it on, and
the last characters of a text are counted by a minus sign that can meet another. -/

namespace SheetQuery.Sql

variable {d : Dialect} {neg : Binding → Bool} {args : List Operand} {ss : List Sketch} {b c e : Bool}

theorem anyComment_singleton (s : Sketch) : anyComment [s] = s.face.comment := by
  simp [anyComment]

theorem concatFace_closed {d : Dialect} {ss : List Sketch} (h : ss.length ≠ 1 ∨ ¬ (d = .oracle ∨ d = .sqlite)) :
    concatFace d ss = .closed (anyComment ss) := by
  rw [concatFace.eq_def]
  split
  · rw [anyComment_singleton]
    simp_all
  · rfl

/-- A value that counts as the empty text if it is NULL. -/
theorem guarded_closed (w : Word) {o f : Fragment} (ho : o.text.toList = w.text.toList ++ ['('])
    (hb : o.bindings = []) (h : Inside d neg f b) : Closed d neg (o ++ f ++ ", '')") b := by
  obtain ⟨g, hg, rfl⟩ := h
  exact .of_bracket _ rfl (.guarded w ho hb hg) (by simp [Doc.guarded])

theorem concatPart_inside {x : Operand} {s : Sketch} (m : Matches d neg x s) :
    Inside d neg (concatPart d x) s.face.comment := by
  obtain ⟨g, hg, hc⟩ := m.grouped.inside
  refine ⟨_, hg.concatPart, ?_⟩
  unfold Doc.concatPart
  split <;> simpa [Doc.guarded] using hc

/-- A single part is handed on, or guarded against NULL. -/
theorem concatPart_drawn {x : Operand} {s : Sketch} (hd : d = .oracle ∨ d = .sqlite) (m : Matches d neg x s) :
    Drawn d neg (concatPart d x) (concatFace d [s]) := by
  unfold concatPart concatFace
  by_cases hn : d = .sqlite ∧ x.expr.calledName ≠ some "CONCAT"
  · obtain ⟨rfl, hn⟩ := hn
    have hg := m.grouped.inside
    rw [Sketch.comment_grouped] at hg
    have hc := (guarded_closed (o := .raw "COALESCE(") (.of "COALESCE" (by decide)) (by simp) rfl hg).value rfl
    simpa [hn, ← m.expr] using hc
  · have hf : d = .oracle ∨ d = .sqlite ∧ s.expr.calledName = some "CONCAT" := by
      rw [← m.expr]
      rcases hd with rfl | rfl
      · exact .inl rfl
      · exact .inr ⟨rfl, by simpa using hn⟩
    simp only [if_neg hn, if_pos hf]
    exact m.grouped

theorem Doc.isBracket_piped (neg : Binding → Bool) {gs : List Doc} (h : gs.length ≠ 1) :
    (piped gs).isBracket = true ∧ (piped gs).comment neg = gs.any (·.comment neg) := by
  match gs with
  | [] => exact ⟨rfl, rfl⟩
  | [g] => simp at h
  | g :: g' :: gs => exact ⟨rfl, comment_joined .pipe (g :: g' :: gs)⟩

theorem concat_drawn (m : MatchesAll d neg args ss) :
    Drawn d neg (concat d args).result (concatFace d ss) := by
  have hl := m.length_eq
  by_cases hd : d = .oracle ∨ d = .sqlite
  · by_cases hone : args.length = 1
    · obtain ⟨x, rfl⟩ := List.length_eq_one_iff.1 hone
      obtain ⟨s, rfl⟩ := List.length_eq_one_iff.1 (hl ▸ hone)
      have hx := concatPart_drawn hd (List.forall₂_cons.1 m).1
      rcases hd with rfl | rfl
      · exact hx
      · simpa [concat, piped, concatPart, apply_ite Noted.result] using hx
    · obtain ⟨gs, hs, hc⟩ := m.inside fun x s hx => concatPart_inside hx
      obtain ⟨hb, hcomment⟩ := Doc.isBracket_piped neg (hs.length_eq ▸ hone)
      rw [concatFace_closed (.inl (hl ▸ hone))]
      exact (Closed.of_bracket _ hb (.concat_piped hd hs) (hcomment.trans hc)).value isPredicate_concat
  · obtain ⟨gs, hs, hc⟩ := MatchesAll.values m
    rw [concatFace_closed (.inr hd)]
    refine (Closed.of_bracket _ rfl (.concat_called hd hs) ?_).value isPredicate_concat
    rw [Doc.comment, comment_list, ← hc]
    cases d
    case mysql => simp [Doc.concatParts, Doc.guarded, Function.comp_def]
    case mssql =>
      simp only [Doc.concatParts]
      split <;> simp
    all_goals rfl

theorem concat_value {ss : List Sketch} (m : MatchesAll d neg args ss) (hl : ss.length ≠ 1) :
    Drawn d neg (asValue d (concat d args).result) (.closed (anyComment ss)) := by
  have h := (concat_drawn m).asValue
  rw [concatFace_closed (.inl hl)] at h
  exact h

theorem link_drawn (m : MatchesAll d neg args ss) :
    Drawn d neg (link d args).result (.closed (anyComment (ss.take 2))) := by
  have hlit (t : String) : Matches d neg (.text t) ⟨.literal (.text t), literalFace neg (.text t)⟩ :=
    .literal _
  have htarget {x s} (h : Matches d neg x s) : MatchesAll d neg [.text "URI::(", x, .text ")"] _ :=
    .cons (hlit _) (.cons h (.cons (hlit _) .nil))
  cases m with
  | nil =>
    have hc := concat_value (htarget .null) (by simp)
    simpa [link, anyComment, literalFace, Sketch.null, Face.closed] using hc
  | cons h m =>
    cases m with
    | nil =>
      have hc := concat_value (htarget h) (by simp)
      simpa [link, anyComment, literalFace] using hc
    | cons h' m =>
      have hc := concat_value (List.rel_append (htarget h)
        (.cons (hlit " LABEL::(") (.cons h' (.cons (hlit ")") .nil)))) (by simp)
      simpa [link, anyComment, literalFace] using hc

theorem linkEncoded_closed (h : Inside d neg (arg d args 0).result b) :
    Closed d neg (linkEncoded d args).result b := by
  obtain ⟨v, hv, rfl⟩ := h
  exact .of_bracket _ rfl hv.linkEncoded (by simp)

theorem trimmed_closed (h : Inside d neg (arg d args 0).result b) :
    Closed d neg (trimmed d args).result b := by
  obtain ⟨v, hv, rfl⟩ := h
  exact .of_bracket _ rfl hv.trimmed rfl

theorem leading_closed (h₀ : Inside d neg (arg d args 0).result b)
    (h₁ : Inside d neg (arg d args 1).result c) : Closed d neg (leading d args).result (b || c) := by
  obtain ⟨v, hv, rfl⟩ := h₀
  obtain ⟨n, hn, rfl⟩ := h₁
  exact .of_bracket _ rfl (hv.leading hn) (by simp [Doc.leading])

/-- The minus sign of the count stands before whatever the argument begins with. -/
theorem trailing_closed (h₀ : Inside d neg (arg d args 0).result b) {φ : Face}
    (h₁ : Drawn d neg (groupedArg d args 1).result φ) :
    Closed d neg (trailing d args).result (b || φ.minus.comment) := by
  obtain ⟨v, hv, rfl⟩ := h₀
  obtain ⟨n, _, hn, rfl⟩ := h₁
  exact .of_bracket _ rfl (hv.trailing hn) rfl

theorem substring_closed (h₀ : Inside d neg (arg d args 0).result b)
    (h₁ : Inside d neg (arg d args 1).result c) (h₂ : Inside d neg (arg d args 2).result e)
    (he : args.length ≤ 2 → e = false) : Closed d neg (substring d args).result (b || (c || e)) := by
  obtain ⟨v, hv, rfl⟩ := h₀
  obtain ⟨n, hn, rfl⟩ := h₁
  obtain ⟨k, hk, rfl⟩ := h₂
  cases hi : args[2]? with
  | none =>
    rw [he (List.getElem?_eq_none_iff.1 hi)]
    exact .of_bracket _ rfl (hv.substring hn (by simp [hi]) fun _ => rfl)
      (by simp [Doc.substring, Bool.or_comm])
  | some x =>
    have hx : (x.value d).result = (arg d args 2).result := by simp [arg, hi]
    exact .of_bracket _ rfl (hv.substring hn (by simpa [hi, hx] using hk) (by simp [hi])) rfl

theorem search_closed (h₀ : Inside d neg (arg d args 0).result b)
    (h₁ : Inside d neg (arg d args 1).result c) : Closed d neg (search d args).result (b || c) := by
  obtain ⟨v, hv, rfl⟩ := h₀
  obtain ⟨w, hw, rfl⟩ := h₁
  refine .of_bracket _ ?_ (hv.search hw) ?_ <;> cases d <;> simp [Doc.search, Doc.isBracket, Bool.or_comm]

theorem repeated_closed (h₀ : Inside d neg (arg d args 0).result b)
    (h₁ : Inside d neg (arg d args 1).result c) (h₂ : Inside d neg (groupedArg d args 1).result c) :
    Closed d neg (repeated d args).result (b || c) := by
  obtain ⟨v, hv, rfl⟩ := h₀
  obtain ⟨n, hn, rfl⟩ := h₁
  obtain ⟨k, hk, hkc⟩ := h₂
  by_cases hd : d = .oracle
  · refine .of_bracket _ rfl (hv.padded hd hk) ?_
    simp only [Doc.padded, Doc.comment, hkc]
    cases v.comment neg <;> simp
  · exact .of_bracket _ rfl (hv.zeroes hn hd) (by simp [Doc.zeroes, Bool.or_comm])

theorem patternMatch_closed (h₀ : Inside d neg (arg d args 0).result b)
    (h₁ : Inside d neg (arg d args 1).result c) (g₀ : Inside d neg (groupedArg d args 0).result b)
    (g₁ : Inside d neg (groupedArg d args 1).result c) :
    Closed d neg (patternMatch d args).result (b || c) := by
  have hmatch (v w : Doc) : (v.patternMatch d w).isBracket = true ∧
      (v.patternMatch d w).comment neg = (v.comment neg || w.comment neg) := by
    cases d <;> exact ⟨rfl, rfl⟩
  by_cases hd : d = .postgres ∨ d = .sqlite
  · obtain ⟨v, hv, rfl⟩ := g₀
    obtain ⟨w, hw, rfl⟩ := g₁
    exact .of_bracket _ (hmatch v w).1 (.patternMatch_grouped hd hv hw) (hmatch v w).2
  · obtain ⟨v, hv, rfl⟩ := h₀
    obtain ⟨w, hw, rfl⟩ := h₁
    exact .of_bracket _ (hmatch v w).1 (hv.patternMatch hw (not_or.1 hd)) (hmatch v w).2

theorem patternExtract_closed (h₀ : Inside d neg (arg d args 0).result b)
    (h₁ : Inside d neg (arg d args 1).result c) : Closed d neg (patternExtract d args).result (b || c) := by
  obtain ⟨v, hv, rfl⟩ := h₀
  obtain ⟨w, hw, rfl⟩ := h₁
  exact .of_bracket _ rfl (hv.patternExtract hw) (by simp [Doc.patternExtract])

theorem patternReplace_closed (h₀ : Inside d neg (arg d args 0).result b)
    (h₁ : Inside d neg (arg d args 1).result c) (h₂ : Inside d neg (arg d args 2).result e) :
    Closed d neg (patternReplace d args).result (b || (c || e)) := by
  obtain ⟨v, hv, rfl⟩ := h₀
  obtain ⟨w, hw, rfl⟩ := h₁
  obtain ⟨r, hr, rfl⟩ := h₂
  exact .of_bracket _ rfl (hv.patternReplace hw hr) (by simp [Doc.patternReplace])

/-- A path that Oracle takes as a literal is text, which holds no minus sign outside quotes. -/
theorem jsonMember_closed (h₀ : Inside d neg (arg d args 0).result b)
    (h₁ : Inside d neg (arg d args 1).result c) (hc : (literalArg? args 1).isSome = true → c = false) :
    Closed d neg (jsonMember d args).result (b || c) := by
  obtain ⟨v, hv, rfl⟩ := h₀
  obtain ⟨w, hw, rfl⟩ := h₁
  have hmember (w : Doc) : (v.jsonMember d w).isBracket = true ∧
      (v.jsonMember d w).comment neg = (v.comment neg || w.comment neg) := by
    cases d <;> exact ⟨rfl, by simp [Doc.jsonMember]⟩
  by_cases hd : d = .oracle ∧ (literalArg? args 1).isSome = true
  · obtain ⟨path, hl⟩ := Option.isSome_iff_exists.1 hd.2
    rw [hc hd.2]
    exact .of_bracket _ (hmember _).1 (hv.jsonLiteral hd.1 hl) (hmember _).2
  · have hn : d = .oracle → literalArg? args 1 = none := fun h => by simpa [h] using hd
    exact .of_bracket _ (hmember w).1 (hv.jsonMember hw hn) (hmember w).2

end SheetQuery.Sql
