import SheetQuery.Proofs.Grammar.Arithmetic
import SheetQuery.Proofs.Layouts.Strings
import SheetQuery.Proofs.Shapes

/-! The functions on text write values, and a match is a predicate where the dialect has predicates. -/

namespace SheetQuery.Sql

variable {d : Dialect} {q : Rules} {args : List Operand} {g v w k : Doc} {gs : List Doc}

namespace Derives

theorem guarded (f : Word) (hf : isFunction f.text = true) (hg : Derives d q .value g) :
    Derives d q .value (.guarded f g) := .apply₂ f hf hg (.text "")

theorem concatPart (e : Expr) (hg : Derives d q .value g) : Derives d q .value (.concatPart d e g) := by
  unfold Doc.concatPart
  split
  · exact hg.guarded _ (by decide)
  · exact hg

theorem piped (h : ∀ g ∈ gs, Derives d q .value g) : Derives d q .value (.piped gs) := by
  match gs with
  | [] => exact .text ""
  | [g] => exact h g (by simp)
  | g :: g' :: gs => exact .parens (.inl rfl) (.joined (fun _ _ => .arithmetic rfl) (.inr (by simp)) h)

theorem concatParts (h : ∀ g ∈ gs, Derives d q .value g) : ∀ g ∈ Doc.concatParts d gs, Derives d q .value g := by
  unfold Doc.concatParts
  split
  · exact List.forall_mem_map.2 fun g hg => (h g hg).guarded _ (by decide)
  · split
    · exact List.forall_mem_append.2 ⟨h, by simpa using .text ""⟩
    · exact h
  · exact h

theorem search (hv : Derives d q .value v) (hw : Derives d q .value w) : Derives d q .value (v.search d w) := by
  cases d
  case mysql | mssql => exact .apply₂ _ (by decide) hw hv
  case postgres =>
    exact .call (.inr (by decide)) (.spaced (.argument hw) (.spaced (.keyword "IN" _ (by decide)) (.argument hv)))
  case sqlite | oracle => exact .apply₂ _ (by decide) hv hw

theorem jsonMember (hv : Derives d q .value v) (hw : Derives d q .value w) : Derives d q .value (v.jsonMember d w) := by
  cases d
  case oracle => exact .apply₂ _ (by decide) hv hw
  case postgres =>
    exact .parens (.inl rfl) (.arithmetic rfl (.apply₂ _ (by decide) (hv.castKeyword "JSONB" _ (by decide))
      (hw.castKeyword "JSONPATH" _ (by decide))) (.text _))
  all_goals exact .apply _ (by decide) (.apply₂ _ (by decide) hv hw)

/-- A match is a predicate, in SQLite as anywhere. -/
theorem patternMatch (hv : Derives d q .value v) (hw : Derives d q .value w) :
    Derives d q .predicate (v.patternMatch d w) := by
  cases d
  case postgres | sqlite => exact .parens (.inr rfl) (.comparison rfl hv hw)
  all_goals exact .patternTest (.listed (.argument hv) (.argument hw))

end Derives

section
variable (hs : ∀ x ∈ args, Fits d q x)
include hs

theorem concat_writes (hq : Quiet q (concat d args)) : Writes d q .value (concat d args).result := by
  by_cases hd : d = .oracle ∨ d = .sqlite
  · have hall : ∀ x ∈ args, Quiet q (x.grouped d) := by
      rcases hd with rfl | rfl
      · simpa [concat] using hq
      · have hparts : ∀ x ∈ args, Quiet q (x.grouped .sqlite >>= fun v => pure
            (if x.expr.calledName = some "CONCAT" then v else "COALESCE(" ++ v ++ ", '')" : Fragment)) := by
          simpa [concat] using hq
        exact fun x hx => ((quiet_bind _ _).1 (hparts x hx)).1
    have hparts : ∀ x ∈ args, Writes d q .value (concatPart d x) := fun x hx => by
      obtain ⟨g, hg, dg⟩ := (hs x hx).grouped (hall x hx)
      exact ⟨_, .concatPart hg, .concatPart x.expr dg⟩
    obtain ⟨gs, hgs, dgs⟩ := Fits.layouts hparts
    exact ⟨_, .concat_piped hd hgs, .piped dgs⟩
  · have hv : Quiet q (values d args) := by
      cases d
      case oracle | sqlite => simp at hd
      all_goals simpa [concat, nativeCall] using hq
    obtain ⟨gs, hgs, dgs⟩ := Fits.values hs hv
    exact ⟨_, .concat_called hd hgs, .call (.inr (by decide)) (.list (.concatParts dgs))⟩

theorem link_writes (hq : Quiet q (link d args)) : Writes d q .value (link d args).result := by
  obtain ⟨parts, hparts, hl⟩ : ∃ parts, (∀ x ∈ parts, Fits d q x) ∧ link d args = asValue d <$> concat d parts := by
    refine ⟨_, ?_, rfl⟩
    have hhead : Fits d q (args.head?.getD .null) := by
      cases args with
      | nil => exact .null
      | cons x xs => exact hs x (by simp)
    have htext (s : String) : Fits d q (.text s) := .literal _
    cases h : args[1]? with
    | none => simp [htext, hhead]
    | some x => simp [htext, hhead, hs x (List.mem_of_getElem? h)]
  rw [hl] at hq ⊢
  refine Writes.asValue ?_
  rw [isPredicate_concat]
  exact concat_writes hparts (by simpa using hq)

theorem linkEncoded_writes (hq : Quiet q (linkEncoded d args)) : Writes d q .value (linkEncoded d args).result := by
  obtain ⟨v, hv, dv⟩ := Fits.arg hs (i := 0) (by simpa [linkEncoded] using hq)
  exact ⟨_, .linkEncoded hv, dv.replaceAll _⟩

theorem trimmed_writes (hq : Quiet q (trimmed d args)) : Writes d q .value (trimmed d args).result := by
  obtain ⟨v, hv, dv⟩ := Fits.arg hs (i := 0) (by simpa [trimmed] using hq)
  exact ⟨_, .trimmed hv, .apply _ (by decide) (.apply _ (by decide) dv)⟩

theorem leading_writes (hq : Quiet q (leading d args)) : Writes d q .value (leading d args).result := by
  obtain ⟨hv, hw⟩ : Quiet q (arg d args 0) ∧ Quiet q (arg d args 1) := by simpa [leading] using hq
  obtain ⟨v, hv, dv⟩ := Fits.arg hs hv
  obtain ⟨w, hw, dw⟩ := Fits.arg hs hw
  exact ⟨_, .leading hv hw, .call (.inr (by decide)) (.listed (.argument dv)
    (.listed (.keyword "1" _ (by decide)) (.argument dw)))⟩

theorem trailing_writes (hq : Quiet q (trailing d args)) : Writes d q .value (trailing d args).result := by
  obtain ⟨hv, hw⟩ : Quiet q (arg d args 0) ∧ Quiet q (groupedArg d args 1) := by simpa [trailing] using hq
  obtain ⟨v, hv, dv⟩ := Fits.arg hs hv
  obtain ⟨w, hw, dw⟩ := Fits.groupedArg hs hw
  exact ⟨_, .trailing hv hw, .apply₂ _ (by decide) dv (.minus dw)⟩

theorem substring_writes (hq : Quiet q (substring d args)) : Writes d q .value (substring d args).result := by
  obtain ⟨hv, hw, hk⟩ : Quiet q (arg d args 0) ∧ Quiet q (arg d args 1) ∧
      ∀ x : Operand, args[2]? = some x → Quiet q (x.value d) := by
    cases h : args[2]? <;> simp_all [substring]
  obtain ⟨v, hv, dv⟩ := Fits.arg hs hv
  obtain ⟨w, hw, dw⟩ := Fits.arg hs hw
  have hlast : ∃ k, (∀ x : Operand, args[2]? = some x → Spells d (x.value d).result k) ∧
      (args[2]? = none → k = .call (.of "LEN") v) ∧ Derives d q .value k := by
    cases h : args[2]? with
    | none => exact ⟨_, by simp, fun _ => rfl, .apply _ (by decide) dv⟩
    | some x =>
      obtain ⟨k, hk, dk⟩ := (hs x (List.mem_of_getElem? h)).value (hk x h)
      exact ⟨k, by simpa using hk, by simp, dk⟩
  obtain ⟨k, hsome, hnone, dk⟩ := hlast
  exact ⟨_, .substring hv hw hsome hnone, .call (.inr (by decide)) (.listed (.argument dv)
    (.listed (.argument dw) (.argument dk)))⟩

theorem search_writes (hq : Quiet q (search d args)) : Writes d q .value (search d args).result := by
  obtain ⟨hv, hw⟩ : Quiet q (arg d args 0) ∧ Quiet q (arg d args 1) := by simpa [search] using hq
  obtain ⟨v, hv, dv⟩ := Fits.arg hs hv
  obtain ⟨w, hw, dw⟩ := Fits.arg hs hw
  exact ⟨_, .search hv hw, .search dv dw⟩

theorem repeated_writes (hq : Quiet q (repeated d args)) : Writes d q .value (repeated d args).result := by
  by_cases hd : d = .oracle
  · obtain ⟨hv, hw⟩ : Quiet q (arg d args 0) ∧ Quiet q (groupedArg d args 1) := by
      subst hd
      simpa [repeated] using hq
    obtain ⟨v, hv, dv⟩ := Fits.arg hs hv
    obtain ⟨w, hw, dw⟩ := Fits.groupedArg hs hw
    exact ⟨_, .padded hv hd hw, .call (.inr (by decide)) (.listed (.argument dv) (.listed
      (.argument (.arithmetic rfl (.apply _ (by decide) dv) dw)) (.argument dv)))⟩
  · obtain ⟨hv, hw⟩ : Quiet q (arg d args 0) ∧ Quiet q (arg d args 1) := by
      cases d
      case oracle => exact absurd rfl hd
      all_goals simpa [repeated] using hq
    obtain ⟨v, hv, dv⟩ := Fits.arg hs hv
    obtain ⟨w, hw, dw⟩ := Fits.arg hs hw
    exact ⟨_, .zeroes hv hw hd, .call (.inr (by decide)) (.listed (.argument (.apply _ (by decide)
      (.apply _ (by decide) dw))) (.listed (.argument (.text _)) (.argument dv)))⟩

theorem patternMatch_writes (hq : Quiet q (patternMatch d args)) :
    Writes d q .predicate (patternMatch d args).result := by
  by_cases hd : d = .postgres ∨ d = .sqlite
  · obtain ⟨hv, hw⟩ : Quiet q (groupedArg d args 0) ∧ Quiet q (groupedArg d args 1) := by
      rcases hd with rfl | rfl <;> simpa [patternMatch] using hq
    obtain ⟨v, hv, dv⟩ := Fits.groupedArg hs hv
    obtain ⟨w, hw, dw⟩ := Fits.groupedArg hs hw
    exact ⟨_, .patternMatch_grouped hd hv hw, .patternMatch dv dw⟩
  · obtain ⟨hv, hw⟩ : Quiet q (arg d args 0) ∧ Quiet q (arg d args 1) := by
      cases d
      case postgres | sqlite => simp at hd
      all_goals simpa [patternMatch] using hq
    obtain ⟨v, hv, dv⟩ := Fits.arg hs hv
    obtain ⟨w, hw, dw⟩ := Fits.arg hs hw
    exact ⟨_, .patternMatch hv hw (not_or.1 hd), .patternMatch dv dw⟩

theorem patternExtract_writes (hq : Quiet q (patternExtract d args)) :
    Writes d q .value (patternExtract d args).result := by
  obtain ⟨hv, hw⟩ : Quiet q (arg d args 0) ∧ Quiet q (arg d args 1) := by simpa [patternExtract] using hq
  obtain ⟨v, hv, dv⟩ := Fits.arg hs hv
  obtain ⟨w, hw, dw⟩ := Fits.arg hs hw
  exact ⟨_, .patternExtract hv hw, .call (.inr (by decide)) (.spaced (.argument dv)
    (.spaced (.keyword "FROM" _ (by decide)) (.argument dw)))⟩

theorem patternReplace_writes (hq : Quiet q (patternReplace d args)) :
    Writes d q .value (patternReplace d args).result := by
  obtain ⟨hv, hw, hk⟩ : Quiet q (arg d args 0) ∧ Quiet q (arg d args 1) ∧ Quiet q (arg d args 2) := by
    simpa [patternReplace] using hq
  obtain ⟨v, hv, dv⟩ := Fits.arg hs hv
  obtain ⟨w, hw, dw⟩ := Fits.arg hs hw
  obtain ⟨k, hk, dk⟩ := Fits.arg hs hk
  exact ⟨_, .patternReplace hv hw hk, .call (.inr (by decide)) (.listed (.argument dv)
    (.listed (.argument dw) (.listed (.argument dk) (.argument (.text _)))))⟩

theorem jsonMember_writes (hq : Quiet q (jsonMember d args)) : Writes d q .value (jsonMember d args).result := by
  by_cases hp : d = .oracle ∧ (literalArg? args 1).isSome
  · obtain ⟨path, hl⟩ := Option.isSome_iff_exists.1 hp.2
    obtain ⟨v, hv, dv⟩ := Fits.arg hs (d := d) (i := 0) (by
      obtain ⟨rfl, -⟩ := hp
      simpa [jsonMember, hl] using hq)
    exact ⟨_, .jsonLiteral hv hp.1 hl, .jsonMember dv (.text path)⟩
  · have hl : d = .oracle → literalArg? args 1 = none := fun hd => by simpa [hd] using hp
    obtain ⟨hv, hw⟩ : Quiet q (arg d args 0) ∧ Quiet q (arg d args 1) := by
      cases d
      case oracle =>
        rw [jsonMember, quiet_bind] at hq
        simp only [hl rfl, quiet_bind] at hq
        exact ⟨hq.1, hq.2.2.1⟩
      all_goals simpa [jsonMember] using hq
    obtain ⟨v, hv, dv⟩ := Fits.arg hs hv
    obtain ⟨w, hw, dw⟩ := Fits.arg hs hw
    exact ⟨_, .jsonMember hv hw hl, .jsonMember dv dw⟩

end

end SheetQuery.Sql
