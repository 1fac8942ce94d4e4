import SheetQuery.Proofs.Writing

/-! What the passes to canonical form do to each kind of node, and that they bring in no operators and no
names of functions but their own. -/

namespace SheetQuery

namespace Text

theorem upperChar_toLower (c : Char) : upperChar c.toLower = upperChar c := by
  have hascii : ∀ n < 128, upperChar (Char.ofNat n).toLower = upperChar (Char.ofNat n) := by decide
  by_cases h : c.toNat < 128
  · simpa using hascii c.toNat h
  · have hl : c.toLower = c := by
      refine dif_neg ?_
      rintro ⟨-, hz⟩
      have hn : c.toNat ≤ 90 := hz
      omega
    rw [hl]

theorem upper_asciiLower (s : String) : upper (asciiLower s) = upper s := by
  simp [upper, asciiLower, List.flatMap_map, upperChar_toLower]

theorem upper_eq_of_sameLetters {s t : String} (h : sameLetters s t = true) : upper s = upper t := by
  rw [← upper_asciiLower s, ← upper_asciiLower t, eq_of_beq h]

end Text

namespace Builtin

variable {s : String} {f : Builtin}

theorem name_of_ofName? (h : ofName? s = some f) : f.name = s := by
  simpa using List.find?_some h

theorem isName_name (f : Builtin) : Sql.isName f.name.toList = true := by
  cases f <;> decide

/-- In upper case a delimiter stays what it is, and the names of functions have none. -/
theorem isWordChar_of_ofName? (h : ofName? (Text.upper s) = some f) :
    s.toList ≠ [] ∧ ∀ c ∈ s.toList, Sql.isWordChar c = true := by
  obtain ⟨hne, hword⟩ := Sql.isWordChar_of_isName f.isName_name
  have hupper : f.name.toList = s.toList.flatMap Text.upperChar := by
    rw [name_of_ofName? h, Text.upper, String.toList_ofList]
  rw [hupper] at hne hword
  refine ⟨fun hs => hne (by rw [hs]; rfl), fun c hc => ?_⟩
  by_contra hcw
  have hdelim : c ∈ Sql.delimiters := by simpa [Sql.isWordChar] using hcw
  have hkeep : (Sql.delimiters.all fun c => Text.upperChar c == [c]) = true := by decide
  have hc' : Text.upperChar c = [c] := beq_iff_eq.1 (List.all_eq_true.1 hkeep c hdelim)
  exact hcw (hword c (List.mem_flatMap.2 ⟨c, hc, by simp [hc']⟩))

end Builtin

theorem Expr.stable_isWorded : Stable IsWorded where
  literal _ := trivial
  binary h := h
  unary h := h
  call h _ := h
  operator h l r := by
    simp only [List.mem_cons, List.not_mem_nil, or_false] at h
    rcases h with rfl | rfl | rfl <;> simp [IsWorded]
  function h args := by
    simp only [List.mem_cons, List.not_mem_nil, or_false] at h
    rcases h with rfl | rfl | rfl <;> rintro n ⟨⟩ <;> exact Sql.isWordChar_of_isName (by decide)

theorem Expr.Worded.canonical {e : Expr} (h : Worded e) : Worded e.canonical :=
  Everywhere.canonical stable_isWorded h

theorem Expr.Worded.named {s : String} (hs : Sql.isName s.toList = true) {args : List Expr}
    (hargs : ∀ a ∈ args, Worded a) : Worded (.call (some s) args) :=
  .call (by rintro n ⟨⟩; exact Sql.isWordChar_of_isName hs) hargs

namespace Expr

open Canonical

@[simp] theorem canonical_literal (v : Literal) : (literal v).canonical = literal v := rfl

@[simp] theorem canonical_column (n : String) : (column n).canonical = column n := rfl

@[simp] theorem canonical_unary (op : UnaryOp) (e : Expr) : (unary op e).canonical = unary op e.canonical := rfl

/-- An operator that no pass reduces stays in its place. -/
theorem canonical_binary {op : BinaryOp} (h₁ : op ≠ .concat) (h₂ : op ≠ .eqEq) (h₃ : op ≠ .div) (l r : Expr) :
    (binary op l r).canonical = binary op l.canonical r.canonical := by
  cases op
  case concat => exact absurd rfl h₁
  case eqEq => exact absurd rfl h₂
  case div => exact absurd rfl h₃
  all_goals rfl

theorem canonical_eqEq (l r : Expr) : (binary .eqEq l r).canonical = binary .eq l.canonical r.canonical := rfl

theorem canonical_div (l r : Expr) : (binary .div l r).canonical =
    binary .div (if l.canonical.calledName = some "FLOAT" then l.canonical
      else call (some "FLOAT") [l.canonical]) r.canonical := by
  have h : (binary .div l r).canonical = floatDividend (binary .div l.canonical r.canonical) := rfl
  rw [h, floatDividend]
  split <;> rfl

/-- A pass that leaves calls alone and makes none commutes with taking the parts of a concatenation. -/
theorem concatParts_rebuild {f : Expr → Expr} (hcall : ∀ n args, f (.call n args) = .call n args)
    (hother : ∀ e, concatParts e = [e] → concatParts (f e) = [f e]) (e : Expr) :
    concatParts (e.rebuild f) = (concatParts e).map (rebuild f) := by
  cases e with
  | call n args =>
    simp only [rebuild, hcall, concatParts, rebuildAll_eq_map]
    split
    · rfl
    · simp [rebuild, hcall, rebuildAll_eq_map]
  | _ => exact hother _ rfl

theorem concatParts_unifyEquality (e : Expr) :
    concatParts (e.rebuild unifyEquality) = (concatParts e).map (rebuild unifyEquality) := by
  refine concatParts_rebuild (fun _ _ => rfl) (fun e he => ?_) e
  unfold unifyEquality
  split
  · rfl
  · exact he

theorem concatParts_floatDividend (e : Expr) :
    concatParts (e.rebuild floatDividend) = (concatParts e).map (rebuild floatDividend) := by
  refine concatParts_rebuild (fun _ _ => rfl) (fun e he => ?_) e
  unfold floatDividend
  split
  · split <;> rfl
  · exact he

theorem canonical_concat (l r : Expr) : (binary .concat l r).canonical =
    call (some "CONCAT") (concatParts l.canonical ++ concatParts r.canonical) := by
  have h (e : Expr) : concatParts e.canonical =
      ((concatParts (runAll (passes.take 4) e)).map (rebuild unifyEquality)).map (rebuild floatDividend) := by
    rw [← concatParts_unifyEquality, ← concatParts_floatDividend]
    rfl
  rw [h l, h r, ← List.map_append, ← List.map_append, ← rebuildAll_eq_map, ← rebuildAll_eq_map]
  rfl

section
variable {name : Option String} (havg : hasName name "AVG" = false) (hadd : hasName name "ADD" = false)
  (hsum : hasName name "SUM" = false)
include havg hadd hsum

/-- A call that no pass reduces. -/
theorem canonical_call {args : List Expr} (hurl : hasName name "URL" = false ∨ args = []) :
    (call name args).canonical = call name (args.map canonical) := by
  rcases hurl with hurl | rfl <;>
    simp [canonical, runAll, passes, Pass.run, rebuild, rebuildAll_eq_map, averageCalls, sumCalls, linkCalls,
      joinConcat, unifyEquality, floatDividend, *, Function.comp_def]

theorem canonical_url (hurl : hasName name "URL" = true) (a : Expr) (as : List Expr) :
    (call name (a :: as)).canonical = linkOf ((a :: as).map canonical) := by
  cases as <;>
    simp [canonical, runAll, passes, Pass.run, rebuild, rebuildAll, rebuildAll_eq_map, averageCalls, sumCalls,
      linkCalls, linkOf, text, joinConcat, unifyEquality, floatDividend, havg, hadd, hsum, hurl,
      Function.comp_def]

end

theorem hasName_eq_false {n s : String} {f g : Builtin} (hf : Builtin.ofName? (Text.upper n) = some f)
    (hg : Builtin.ofName? (Text.upper s) = some g) (hne : f ≠ g) : hasName (some n) s = false := by
  rw [Bool.eq_false_iff]
  intro h
  rw [Text.upper_eq_of_sameLetters h, hg] at hf
  exact hne (Option.some.inj hf).symm

/-- A call of a function that no pass reduces. -/
theorem canonical_builtin {n : String} {f : Builtin} (hf : Builtin.ofName? (Text.upper n) = some f)
    (h : f ∉ [.avg, .add, .sum, .url]) (args : List Expr) :
    (call (some n) args).canonical = call (some n) (args.map canonical) := by
  simp only [List.mem_cons, List.not_mem_nil, or_false, not_or] at h
  exact canonical_call (hasName_eq_false hf (g := .avg) (by decide) h.1)
    (hasName_eq_false hf (g := .add) (by decide) h.2.1)
    (hasName_eq_false hf (g := .sum) (by decide) h.2.2.1) (.inl (hasName_eq_false hf (g := .url) (by decide) h.2.2.2))

/-- Where the dialect has a shape for such a function, a call is written from its arguments. -/
theorem sql_operand_builtin {n : String} {f : Builtin} (hf : Builtin.ofName? (Text.upper n) = some f)
    (h : f ∉ [.avg, .add, .sum, .url]) {d : Dialect} {names : Naming} {shape : List Operand → Noted Fragment}
    (hshape : Sql.entry d names f = .shaped shape) (args : List Expr) :
    ((call (some n) args).operand d names).sql = shape (args.map (operand d names)) := by
  rw [operand, canonical_builtin hf h]
  simp only [Sql.write, Sql.call, hf, hshape, Sql.operands_eq_map, List.map_map]
  rfl

end Expr

end SheetQuery
