import SheetQuery.Proofs.LiteralReading
import SheetQuery.Proofs.Splicing

/-! Values written in line, part by part. A fragment is aligned if its reader ends outside quotes and has used exactly
the values of the fragment, whatever values come after them. What is put together from aligned fragments is read one
part after another, so the values can be written into the parts first. Only a pattern that leaves a quote open gives a
fragment that is not aligned. -/

namespace SheetQuery.Fragment

open Sql

variable {d : Dialect} {f g : Fragment} {q : Option Char} {vs : List Binding} {cs : List Char}

def nextQuote (d : Dialect) (q : Option Char) (c : Char) : Option Char := (inlineStep d ⟨q, [], ""⟩ c).closing

/-- Whatever values come after its own, a reader of the fragment ends outside quotes and has used exactly its own. -/
def Aligned (d : Dialect) (f : Fragment) : Prop :=
  ∀ rest : List Binding,
    (f.text.toList.foldl (inlineStep d) ⟨none, f.bindings ++ rest, ""⟩).closing = none ∧
      (f.text.toList.foldl (inlineStep d) ⟨none, f.bindings ++ rest, ""⟩).pending = rest

/-- Every character but a placeholder outside quotes is kept. -/
theorem inlineStep_kept {c : Char} (h : q = none → c ≠ '?') (vs : List Binding) (w : String) :
    inlineStep d ⟨q, vs, w⟩ c = ⟨nextQuote d q c, vs, w.push c⟩ := by
  cases q with
  | some close => rfl
  | none => rw [inlineStep_of_ne (h rfl), nextQuote, inlineStep_of_ne (h rfl)]

theorem foldl_kept (h : '?' ∉ cs) (vs : List Binding) (w : String) :
    cs.foldl (inlineStep d) ⟨q, vs, w⟩ = ⟨cs.foldl (nextQuote d) q, vs, w ++ .ofList cs⟩ := by
  induction cs generalizing q w with
  | nil => simp
  | cons c cs ih =>
    obtain ⟨hc, hcs⟩ := List.ne_and_not_mem_of_not_mem_cons h
    rw [List.foldl_cons, inlineStep_kept fun _ => hc.symm, ih hcs, push_append, List.foldl_cons]

/-- Where just the first values are used up, the reader goes the same way if there are no others, and whatever was
written before. -/
theorem foldl_first_values {rest : List Binding} {w : String}
    (h : (cs.foldl (inlineStep d) ⟨q, vs ++ rest, w⟩).pending = rest) (before : String) :
    cs.foldl (inlineStep d) ⟨q, vs ++ rest, before ++ w⟩ =
      ⟨(cs.foldl (inlineStep d) ⟨q, vs, w⟩).closing, rest, before ++ (cs.foldl (inlineStep d) ⟨q, vs, w⟩).written⟩ := by
  have hpush (w : String) (c : Char) : before ++ w.push c = (before ++ w).push c := String.toList_inj.1 (by simp)
  induction cs generalizing q vs w with
  | nil => simp_all
  | cons c cs ih =>
    rw [List.foldl_cons] at h ⊢
    rw [List.foldl_cons]
    by_cases hc : q = none → c ≠ '?'
    · rw [inlineStep_kept hc] at h
      rw [inlineStep_kept hc, inlineStep_kept hc, ← ih h, hpush]
    · obtain ⟨rfl, rfl⟩ : q = none ∧ c = '?' := by simpa using hc
      cases vs with
      | cons v vs =>
        have hv := ih h
        rwa [← String.append_assoc] at hv
      | nil =>
        cases rest with
        | nil =>
          have hnone := @ih _ [] _ h
          rwa [hpush] at hnone
        | cons v rest =>
          -- the placeholder takes a value that is none of the first ones
          have hlength := length_pending (inlineStep d ⟨none, [] ++ v :: rest, w⟩ '?') cs (d := d)
          rw [h] at hlength
          exact absurd hlength (by simp [inlineStep])

namespace Aligned

theorem inlines (h : f.Aligned d) (rest : List Binding) :
    Inlines d f.text.toList (f.bindings ++ rest) rest (f.inline d).toList := by
  intro w
  obtain ⟨hclosing, hpending⟩ := h rest
  have hread (before : String) := foldl_first_values hpending before
  have hempty := congrArg InlineState.closing (hread "")
  rw [String.empty_append, hclosing] at hempty
  have hw := hread w
  rw [String.append_empty, ← hempty] at hw
  rw [hw, String.ofList_toList]
  rfl

theorem of_inlines {out : List Char} (h : ∀ rest, Inlines d f.text.toList (f.bindings ++ rest) rest out) :
    f.Aligned d ∧ f.inline d = .ofList out := by
  refine ⟨fun rest => by simp [h rest ""], ?_⟩
  have hread := h [] ""
  rw [List.append_nil] at hread
  simp [inline, hread]

/-- Text without placeholders that ends outside quotes. -/
theorem text {s : String} (hmark : '?' ∉ s.toList) (hquote : s.toList.foldl (nextQuote d) none = none) :
    (raw s).Aligned d ∧ (raw s).inline d = s := by
  have hread (rest : List Binding) : Inlines d s.toList rest rest s.toList := by
    intro w
    rw [foldl_kept hmark, hquote]
  simpa using of_inlines (f := raw s) hread

theorem value (d : Dialect) (v : Binding) : (bind v).Aligned d := by
  have hread (rest : List Binding) :
      Inlines d (bind v).text.toList ((bind v).bindings ++ rest) rest (literalChars d v) := by
    have hchars : (bind v).text.toList = ['?'] := by simp [bind]
    rw [hchars]
    exact .value v rest
  exact (of_inlines hread).1

theorem push (hf : f.Aligned d) (hg : g.Aligned d) :
    (f.push g).Aligned d ∧ (f.push g).inline d = f.inline d ++ g.inline d := by
  have hread (rest : List Binding) : Inlines d (f.push g).text.toList ((f.push g).bindings ++ rest) rest
      (f.inline d ++ g.inline d).toList := by
    have hboth := (hf.inlines (g.bindings ++ rest)).append (hg.inlines rest)
    simpa [Fragment.push] using hboth
  simpa using of_inlines hread

theorem append (hf : f.Aligned d) (hg : g.Aligned d) :
    (f ++ g).Aligned d ∧ (f ++ g).inline d = f.inline d ++ g.inline d := hf.push hg

theorem parenthesized (h : f.Aligned d) :
    f.parenthesized.Aligned d ∧ f.parenthesized.inline d = "(" ++ f.inline d ++ ")" := by
  have hopen : (raw "(").Aligned d ∧ (raw "(").inline d = "(" := text (by decide) (by cases d <;> rfl)
  have hclose : (raw ")").Aligned d ∧ (raw ")").inline d = ")" := text (by decide) (by cases d <;> rfl)
  obtain ⟨haligned, hinline⟩ := hopen.1.append h
  obtain ⟨haligned', hinline'⟩ := haligned.append hclose.1
  refine ⟨haligned', ?_⟩
  rw [hinline, hopen.2, hclose.2] at hinline'
  exact hinline'

theorem foldl {sep : String} (hsep : (raw sep).Aligned d ∧ (raw sep).inline d = sep) (hf : f.Aligned d)
    {fs : List Fragment} (hfs : ∀ g ∈ fs, g.Aligned d) :
    (fs.foldl (fun acc g => acc ++ raw sep ++ g) f).Aligned d ∧
      (fs.foldl (fun acc g => acc ++ raw sep ++ g) f).inline d =
        sep.intercalate (f.inline d :: fs.map (inline d)) := by
  induction fs generalizing f with
  | nil => exact ⟨hf, by simp⟩
  | cons g fs ih =>
    rw [List.forall_mem_cons] at hfs
    obtain ⟨hfirst, hinline⟩ := hf.append hsep.1
    obtain ⟨hboth, hinline'⟩ := hfirst.append hfs.1
    obtain ⟨haligned, hall⟩ := ih hboth hfs.2
    refine ⟨haligned, ?_⟩
    rw [List.foldl_cons, hall, hinline', hinline, hsep.2, String.intercalate_cons_append, List.map_cons,
      String.intercalate_cons_cons]

theorem join {sep : String} (hsep : (raw sep).Aligned d ∧ (raw sep).inline d = sep) {fs : List Fragment}
    (hfs : ∀ f ∈ fs, f.Aligned d) :
    (join sep fs).Aligned d ∧ (join sep fs).inline d = sep.intercalate (fs.map (inline d)) := by
  cases fs with
  | nil => exact text (s := "") (by decide) rfl
  | cons f fs =>
    rw [List.forall_mem_cons] at hfs
    exact foldl hsep (f := f.asValue) hfs.1 hfs.2

end Aligned

namespace Slot

/-- The quote that the reader of a pattern is left in. It meets no placeholder of the pattern itself outside quotes, and
the holes are outside quotes. -/
def leaves? (d : Dialect) : Option Char → List Slot → Option (Option Char)
  | q, [] => some q
  | q, char c :: ps => if q = none ∧ c = '?' then none else leaves? d (nextQuote d q c) ps
  | q, hole :: ps => if q = none then leaves? d none ps else none

/-- A pattern is read through, and its parts with it. -/
theorem foldl_fill {q' : Option Char} {ps : List Slot} {parts : List Fragment} (h : leaves? d q ps = some q')
    (hparts : ∀ f ∈ parts, f.Aligned d) (rest : List Binding) (w : String) :
    (fill ps parts).1.foldl (inlineStep d) ⟨q, (fill ps parts).2 ++ rest, w⟩ =
      ⟨q', rest, w ++ .ofList (fill ps (parts.map fun f => raw (f.inline d))).1⟩ := by
  have hnull (vs : List Binding) : Inlines d null.text.toList vs vs null.text.toList := by
    have htext : null.Aligned d ∧ null.inline d = null.text := Aligned.text (by decide) (by cases d <;> rfl)
    have hread := htext.1.inlines vs
    rw [htext.2] at hread
    exact hread
  fun_induction fill ps parts generalizing q w with
  | case1 c ps parts ih =>
    obtain ⟨hc, hps⟩ : ¬(q = none ∧ c = '?') ∧ leaves? d (nextQuote d q c) ps = some q' := by
      simpa [leaves?] using h
    rw [List.foldl_cons, inlineStep_kept fun hq heq => hc ⟨hq, heq⟩, ih hps hparts, fill, push_append]
  | case2 ps part parts ih =>
    obtain ⟨rfl, hps⟩ : q = none ∧ leaves? d none ps = some q' := by simpa [leaves?] using h
    rw [List.forall_mem_cons] at hparts
    rw [List.foldl_append, List.append_assoc, hparts.1.inlines _ w, ih hps hparts.2, List.map_cons, fill]
    simp [raw, String.append_assoc]
  | case3 ps ih =>
    obtain ⟨rfl, hps⟩ : q = none ∧ leaves? d none ps = some q' := by simpa [leaves?] using h
    rw [List.foldl_append, hnull _ w, ih hps hparts, List.map_nil, fill, String.ofList_append, String.append_assoc]
  | case4 parts =>
    obtain rfl : q = q' := by simpa [leaves?] using h
    simp [fill]

end Slot

/-- A pattern whose holes are outside quotes and that has no placeholder of its own there. The values can be written
into the parts first, and the fragment is aligned if the pattern closes its quotes. -/
theorem inline_template {pattern : String} (h : Slot.leaves? d none (slots pattern.toList) = some q)
    {parts : List Fragment} (hparts : ∀ f ∈ parts, f.Aligned d) :
    ((template pattern parts).Aligned d ↔ q = none) ∧
      (template pattern parts).inline d = (template pattern (parts.map fun f => raw (f.inline d))).text := by
  have hread (rest : List Binding) (w : String) :
      (template pattern parts).text.toList.foldl (inlineStep d) ⟨none, (template pattern parts).bindings ++ rest, w⟩ =
        ⟨q, rest, w ++ (template pattern (parts.map fun f => raw (f.inline d))).text⟩ := by
    have hfill := Slot.foldl_fill h hparts rest w
    rw [← fill_eq, ← fill_eq] at hfill
    simpa [template] using hfill
  refine ⟨⟨fun haligned => ?_, fun hq rest => ?_⟩, ?_⟩
  · have hclosing := (haligned []).1
    rwa [hread] at hclosing
  · rw [hread]
    exact ⟨hq, rfl⟩
  · have hall := hread [] ""
    rw [List.append_nil, String.empty_append] at hall
    rw [inline, hall]

/-- Writing the values in line commutes with all ways to put aligned fragments together, and what is put together is
aligned again, unless a pattern leaves a quote open. -/
theorem inline_part_by_part {parts : List Fragment} {sep pattern : String} (hf : f.Aligned d) (hg : g.Aligned d)
    (hparts : ∀ p ∈ parts, p.Aligned d) (hmark : '?' ∉ sep.toList)
    (hsep : sep.toList.foldl (nextQuote d) none = none)
    (hpattern : Slot.leaves? d none (slots pattern.toList) = some q) :
    ((join sep parts).Aligned d ∧ (join sep parts).inline d = sep.intercalate (parts.map (inline d))) ∧
      ((f.push g).Aligned d ∧ (f.push g).inline d = f.inline d ++ g.inline d) ∧
      (f.parenthesized.Aligned d ∧ f.parenthesized.inline d = "(" ++ f.inline d ++ ")") ∧
      ((template pattern parts).Aligned d ↔ q = none) ∧
      (template pattern parts).inline d = (template pattern (parts.map fun f => raw (f.inline d))).text :=
  ⟨Aligned.join (Aligned.text hmark hsep) hparts, hf.push hg, hf.parenthesized, inline_template hpattern hparts⟩

/-- Placeholders in a value, in brackets and in the quotes of a pattern, which has braces of its own and a hole more
than there are parts. -/
theorem inline_part_by_part_quoted :
    let f := bind (.text "it's ?")
    let g := raw "[a?]"
    let pattern := "F(\x7b\x7d, '?', \x7b\x7b\x7d\x7d, \x7b\x7d, \x7b\x7d)"
    (f.Aligned .mssql ∧ g.Aligned .mssql ∧ Slot.leaves? .mssql none (slots pattern.toList) = some none) ∧
      (join " '-' " [f, g]).inline .mssql = "'it''s ?' '-' [a?]" ∧ (f.push g).inline .mssql = "'it''s ?'[a?]" ∧
      f.parenthesized.inline .mssql = "('it''s ?')" ∧ (template pattern [f, g]).Aligned .mssql ∧
      (template pattern [f, g]).inline .mssql = "F('it''s ?', '?', \x7b\x7d, [a?], NULL)" := by
  intro f g pattern
  have hf : f.Aligned .mssql := .value .mssql _
  have hbrackets : (template "[a?]" []).Aligned .mssql := (inline_template (by decide) (List.forall_mem_nil _)).1.2 rfl
  have hg : g.Aligned .mssql := (by decide : template "[a?]" [] = g) ▸ hbrackets
  have hpattern : Slot.leaves? .mssql none (slots pattern.toList) = some none := by decide
  have hparts : ∀ p ∈ [f, g], p.Aligned .mssql := by simp [hf, hg]
  have hmark : '?' ∉ " '-' ".toList := by decide
  obtain ⟨⟨-, hjoin⟩, ⟨-, hpush⟩, ⟨-, hparens⟩, haligned, htemplate⟩ :=
    inline_part_by_part hf hg hparts hmark (by decide) hpattern
  exact ⟨⟨hf, hg, hpattern⟩, hjoin.trans (by decide), hpush.trans (by decide), hparens.trans (by decide),
    haligned.2 rfl, htemplate.trans (by decide)⟩

/-- A pattern that leaves a quote open takes the next placeholder in. A placeholder without a value takes the value of
the next part, although on its own it leaves none unused. -/
theorem inline_after_open_pattern :
    let f := template "'" []
    let g := bind (.text "v")
    let mark := raw "?"
    (Slot.leaves? .sqlite none (slots "'".toList) = some (some '\'') ∧ ¬ f.Aligned .sqlite ∧ g.Aligned .sqlite ∧
      (join ", " [f, g]).inline .sqlite = "', ?" ∧ ", ".intercalate ([f, g].map (inline .sqlite)) = "', 'v'") ∧
      (mark.text.toList.foldl (inlineStep .sqlite) ⟨none, mark.bindings, ""⟩).closing = none ∧
      (mark.text.toList.foldl (inlineStep .sqlite) ⟨none, mark.bindings, ""⟩).pending = [] ∧
      (join ", " [mark, g]).inline .sqlite = "'v', ?" := by
  intro f g mark
  refine ⟨⟨by decide, fun h => ?_, .value .sqlite _, by decide, by decide⟩, by decide, by decide, by decide⟩
  exact absurd (h []).1 (by decide)

end SheetQuery.Fragment
