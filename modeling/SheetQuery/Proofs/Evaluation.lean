import SheetQuery.Proofs.OperandLaws
import SheetQuery.Proofs.Terms

/-! SQL evaluated. An engine says what a database makes of words, values, columns, operators, casts and functions, over
some type of values, and a tree of SQL is evaluated from its leaves up. What a layout gives follows from what its parts
give. -/

namespace SheetQuery

namespace Sql

/-- What a database makes of the parts of an expression. What it is not told to know gives nothing. -/
structure Engine (α : Type) where
  word : String → Option α := fun _ => none
  value : Binding → Option α := fun _ => none
  text : String → Option α := fun _ => none
  /-- A column of the table that is named, or of the only one. -/
  column : Option String → String → Option α := fun _ _ => none
  operator : InfixOp → α → α → Option α := fun _ _ _ => none
  /-- A minus sign before an operand. -/
  minus : α → Option α := fun _ => none
  not : α → Option α := fun _ => none
  /-- A function that converts its argument as a type or other words behind it say. -/
  convert : String → Term → α → Option α := fun _ _ _ => none
  call : String → List α → Option α := fun _ _ => none
  /-- Whether a choice takes the branch behind this condition. -/
  holds : α → Option Bool := fun _ => none

variable {α : Type}

def Engine.bracket (E : Engine α) (n : String) (vs : List α) : Option α :=
  if n = "" then
    match vs with
    | [v] => some v
    | _ => none
  else E.call n vs

mutual

/-- What a tree of SQL gives. A choice gives its second branch unless its condition holds. -/
def Term.eval (E : Engine α) : Term → Option α
  | .word s => E.word s
  | .value v => E.value v
  | .text s => E.text s
  | .name c => E.column none c
  | .run [.name t, .word ".", .name c] => E.column (some t) c
  | .binary op l r => do
    let v ← Term.eval E l
    let w ← Term.eval E r
    E.operator op v w
  | .minus t => do E.minus (← Term.eval E t)
  | .not t => do E.not (← Term.eval E t)
  | .group n [("", t), ("AS", type)] => do E.convert n type (← Term.eval E t)
  | .group n [("", .run (.group m ps :: words))] => do E.convert n (.run words) (← Term.eval E (.group m ps))
  | .group n ps => do E.bracket n (← Term.evalParts E "" ps)
  | .choice [("WHEN", c), ("THEN", t), ("ELSE", e)] => do
    if ← E.holds (← Term.eval E c) then Term.eval E t else Term.eval E e
  | _ => none

def Term.evalParts (E : Engine α) (sep : String) : List (String × Term) → Option (List α)
  | [] => some []
  | (s, t) :: ps =>
    if s = sep then do
      let v ← Term.eval E t
      let vs ← Term.evalParts E "," ps
      return v :: vs
    else none

end

def evaluate? (E : Engine α) (d : Dialect) (f : Fragment) : Option α := (readTerm d f).bind (Term.eval E)

def Doc.Evaluates (E : Engine α) (g : Doc) (v : α) : Prop := ∃ t, g.Reads t ∧ t.eval E = some v

section
variable {E : Engine α} {v w x : α}

/-- A conversion to a type, which need not be an expression. -/
theorem Doc.Reads.castAs {g type : Doc} {t u : Term} (word : Word) (h : g.Reads t) (ht : ReadsAs type.items u) :
    (Doc.call word (.spaced g (.spaced (.keyword "AS") type))).Reads (.group word.text [("", t), ("AS", u)]) := by
  have hparts : Parted "" (g.items ++ Item.word "AS" :: type.items) [("", t), ("AS", u)] :=
    .more h.items (by decide) (.one ht)
  exact .call hparts

/-- A choice between two branches by a condition. -/
theorem Doc.Reads.choose {c g g' : Doc} {s t u : Term} (hc : c.Reads s) (ht : g.Reads t) (hu : g'.Reads u) :
    (Doc.choice (.spaced (.keyword "WHEN") (.spaced c (.spaced (.keyword "THEN")
      (.spaced g (.spaced (.keyword "ELSE") g')))))).Reads (.choice [("WHEN", s), ("THEN", t), ("ELSE", u)]) := by
  have hparts : Parted (Item.word "WHEN").label
      (c.items ++ Item.word "THEN" :: (g.items ++ Item.word "ELSE" :: g'.items))
      [("WHEN", s), ("THEN", t), ("ELSE", u)] :=
    .more hc.items (by decide) (.more ht.items (by decide) (.one hu.items))
  exact .choice (hparts.partsOf_cons (by decide))

namespace Doc.Evaluates

variable {g l r : Doc} {gs : List Doc} {vs : List α}

attribute [local simp] Term.eval Term.evalParts

theorem value {b : Binding} (h : E.value b = some v) : (Doc.value b).Evaluates E v := ⟨_, .value b, h⟩

theorem text {s : String} (h : E.text s = some v) : (Doc.text s).Evaluates E v := ⟨_, .text s, h⟩

theorem keyword {s : String} {hk} (hs : (Item.word s).kind = .operand) (h : E.word s = some v) :
    (Doc.keyword s hk).Evaluates E v :=
  ⟨_, .word hs, h⟩

theorem column {table : Option String} {name : String} (h : E.column table name = some v) :
    (Doc.column table name).Evaluates E v := by
  refine ⟨_, .column table name, ?_⟩
  cases table <;> simpa using h

theorem parens (h : g.Evaluates E v) : (Doc.parens g).Evaluates E v := by
  obtain ⟨t, ht, hv⟩ := h
  refine ⟨_, ht.parens, ?_⟩
  rw [Term.eval]
  · simp [hv, Engine.bracket]
  · simp
  · rintro m qs words h
    obtain rfl : t = .run (.group m qs :: words) := by simpa using h
    simp at hv

theorem binary {op : InfixOp} (hl : l.Evaluates E v) (hr : r.Evaluates E w)
    (hlo : ∀ o ∈ l.operators, op.level ≤ o.level) (hro : unbroken op.level r.operators = true)
    (h : E.operator op v w = some x) : (Doc.binary op l r).Evaluates E x := by
  obtain ⟨t, ht, hv⟩ := hl
  obtain ⟨u, hu, hw⟩ := hr
  exact ⟨_, ht.binary hu hlo hro, by simp [hv, hw, h]⟩

theorem minus (hg : g.Evaluates E v) (ho : unbroken Operator.minus.level g.operators = true)
    (h : E.minus v = some w) : (Doc.minus g).Evaluates E w := by
  obtain ⟨t, ht, hv⟩ := hg
  exact ⟨_, ht.minus ho, by simp [hv, h]⟩

theorem cast {type : Doc} {u : Term} {word : Word} (hg : g.Evaluates E v) (ht : ReadsAs type.items u)
    (h : E.convert word.text u v = some w) :
    (Doc.call word (.spaced g (.spaced (.keyword "AS") type))).Evaluates E w := by
  obtain ⟨t, hr, hv⟩ := hg
  exact ⟨_, hr.castAs word ht, by simp [hv, h]⟩

/-- The parts of a list with commas, a separator `s` standing before it. -/
theorem parted (h : List.Forall₂ (Doc.Evaluates E) gs vs) (hne : gs ≠ []) (s : String) :
    ∃ ps, Parted s (Doc.list gs).items ps ∧ Term.evalParts E s ps = some vs ∧ ∀ p ∈ ps, p.1 = s ∨ p.1 = "," := by
  induction h generalizing s with
  | nil => exact absurd rfl hne
  | @cons g v gs vs hg h ih =>
    obtain ⟨t, ht, hv⟩ := hg
    cases h with
    | nil => exact ⟨_, .one ht.items, by simp [hv], by simp⟩
    | @cons g' v' gs vs hg' h =>
      obtain ⟨ps, hp, hvs, hcommas⟩ := ih (by simp) ","
      refine ⟨_, .more (x := .comma) ht.items rfl hp, by simp [hv, hvs], ?_⟩
      rw [List.forall_mem_cons]
      exact ⟨.inl rfl, fun p hp => .inr (or_self_iff.1 (hcommas p hp))⟩

theorem call (h : List.Forall₂ (Doc.Evaluates E) gs vs) (hne : gs ≠ []) {word : Word}
    (hv : E.call word.text vs = some v) : (Doc.call word (.list gs)).Evaluates E v := by
  obtain ⟨ps, hp, hvs, hcommas⟩ := parted h hne ""
  have hword : word.text ≠ "" := by
    intro hempty
    exact word.nonempty (by simp [hempty])
  refine ⟨_, .call hp, ?_⟩
  rw [Term.eval, hvs]
  · simpa [Engine.bracket, hword] using hv
  · -- no part stands behind the separator of a cast
    rintro t type rfl
    simp at hcommas
  · rintro m qs words rfl
    simp at hvs

/-- A choice by a condition that holds or not. -/
theorem choose {c g' : Doc} {b : Bool} (hc : c.Evaluates E v) (hb : E.holds v = some b) (hg : g.Evaluates E w)
    (hg' : g'.Evaluates E x) : (Doc.choice (.spaced (.keyword "WHEN") (.spaced c (.spaced (.keyword "THEN")
      (.spaced g (.spaced (.keyword "ELSE") g')))))).Evaluates E (if b then w else x) := by
  obtain ⟨s, hs, hv⟩ := hc
  obtain ⟨t, ht, hw⟩ := hg
  obtain ⟨u, hu, hx⟩ := hg'
  refine ⟨_, .choose hs ht hu, ?_⟩
  cases b <;> simp [hv, hb, hw, hx]

theorem evaluate? {d : Dialect} {f : Fragment} (h : g.Evaluates E v) (hs : Spells d f g)
    (hc : g.comment noSign = false) : Sql.evaluate? E d f = some v := by
  obtain ⟨t, ht, hv⟩ := h
  rw [Sql.evaluate?, ht.readTerm hs hc, Option.bind_some, hv]

end Doc.Evaluates

/-- What gives a value is laid out as it is drawn, and its layout gives the value. -/
theorem Drawn.exists_evaluates_face {d : Dialect} {f : Fragment} {φ : Face} (hf : Drawn d noSign f φ)
    (h : evaluate? E d f = some v) :
    ∃ g, Spells d f g ∧ g.comment noSign = false ∧ g.Evaluates E v ∧ g.face noSign f.isPredicate = φ := by
  obtain ⟨g, hg, hs, hface⟩ := hf
  obtain ⟨t, ht, hv⟩ : ∃ t, readTerm d f = some t ∧ t.eval E = some v := Option.bind_eq_some_iff.1 h
  have hc : g.comment noSign = false := by
    by_contra hc
    rw [readTerm, hs.marks_eq_none (by simpa using hc)] at ht
    cases ht
  rw [readTerm, hs.marks_eq hg hc, Option.bind_some] at ht
  exact ⟨g, hs, hc, ⟨t, ⟨hg, ht⟩, hv⟩, hface⟩

theorem Drawn.exists_evaluates {d : Dialect} {f : Fragment} {φ : Face} (hf : Drawn d noSign f φ)
    (h : evaluate? E d f = some v) : ∃ g, Spells d f g ∧ g.comment noSign = false ∧ g.Evaluates E v := by
  obtain ⟨g, hs, hc, hg, -⟩ := hf.exists_evaluates_face h
  exact ⟨g, hs, hc, hg⟩

end

end Sql

namespace Expr

open Sql

variable {α : Type} {E : Engine α} {v : α} {d : Dialect} {names : Naming} {e : Expr}

theorem fragment_compile (hn : names.outputName = none) (e : Expr) :
    (e.compile d names).fragment = ((e.operand d names).value d).result := by
  simp only [compile, hn]

theorem spells_column (d : Dialect) (names : Naming) (c : String) :
    Spells d (((column c).operand d names).value d).result (.column names.tableAlias c) := by
  have hvalue : ((column c).operand d names).value d = pure (asValue d (columnText d names c)) := rfl
  rw [hvalue, Noted.result_pure, asValue, isPredicate_columnText]
  exact (Spells.column names c).asValue

theorem evaluate?_column (hn : names.outputName = none) {c : String} (h : E.column names.tableAlias c = some v) :
    evaluate? E d ((column c).compile d names).fragment = some v := by
  rw [fragment_compile hn]
  exact (Doc.Evaluates.column h).evaluate? (spells_column d names c) rfl

theorem evaluate?_text (hn : names.outputName = none) {s : String} (h : E.value (.text s) = some v) :
    evaluate? E d ((text s).compile d names).fragment = some v := by
  have hspells : Spells d (((text s).operand d names).value d).result (.value (.text s)) :=
    (Spells.bind (.text s)).congr rfl rfl
  rw [fragment_compile hn]
  exact (Doc.Evaluates.value h).evaluate? hspells rfl

/-- The first argument of a call, which gives there what it gives alone. -/
theorem exists_evaluates_arg (hn : names.outputName = none) (he : e.Worded)
    (hv : evaluate? E d (e.compile d names).fragment = some v) (es : List Expr) :
    ∃ g, Spells d (arg d ((e :: es).map (operand d names)) 0).result g ∧ g.comment noSign = false ∧
      g.Evaluates E v := by
  rw [fragment_compile hn] at hv
  exact (matches_of_worded he.canonical d names).value.exists_evaluates hv

/-- An operand within other SQL gives what it gives alone, and shows what it is drawn with. -/
theorem exists_evaluates_grouped (hn : names.outputName = none) (he : e.Worded)
    (hv : evaluate? E d (e.compile d names).fragment = some v) :
    ∃ g, Spells d ((e.operand d names).grouped d).result g ∧ g.comment noSign = false ∧ g.Evaluates E v ∧
      g.operators = ((sketchOf d e).grouped d).operators ∧
      g.startsMinus noSign = ((sketchOf d e).grouped d).startsMinus := by
  have hdrawn := matches_of_worded he.canonical d names
  rw [fragment_compile hn] at hv
  have hgrouped : evaluate? E d ((e.operand d names).grouped d).result = some v := by
    obtain ⟨g, hs, hc, hg⟩ := hdrawn.value.exists_evaluates hv
    rw [Operand.grouped, Noted.result_map]
    cases isOperation (e.operand d names).expr with
    | false => exact hg.evaluate? (hs.groupIf false) hc
    | true => exact hg.parens.evaluate? (hs.groupIf true) hc
  obtain ⟨g, hs, hc, hg, hface⟩ := hdrawn.grouped.exists_evaluates_face hgrouped
  exact ⟨g, hs, hc, hg, congrArg Face.operators hface, congrArg Face.startsMinus hface⟩

/-- A call gives what the layout of its SQL gives. -/
theorem evaluate?_call {n : String} {f : Builtin} (hf : Builtin.ofName? (Text.upper n) = some f)
    (h : f ∉ [.avg, .add, .sum, .url]) (htest : isTest d f = false) {shape : List Operand → Noted Fragment}
    (hshape : Sql.entry d names f = .shaped shape) {args : List Expr} {g : Doc}
    (hs : Spells d (shape (args.map (operand d names))).result g) (hc : g.comment noSign = false) (hg : g.Evaluates E v)
    (hn : names.outputName = none) : evaluate? E d ((call (some n) args).compile d names).fragment = some v := by
  have hpredicate : (shape (args.map (operand d names))).result.isPredicate = false := by
    have hentry := isPredicate_entry d names (args.map (operand d names)) f
    rwa [hshape, htest, Entry.write] at hentry
  refine hg.evaluate? ?_ hc
  rw [fragment_compile hn, Operand.value, Noted.result_map, sql_operand_builtin hf h hshape, asValue, hpredicate]
  exact hs.asValue

end Expr

end SheetQuery
