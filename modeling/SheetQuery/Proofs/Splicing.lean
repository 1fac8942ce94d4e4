import SheetQuery.Proofs.CanonicalForm
import SheetQuery.Proofs.OperandLaws
import SheetQuery.Proofs.Patterns

/-! Operators that the language does not have. Their symbol is spliced into a pattern, in which braces are read as
holes and as doubled braces. So a symbol is written as it stands exactly if no two of its characters in a row are read
as one. Where two are, a hole of its own takes an operand, or a brace is lost. -/

namespace SheetQuery

namespace Fragment

theorem ext_value {f g : Fragment} (hf : f.shape = .value) (hg : g.shape = .value) :
    f = g ↔ f.text = g.text ∧ f.bindings = g.bindings := by
  cases f
  cases g
  simp_all

section
variable (s : String) (l r : Fragment)

theorem slots_between : slots ("\x7b\x7d " ++ s ++ " \x7b\x7d").toList =
    .hole :: .char ' ' :: (slots s.toList ++ [.char ' ', .hole]) := by
  have hlist : ("\x7b\x7d " ++ s ++ " \x7b\x7d").toList = '{' :: '}' :: ' ' :: (s.toList ++ ' ' :: ['{', '}']) := by
    simp
  rw [hlist, slots, slots_cons (by simp [joins]), slots_append_of_not_isBrace (by decide)]
  rfl

/-- The operands keep their values in order whatever the symbol. -/
theorem bindings_between :
    (template ("\x7b\x7d " ++ s ++ " \x7b\x7d") [l, r]).bindings = l.bindings ++ r.bindings := by
  have hholes : 2 ≤ Slot.holes (slots ("\x7b\x7d " ++ s ++ " \x7b\x7d").toList) := by
    rw [slots_between]
    simp
  rw [bindings_template, List.take_of_length_le (by simpa using hholes)]
  simp

/-- A symbol between operands is written as it stands exactly if it is read so: with a hole in it, two braces or more
are lost that no operand brings back. -/
theorem template_between_eq_iff :
    template ("\x7b\x7d " ++ s ++ " \x7b\x7d") [l, r] = l ++ (" " ++ s ++ " ") ++ r ↔ IsVerbatim s.toList := by
  rw [ext_value rfl rfl, and_iff_left (by simp [bindings_between]), ← String.toList_inj, text_template, slots_between]
  have hfill (h : Slot.holes (slots s.toList) = 0) :
      (Slot.fill (.hole :: .char ' ' :: (slots s.toList ++ [.char ' ', .hole])) [l, r]).1 =
        l.text.toList ++ ' ' :: (Slot.chars (slots s.toList) ++ ' ' :: r.text.toList) := by
    simp [Slot.fill, Slot.fill_append, h, Slot.fill_of_holes_eq_zero h]
  constructor
  · intro htext
    have hholes : Slot.holes (slots s.toList) = 0 := by
      have hcount := congrArg (List.countP isBrace) htext
      have hfilled := Slot.braces_fill (.hole :: .char ' ' :: (slots s.toList ++ [.char ' ', .hole])) [l, r]
      have hbraces := braces_slots s.toList
      have hblank : isBrace ' ' = false := by decide
      simp [hblank] at hcount hfilled
      omega
    rw [hfill hholes] at htext
    exact isVerbatim_of_chars hholes (by simpa using htext)
  · intro h
    rw [isVerbatim_iff] at h
    rw [hfill (by rw [h, Slot.holes_map_char]), h, Slot.chars_map_char]
    simp

end

section
variable {s : String} {f : Fragment}

/-- Where a hole at the end is read as one, the text before it does not end in an opening brace of its own. -/
theorem isVerbatim_append_of_slots {cs : List Char} (h : IsVerbatim cs)
    (hslots : slots (cs ++ ['{', '}']) = slots cs ++ [.hole]) : IsVerbatim (cs ++ ['{']) := by
  refine List.isChain_append.2 ⟨h, .singleton _, fun c hc b hb => ?_⟩
  obtain rfl : '{' = b := Option.some.inj hb
  rw [Bool.eq_false_iff]
  intro hjoins
  obtain rfl : c = '{' := by simpa [joins] using hjoins
  obtain ⟨cs', rfl⟩ := List.getLast?_eq_some_iff.1 hc
  rw [List.append_assoc, List.singleton_append, slots_append h] at hslots
  have hlast := congrArg List.getLast? hslots
  simp [slots] at hlast

/-- A symbol before an operand that is written as it stands is read so and leaves the hole for the operand alone. -/
theorem isVerbatim_of_text_before (hf : ∃ c ∈ f.text.toList, isBrace c = false)
    (h : (template (s ++ "\x7b\x7d") [f]).text = s ++ f.text) : IsVerbatim (s.toList ++ ['{']) := by
  have htext : (Slot.fill (slots (s.toList ++ ['{', '}'])) [f]).1 = s.toList ++ f.text.toList := by
    simpa [text_template] using congrArg String.toList h
  have hcount := congrArg (List.countP isBrace) htext
  have hfilled := Slot.braces_fill (slots (s.toList ++ ['{', '}'])) [f]
  have hbraces := braces_slots s.toList
  rcases slots_append_hole s.toList with hslots | hslots <;> rw [hslots] at htext hcount hfilled
  · have hholes : Slot.holes (slots s.toList) = 0 := by
      simp at hcount hfilled
      omega
    have hchars : Slot.chars (slots s.toList) = s.toList := by
      simpa [Slot.fill_append, Slot.fill, hholes, Slot.fill_of_holes_eq_zero hholes] using htext
    exact isVerbatim_append_of_slots (isVerbatim_of_chars hholes hchars) hslots
  · -- the operand is gone, and with it the characters in it that are no braces
    have hbrace : isBrace '}' = true := by decide
    have hholes : Slot.holes (slots s.toList) = 0 := by
      simp [hbrace] at hcount hfilled
      omega
    have hchars : Slot.chars (slots s.toList) ++ ['}'] = s.toList ++ f.text.toList := by
      simpa [Slot.fill_append, Slot.fill, hholes, Slot.fill_of_holes_eq_zero hholes] using htext
    have hothers := congrArg (List.countP fun c => !isBrace c) hchars
    have hkept := (chars_slots_sublist s.toList).countP_le (p := fun c => !isBrace c)
    have hshown : 0 < f.text.toList.countP fun c => !isBrace c :=
      List.countP_pos_iff.2 (by simpa using hf)
    simp [hbrace] at hothers
    omega

theorem template_before (h : IsVerbatim (s.toList ++ ['{'])) (f : Fragment) :
    template (s ++ "\x7b\x7d") [f] = s ++ f := by
  have hslots : slots (s ++ "\x7b\x7d").toList = s.toList.map .char ++ [.hole] := by
    rw [String.toList_append]
    exact slots_append h _
  rw [ext_value rfl rfl, ← String.toList_inj, text_template, bindings_template, hslots]
  simp [Slot.fill, Slot.fill_append, Slot.fill_of_holes_eq_zero]

end

end Fragment

def Naming.label (d : Dialect) (names : Naming) (f : Fragment) : Fragment :=
  match names.outputName with
  | some name => f.push (" AS " ++ d.quote name)
  | none => f

theorem Naming.label_inj {d : Dialect} {names : Naming} {f g : Fragment} :
    names.label d f = names.label d g ↔ f = g := by
  cases h : names.outputName with
  | none => simp [label, h]
  | some name =>
    obtain ⟨ft, fb, fs⟩ := f
    obtain ⟨gt, gb, gs⟩ := g
    simp [label, h, Fragment.push, Fragment.raw]

theorem Naming.bindings_label {d : Dialect} {names : Naming} {f : Fragment} :
    (names.label d f).bindings = f.bindings := by
  cases h : names.outputName <;> simp [label, h, Fragment.push, Fragment.raw]

namespace Sql

variable {d : Dialect} {names : Naming} {s : String}

theorem compile_other (l r : Expr) : ((Expr.binary (.other s) l r).compile d names).fragment =
    names.label d (.template ("\x7b\x7d " ++ s ++ " \x7b\x7d")
      [((l.operand d names).valueUnder d (.other s) false).result,
        ((r.operand d names).valueUnder d (.other s) true).result]) := by
  have hcanonical : (Expr.binary (.other s) l r).canonical = .binary (.other s) l.canonical r.canonical :=
    Expr.canonical_binary (by simp) (by simp) (by simp) l r
  simp only [Expr.compile, Expr.operand, hcanonical]
  rfl

theorem compile_unary_other (x : Expr) : ((Expr.unary (.other s) x).compile d names).fragment =
    names.label d (.template (s ++ "\x7b\x7d") [((x.operand d names).grouped d).result]) := rfl

theorem column_shows (d : Dialect) (names : Naming) :
    ∃ c ∈ ((Expr.column "a").operand d names |>.grouped d).result.text.toList, Fragment.isBrace c = false := by
  refine ⟨'a', ?_, by decide⟩
  have hquote : 'a' ∈ (d.quote "a").toList := by cases d <;> decide
  change 'a' ∈ (asValue d (columnText d names "a")).text.toList
  cases h : names.tableAlias <;> simp [asValue, columnText, h, hquote, Fragment.isPredicate_raw]

end Sql

/-- For every operator that the language does not have: as it stands between its operands, and as it stands before its
operand, exactly if a pattern reads it so. Between operands no value is lost, whatever the symbol. -/
theorem unknown_operators_spliced (d : Dialect) (names : Naming) (s : String) :
    (∀ l r : Expr,
      let left := ((l.operand d names).valueUnder d (.other s) false).result
      let right := ((r.operand d names).valueUnder d (.other s) true).result
      let f := ((Expr.binary (.other s) l r).compile d names).fragment
      f.bindings = left.bindings ++ right.bindings ∧
        (f = names.label d (left ++ (" " ++ s ++ " ") ++ right) ↔ Fragment.IsVerbatim s.toList)) ∧
    ((∀ x : Expr, ((Expr.unary (.other s) x).compile d names).fragment =
        names.label d (s ++ ((x.operand d names).grouped d).result)) ↔
      Fragment.IsVerbatim (s.toList ++ ['{'])) := by
  constructor
  · intro l r left right f
    have hf : f = names.label d (.template ("\x7b\x7d " ++ s ++ " \x7b\x7d") [left, right]) := Sql.compile_other l r
    refine ⟨by rw [hf, Naming.bindings_label, Fragment.bindings_between], ?_⟩
    rw [hf, Naming.label_inj, Fragment.template_between_eq_iff]
  · simp only [Sql.compile_unary_other, Naming.label_inj]
    constructor
    · intro h
      exact Fragment.isVerbatim_of_text_before (Sql.column_shows d names) (congrArg Fragment.text (h (.column "a")))
    · exact fun h x => Fragment.template_before h _

/-- A pair of braces is no operator, and as a symbol it takes the right operand, whose own place is then NULL. An
opening brace before an operand takes the operand with its value. -/
theorem brace_symbols_take_operands :
    BinaryOp.ofSymbol "\x7b\x7d" = .other "\x7b\x7d" ∧ UnaryOp.ofSymbol "\x7b" = .other "\x7b" ∧
    ((Expr.binary (.other "\x7b\x7d") (.column "a") (.column "b")).compile .sqlite .default).fragment =
      "\"a\" \"b\" NULL" ∧
    ((Expr.unary (.other "\x7b") (.text "a")).compile .sqlite .default).fragment = "\x7b\x7d" := by
  refine ⟨by decide, by decide, ?_, ?_⟩ <;> decide

end SheetQuery
