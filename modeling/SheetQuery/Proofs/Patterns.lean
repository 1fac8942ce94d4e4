import Mathlib.Algebra.GroupWithZero.Nat
import Mathlib.Data.List.Chain
import SheetQuery.Fragment

/-! Patterns with holes. A pattern is read from the front as characters and holes: a pair of braces is a hole and a
doubled brace is a brace. What it gives with parts in its holes, and which texts it reads as they stand, follows from
that reading. -/

namespace SheetQuery

namespace Fragment

inductive Slot
  | char (c : Char)
  | hole
deriving DecidableEq, Repr

/-- Whether a pattern reads two characters in a row as one. -/
def joins (a b : Char) : Bool := a == '{' && (b == '{' || b == '}') || a == '}' && b == '}'

theorem joins_iff {a b : Char} :
    joins a b = true ↔ a = '{' ∧ b = '{' ∨ a = '}' ∧ b = '}' ∨ a = '{' ∧ b = '}' := by
  simp only [joins, Bool.or_eq_true, Bool.and_eq_true, beq_iff_eq]
  tauto

def isBrace (c : Char) : Bool := c == '{' || c == '}'

/-- A text that a pattern reads as it stands, character by character. -/
def IsVerbatim (cs : List Char) : Prop := cs.IsChain fun a b => joins a b = false

instance : DecidablePred IsVerbatim := fun cs => inferInstanceAs (Decidable (cs.IsChain fun a b => joins a b = false))

def slots : List Char → List Slot
  | '{' :: '{' :: cs => .char '{' :: slots cs
  | '}' :: '}' :: cs => .char '}' :: slots cs
  | '{' :: '}' :: cs => .hole :: slots cs
  | c :: cs => .char c :: slots cs
  | [] => []

namespace Slot

def char? : Slot → Option Char
  | char c => some c
  | hole => none

def chars (ps : List Slot) : List Char := ps.filterMap char?

def holes (ps : List Slot) : Nat := ps.count hole

@[simp] theorem chars_nil : chars [] = [] := rfl

@[simp] theorem chars_char (c : Char) (ps : List Slot) : chars (char c :: ps) = c :: chars ps := rfl

@[simp] theorem chars_hole (ps : List Slot) : chars (hole :: ps) = chars ps := rfl

@[simp] theorem holes_char (c : Char) (ps : List Slot) : holes (char c :: ps) = holes ps := by simp [holes]

@[simp] theorem holes_hole (ps : List Slot) : holes (hole :: ps) = holes ps + 1 := by simp [holes]

@[simp] theorem holes_nil : holes [] = 0 := rfl

@[simp] theorem holes_append (ps qs : List Slot) : holes (ps ++ qs) = holes ps + holes qs := by simp [holes]

@[simp] theorem chars_append (ps qs : List Slot) : chars (ps ++ qs) = chars ps ++ chars qs := by simp [chars]

@[simp] theorem chars_map_char (cs : List Char) : chars (cs.map char) = cs := by
  simp [chars, char?, Function.comp_def]

@[simp] theorem holes_map_char (cs : List Char) : holes (cs.map char) = 0 := by simp [holes, List.count_eq_zero]

theorem map_char_chars {ps : List Slot} (h : holes ps = 0) : (chars ps).map char = ps := by
  induction ps with
  | nil => rfl
  | cons p ps ih =>
    cases p with
    | char c => simp [ih (by simpa using h)]
    | hole => simp at h

def fill : List Slot → List Fragment → List Char × List Binding
  | char c :: ps, parts => (c :: (fill ps parts).1, (fill ps parts).2)
  | hole :: ps, part :: parts => (part.text.toList ++ (fill ps parts).1, part.bindings ++ (fill ps parts).2)
  | hole :: ps, [] => (null.text.toList ++ (fill ps []).1, (fill ps []).2)
  | [], _ => ([], [])

theorem fill_append (ps qs : List Slot) (parts : List Fragment) : fill (ps ++ qs) parts =
    ((fill ps parts).1 ++ (fill qs (parts.drop (holes ps))).1,
      (fill ps parts).2 ++ (fill qs (parts.drop (holes ps))).2) := by
  fun_induction fill ps parts with
  | case1 c ps parts ih => simp [fill, ih]
  | case2 ps part parts ih => simp [fill, ih]
  | case3 ps ih => simp [fill, ih]
  | case4 parts => simp

theorem bindings_fill (ps : List Slot) (parts : List Fragment) :
    (fill ps parts).2 = (parts.take (holes ps)).flatMap Fragment.bindings := by
  fun_induction fill ps parts with
  | case1 c ps parts ih => simp [ih]
  | case2 ps part parts ih => simp [ih]
  | case3 ps ih => simpa using ih
  | case4 parts => simp

theorem fill_of_holes_eq_zero {ps : List Slot} (h : holes ps = 0) (parts : List Fragment) :
    (fill ps parts).1 = chars ps := by
  fun_induction fill ps parts with
  | case1 c ps parts ih => simp [ih (by simpa using h)]
  | case2 ps part parts ih => simp at h
  | case3 ps ih => simp at h
  | case4 parts => rfl

/-- The parts bring their own braces and no others are added. -/
theorem braces_fill (ps : List Slot) (parts : List Fragment) : (fill ps parts).1.countP isBrace ≤
    (chars ps).countP isBrace + (parts.map fun f => f.text.toList.countP isBrace).sum := by
  fun_induction fill ps parts with
  | case1 c ps parts ih =>
    simp only [chars_char, List.countP_cons]
    omega
  | case2 ps part parts ih =>
    simp only [chars_hole, List.countP_append, List.map_cons, List.sum_cons]
    omega
  | case3 ps ih =>
    have hnull : null.text.toList.countP isBrace = 0 := by decide
    simpa [hnull] using ih
  | case4 parts => simp

end Slot

theorem fill_eq (cs : List Char) (parts : List Fragment) : fill cs parts = Slot.fill (slots cs) parts := by
  fun_induction fill cs parts with
  | case1 _ _ _ _ h ih | case2 _ _ _ _ h ih | case3 _ _ _ _ _ h ih | case4 _ _ _ h ih =>
    simp [slots, Slot.fill, ← ih, h]
  | case5 c cs parts h₁ h₂ h₃ h₄ _ _ h ih =>
    have hhole : ∀ cs', c = '{' → cs ≠ '}' :: cs' := by
      intro cs' hc hcs
      cases parts with
      | nil => exact h₄ cs' rfl hc hcs
      | cons part parts => exact h₃ cs' part parts rfl hc hcs
    rw [slots.eq_4 _ _ h₁ h₂ hhole, Slot.fill, ← ih, h]
  | case6 => rfl

@[simp] theorem slots_nil : slots [] = [] := rfl

@[simp] theorem slots_opening (cs : List Char) : slots ('{' :: '{' :: cs) = .char '{' :: slots cs := rfl

@[simp] theorem slots_closing (cs : List Char) : slots ('}' :: '}' :: cs) = .char '}' :: slots cs := rfl

@[simp] theorem slots_hole (cs : List Char) : slots ('{' :: '}' :: cs) = .hole :: slots cs := rfl

theorem slots_cons {a : Char} {cs : List Char} (h : ∀ b ∈ cs.head?, joins a b = false) :
    slots (a :: cs) = .char a :: slots cs := by
  cases cs with
  | nil => simp [slots]
  | cons b cs =>
    have hab : joins a b = false := h b rfl
    refine slots.eq_4 _ _ ?_ ?_ ?_ <;>
    · rintro cs rfl hcs
      obtain rfl : b = _ := (List.cons.inj hcs).1
      simp [joins] at hab

/-- A pattern is read from the front: two characters that join, or one that does not join the next. -/
@[elab_as_elim] theorem slots_induction {motive : List Char → Prop} (nil : motive [])
    (opening : ∀ cs, motive cs → motive ('{' :: '{' :: cs)) (closing : ∀ cs, motive cs → motive ('}' :: '}' :: cs))
    (hole : ∀ cs, motive cs → motive ('{' :: '}' :: cs))
    (char : ∀ c cs, (∀ b ∈ cs.head?, joins c b = false) → motive cs → motive (c :: cs)) (cs : List Char) :
    motive cs := by
  fun_induction slots cs with
  | case1 cs ih => exact opening cs ih
  | case2 cs ih => exact closing cs ih
  | case3 cs ih => exact hole cs ih
  | case4 c cs h₁ h₂ h₃ ih =>
    refine char c cs ?_ ih
    intro b hb
    obtain ⟨cs', rfl⟩ := List.head?_eq_some_iff.1 hb
    rw [Bool.eq_false_iff]
    intro hj
    rcases joins_iff.1 hj with ⟨rfl, rfl⟩ | ⟨rfl, rfl⟩ | ⟨rfl, rfl⟩
    · exact h₁ cs' rfl rfl
    · exact h₂ cs' rfl rfl
    · exact h₃ cs' rfl rfl
  | case5 => exact nil

/-- A character that is no brace joins nothing before it. -/
theorem slots_append_of_not_isBrace {c : Char} (hc : isBrace c = false) (cs rest : List Char) :
    slots (cs ++ c :: rest) = slots cs ++ slots (c :: rest) := by
  induction cs using slots_induction with
  | nil => rfl
  | opening cs ih | closing cs ih | hole cs ih => simp [ih]
  | char a cs hhead ih =>
    have hnext : ∀ b ∈ (cs ++ c :: rest).head?, joins a b = false := by
      cases cs with
      | nil =>
        rintro b hb
        obtain rfl : c = b := Option.some.inj hb
        simp only [isBrace, Bool.or_eq_false_iff] at hc
        simp [joins, hc]
      | cons b cs => exact hhead
    rw [List.cons_append, slots_cons hnext, slots_cons hhead, ih, List.cons_append]

/-- A hole at the end of a pattern is read as one unless a brace before it takes its opening brace. -/
theorem slots_append_hole (cs : List Char) :
    slots (cs ++ ['{', '}']) = slots cs ++ [.hole] ∨ slots (cs ++ ['{', '}']) = slots cs ++ [.char '}'] := by
  induction cs using slots_induction with
  | nil => exact .inl rfl
  | opening cs ih | closing cs ih | hole cs ih => simpa using ih
  | char a cs hhead ih =>
    cases cs with
    | nil =>
      by_cases ha : a = '{'
      · subst ha
        right
        rfl
      · left
        rw [List.singleton_append, slots_cons (by simp [joins, ha]), slots_hole, slots_cons hhead]
        rfl
    | cons b cs =>
      have hnext : ∀ b' ∈ (b :: cs ++ ['{', '}']).head?, joins a b' = false := hhead
      rw [List.cons_append, slots_cons hnext, slots_cons hhead]
      simpa using ih

/-- A text that is read as it stands stays so before a character that it does not join. -/
theorem slots_append {cs : List Char} {c : Char} (h : IsVerbatim (cs ++ [c])) (rest : List Char) :
    slots (cs ++ c :: rest) = cs.map .char ++ slots (c :: rest) := by
  induction cs with
  | nil => rfl
  | cons a cs ih =>
    have hchain : (a :: (cs ++ [c])).IsChain fun a b => joins a b = false := h
    rw [List.isChain_cons] at hchain
    have hhead : (cs ++ c :: rest).head? = (cs ++ [c]).head? := by cases cs <;> rfl
    rw [List.cons_append, slots_cons (by rw [hhead]; exact hchain.1), ih hchain.2]
    rfl

theorem length_slots_le (cs : List Char) : (slots cs).length ≤ cs.length := by
  induction cs using slots_induction with
  | nil => exact Nat.le_refl 0
  | opening cs ih | closing cs ih | hole cs ih =>
    simp only [slots_opening, slots_closing, slots_hole, List.length_cons]
    omega
  | char c cs hhead ih =>
    rw [slots_cons hhead, List.length_cons, List.length_cons]
    omega

/-- The characters of a pattern stand in it in the same order. -/
theorem chars_slots_sublist (cs : List Char) : (Slot.chars (slots cs)).Sublist cs := by
  induction cs using slots_induction with
  | nil => exact .slnil
  | opening cs ih | closing cs ih =>
    simp only [slots_opening, slots_closing]
    exact (ih.cons_cons _).cons _
  | hole cs ih =>
    rw [slots_hole]
    exact (ih.cons _).cons _
  | char c cs hhead ih =>
    rw [slots_cons hhead]
    exact ih.cons_cons _

/-- Each hole uses up two braces. -/
theorem braces_slots (cs : List Char) :
    (Slot.chars (slots cs)).countP isBrace + 2 * Slot.holes (slots cs) ≤ cs.countP isBrace := by
  induction cs using slots_induction with
  | nil => exact Nat.le_refl 0
  | opening cs ih | closing cs ih | hole cs ih =>
    simp [isBrace] at ih ⊢
    omega
  | char c cs hhead ih =>
    simp only [slots_cons hhead, Slot.chars_char, Slot.holes_char, List.countP_cons]
    omega

theorem isVerbatim_iff (cs : List Char) : IsVerbatim cs ↔ slots cs = cs.map .char := by
  induction cs using slots_induction with
  | nil => simp [IsVerbatim]
  | opening cs | closing cs =>
    have hlength := length_slots_le cs
    constructor
    · intro h
      simp [IsVerbatim, joins] at h
    · intro h
      have := congrArg List.length h
      simp at this
      omega
  | hole cs => simp [IsVerbatim, joins]
  | char c cs hhead ih =>
    rw [IsVerbatim] at ih ⊢
    rw [List.isChain_cons, ih, slots_cons hhead, List.map_cons, List.cons.injEq]
    exact ⟨fun h => ⟨rfl, h.2⟩, fun h => ⟨hhead, h.2⟩⟩

/-- With no hole in it, a text is read as it stands if its characters are kept. -/
theorem isVerbatim_of_chars {cs : List Char} (hholes : Slot.holes (slots cs) = 0) (h : Slot.chars (slots cs) = cs) :
    IsVerbatim cs := by
  rw [isVerbatim_iff, ← Slot.map_char_chars hholes, h]

theorem text_template (pattern : String) (parts : List Fragment) :
    (template pattern parts).text.toList = (Slot.fill (slots pattern.toList) parts).1 := by
  simp [template, fill_eq]

theorem bindings_template (pattern : String) (parts : List Fragment) :
    (template pattern parts).bindings = (parts.take (Slot.holes (slots pattern.toList))).flatMap bindings := by
  simp [template, fill_eq, Slot.bindings_fill]

end Fragment

end SheetQuery
