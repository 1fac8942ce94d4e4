import Mathlib.Tactic.SplitIfs
import SheetQuery.Proofs.Layout

/-! Reading SQL text back. Characters make pieces, and brackets nest the pieces into items; a placeholder
takes the next of the bound values. Text with a comment in it cannot be read. Laid out SQL reads as the
items of its layout, unless two minus signs meet. -/

namespace SheetQuery.Sql

/-- The character that ends what `c` opens: a text, or a quoted name of the dialect. -/
def quoteEnd? (d : Dialect) (c : Char) : Option Char :=
  if c = '\'' then some '\'' else if c = d.quotes.1 then some d.quotes.2 else none

inductive Piece
  | word (s : String)
  | value (v : Binding)
  | name (s : String)
  | text (s : String)
  | symbol (s : String)
  | comma
  /-- A parenthesis, with the word that stands directly before it. -/
  | opening (name : String)
  | closing
  | comment
  | stray
deriving DecidableEq, Repr

/-- What the characters read last belong to; they are kept in reverse. -/
inductive Mode
  | between
  | word (w : List Char)
  | symbol (w : List Char)
  | inside (close : Char) (w : List Char)
  /-- After a closing quote, which another one would undo. -/
  | closing (close : Char) (w : List Char)

namespace Mode

def flush : Mode → List Piece
  | between => []
  | word w => [.word (String.ofList w.reverse)]
  | symbol w => [.symbol (String.ofList w.reverse)]
  | inside _ _ => [.stray]
  | closing close w =>
    [if close = '\'' then .text (String.ofList w.reverse) else .name (String.ofList w.reverse)]

/-- Whether a character begins a comment together with the one before it. -/
def startsComment : Mode → Char → Bool
  | symbol (b :: _), c => (b == '-' && c == '-') || (b == '/' && c == '*')
  | _, _ => false

/-- The mode after a character that belongs to the same piece. -/
def extend (m : Mode) (c : Char) : Option Mode :=
  match m with
  | between => none
  | word w => if isWordChar c then some (word (c :: w)) else none
  | symbol w => if isSymbolChar c && !(symbol w).startsComment c then some (symbol (c :: w)) else none
  | inside close w => some (if c = close then closing close w else inside close (c :: w))
  | closing close w => if c = close then some (inside close (c :: w)) else none

/-- The pieces that are complete at a character that belongs to none of them. -/
def upTo (m : Mode) (c : Char) : List Piece :=
  match m, c with
  | word w, '(' => [.opening (String.ofList w.reverse)]
  | m, '(' => m.flush ++ [.opening ""]
  | m, ')' => m.flush ++ [.closing]
  | m, ',' => m.flush ++ [.comma]
  | m, _ => m.flush

def start (d : Dialect) (c : Char) : Mode :=
  match quoteEnd? d c with
  | some close => inside close []
  | none => if isSymbolChar c then symbol [c] else if isWordChar c then word [c] else between

end Mode

def lex (d : Dialect) : Mode → List Binding → List Char → List Piece
  | m, _, [] => m.flush
  | m, vs, c :: cs =>
    match m.extend c with
    | some m' => lex d m' vs cs
    | none =>
      if m.startsComment c then [.comment]
      else if c = '?' then
        match vs with
        | v :: vs => m.flush ++ .value v :: lex d .between vs cs
        | [] => m.flush ++ .stray :: lex d .between [] cs
      else m.upTo c ++ lex d (.start d c) vs cs

inductive Item
  | word (s : String)
  | value (v : Binding)
  | name (s : String)
  | text (s : String)
  | symbol (s : String)
  | comma
  | group (name : String) (inside : List Item)
  /-- What stands between CASE and END. -/
  | choice (inside : List Item)
deriving Repr

inductive Bracket
  | group (name : String)
  | choice
deriving DecidableEq, Repr

/-- The items of the innermost open bracket, and the open brackets with what stands before each. -/
structure Nest where
  items : List Item
  outer : List (Bracket × List Item)

namespace Nest

def add (n : Nest) (i : Item) : Nest := { n with items := n.items ++ [i] }

def enter (n : Nest) (b : Bracket) : Nest := ⟨[], (b, n.items) :: n.outer⟩

def step (n : Nest) : Piece → Option Nest
  | .word s =>
    if s = "CASE" then some (n.enter .choice)
    else if s = "END" then
      match n.outer with
      | (.choice, before) :: outer => some ⟨before ++ [.choice n.items], outer⟩
      | _ => none
    else some (n.add (.word s))
  | .value v => some (n.add (.value v))
  | .name s => some (n.add (.name s))
  | .text s => some (n.add (.text s))
  | .symbol s => some (n.add (.symbol s))
  | .comma => some (n.add .comma)
  | .opening name => some (n.enter (.group name))
  | .closing =>
    match n.outer with
    | (.group name, before) :: outer => some ⟨before ++ [.group name n.items], outer⟩
    | _ => none
  | .comment | .stray => none

def run : List Piece → Nest → Option Nest
  | [], n => some n
  | p :: ps, n => (n.step p).bind (run ps)

end Nest

/-- The items of a fragment, if its brackets match and no comment cuts it off. -/
def items (d : Dialect) (f : Fragment) : Option (List Item) :=
  match Nest.run (lex d .between f.bindings f.text.toList) ⟨[], []⟩ with
  | some ⟨is, []⟩ => some is
  | _ => none


theorem quoteEnd?_eq_none (d : Dialect) {c : Char} (h : isWordChar c ∨ isSymbolChar c) : quoteEnd? d c = none := by
  have h1 : c ≠ '\'' := by rintro rfl; revert h; decide
  have h2 : c ≠ d.quotes.1 := by rintro rfl; revert h; cases d <;> decide
  simp [quoteEnd?, h1, h2]

/-- Whether a comment begins at a character. -/
def commentAt (c : Char) (cs : List Char) : Bool :=
  (c == '-' && cs.head? == some '-') || (c == '/' && cs.head? == some '*')

inductive Quoting
  | outside
  | inside (close : Char)
  /-- After a closing quote, which another one would undo. -/
  | closing (close : Char)

def Quoting.start (d : Dialect) (c : Char) : Quoting :=
  match quoteEnd? d c with
  | some close => .inside close
  | none => .outside

/-- Whether a comment begins somewhere outside quoted texts and names. -/
def hasComment (d : Dialect) : Quoting → List Char → Bool
  | _, [] => false
  | .outside, c :: cs => commentAt c cs || hasComment d (.start d c) cs
  | .inside close, c :: cs => hasComment d (if c = close then .closing close else .inside close) cs
  | .closing close, c :: cs =>
    if c = close then hasComment d (.inside close) cs
    else commentAt c cs || hasComment d (.start d c) cs

namespace Mode

def quoting : Mode → Quoting
  | inside close _ => .inside close
  | closing close _ => .closing close
  | _ => .outside

def commentNow (m : Mode) : List Char → Bool
  | [] => false
  | c :: _ => m.startsComment c

theorem comment_notMem_flush (m : Mode) : .comment ∉ m.flush := by
  cases m <;> simp [flush]
  split <;> simp

theorem comment_notMem_upTo (m : Mode) (c : Char) : .comment ∉ m.upTo c := by
  unfold upTo
  split <;> simp [comment_notMem_flush]

theorem commentNow_symbol (c : Char) (w cs : List Char) :
    (symbol (c :: w)).commentNow cs = commentAt c cs := by
  cases cs <;> simp [commentNow, startsComment, commentAt]

theorem commentAt_eq_false {c : Char} (h : isSymbolChar c = false) (cs : List Char) :
    commentAt c cs = false := by
  have h1 : c ≠ '-' := by rintro rfl; revert h; decide
  have h2 : c ≠ '/' := by rintro rfl; revert h; decide
  simp [commentAt, h1, h2]

theorem start_quoting (d : Dialect) (c : Char) : (start d c).quoting = .start d c := by
  unfold start Quoting.start
  cases quoteEnd? d c with
  | some close => rfl
  | none => dsimp only; split_ifs <;> rfl

theorem start_commentNow (d : Dialect) (c : Char) (cs : List Char) :
    (start d c).commentNow cs = commentAt c cs := by
  by_cases h : isSymbolChar c
  · simp only [start, quoteEnd?_eq_none d (.inr h), h, if_true, commentNow_symbol]
  · rw [commentAt_eq_false (by simpa using h)]
    cases cs with
    | nil => rfl
    | cons x xs =>
      unfold start
      cases quoteEnd? d c with
      | some close => rfl
      | none =>
        simp only [h, Bool.false_eq_true, if_false]
        split_ifs <;> rfl

end Mode

theorem hasComment_of_ne {d : Dialect} {m : Mode} {c : Char} (h : m.extend c = none) (cs : List Char) :
    hasComment d m.quoting (c :: cs) = (commentAt c cs || hasComment d (.start d c) cs) := by
  cases m with
  | closing close w =>
    have hc : c ≠ close := by
      rintro rfl
      simp [Mode.extend] at h
    simp [Mode.quoting, hasComment, hc]
  | inside close w => simp [Mode.extend] at h
  | _ => rfl

/-- The pieces of a text hold a comment exactly where one begins outside quotes. -/
theorem comment_mem_lex (d : Dialect) (m : Mode) (vs : List Binding) (cs : List Char) :
    .comment ∈ lex d m vs cs ↔ m.commentNow cs = true ∨ hasComment d m.quoting cs = true := by
  induction cs generalizing m vs with
  | nil => simp [lex, Mode.comment_notMem_flush, Mode.commentNow, hasComment]
  | cons c cs ih =>
    cases he : m.extend c with
    | some m' =>
      simp only [lex, he]
      rw [ih]
      cases m with
      | between => simp [Mode.extend] at he
      | word w =>
        obtain ⟨hc, rfl⟩ : isWordChar c = true ∧ .word (c :: w) = m' := by simpa [Mode.extend] using he
        have hn : Mode.commentNow (.word (c :: w)) cs = false := by cases cs <;> rfl
        have hs : Quoting.start d c = .outside := by
          rw [Quoting.start, quoteEnd?_eq_none d (.inl hc)]
        have hm : Mode.commentNow (.word w) (c :: cs) = false := rfl
        simp [Mode.quoting, hasComment, hn, hm, hs, Mode.commentAt_eq_false (isSymbolChar_eq_false hc)]
      | symbol w =>
        obtain ⟨⟨hc, hn⟩, rfl⟩ :
            (isSymbolChar c = true ∧ (Mode.symbol w).startsComment c = false) ∧ .symbol (c :: w) = m' := by
          simpa [Mode.extend] using he
        have hs : Quoting.start d c = .outside := by
          rw [Quoting.start, quoteEnd?_eq_none d (.inr hc)]
        rw [Mode.commentNow_symbol]
        simp [Mode.quoting, hasComment, hn, hs, Mode.commentNow]
      | inside close w =>
        obtain rfl : (if c = close then .closing close w else .inside close (c :: w)) = m' := by
          simpa [Mode.extend] using he
        by_cases hc : c = close <;> cases cs <;>
          simp [hc, Mode.quoting, hasComment, Mode.commentNow, Mode.startsComment]
      | closing close w =>
        obtain ⟨rfl, rfl⟩ : c = close ∧ .inside close (c :: w) = m' := by simpa [Mode.extend] using he
        cases cs <;> simp [Mode.quoting, hasComment, Mode.commentNow, Mode.startsComment]
    | none =>
      simp only [lex, he]
      by_cases hn : m.startsComment c
      · simp [hn, Mode.commentNow]
      · have hm : Mode.commentNow m (c :: cs) = false := by simpa [Mode.commentNow] using hn
        rw [hasComment_of_ne he, hm]
        by_cases hq : c = '?'
        · subst hq
          have hs : Quoting.start d '?' = .outside := by cases d <;> rfl
          have hc (cs : List Char) : Mode.commentNow .between cs = false := by cases cs <;> rfl
          have hat := Mode.commentAt_eq_false (c := '?') (by decide) cs
          cases vs <;> simp [hn, ih, hs, hc, hat, Mode.comment_notMem_flush, Mode.quoting]
        · simp [hn, hq, ih, Mode.comment_notMem_upTo, Mode.start_quoting, Mode.start_commentNow]

theorem Nest.run_comment {ps : List Piece} (h : .comment ∈ ps) (n : Nest) : Nest.run ps n = none := by
  induction ps generalizing n with
  | nil => simp at h
  | cons p ps ih =>
    rcases List.mem_cons.1 h with rfl | h
    · rfl
    · cases hs : n.step p with
      | none => simp [Nest.run, hs]
      | some n' => simpa [Nest.run, hs] using ih h n'

end SheetQuery.Sql
