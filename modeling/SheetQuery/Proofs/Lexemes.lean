import SheetQuery.Dialect
import Mathlib.Data.List.Infix

/-! SQL text as its database reads it. What stands in quotes is one lexeme, given without its quotes, and a line
comment runs to the end of its line. What takes further rules is left unread: block comments, backslashes in
texts, dollar quotes, and quotes with a word such as `E` or `N` right before them. -/

namespace SheetQuery.Sql

inductive Lexeme
  | bare (c : Char)
  | text (s : String)
  | name (s : String)
  | comment
  | unread
deriving DecidableEq, Repr

structure Quotation where
  close : Char
  isName : Bool
  /-- Whether the closing quote may stand inside, written twice. -/
  doubles : Bool
deriving DecidableEq, Repr

def Quotation.lexeme (q : Quotation) (s : String) : Lexeme := if q.isName then .name s else .text s

def Quotation.escapes (d : Dialect) (q : Quotation) : Bool := d == .mysql && !q.isName

def opened? (d : Dialect) : Char → Option Quotation
  | '\'' => some ⟨'\'', false, true⟩
  | '"' => some ⟨'"', d != .mysql, true⟩
  | '\x60' => if d = .mysql ∨ d = .sqlite then some ⟨'\x60', true, true⟩ else none
  | '[' => if d = .mssql ∨ d = .sqlite then some ⟨']', true, d == .mssql⟩ else none
  | _ => none

/-- Whether a line comment begins. MySQL wants a blank behind its two minus signs. -/
def startsComment (d : Dialect) (c : Char) (cs : List Char) : Bool :=
  match d with
  | .mysql => c == '#' || (c == '-' && cs.head? == some '-' && cs.tail.head?.all (·.toNat ≤ 32))
  | _ => c == '-' && cs.head? == some '-'

def endsLine (d : Dialect) (c : Char) : Bool := c == '\n' || (c == '\r' && d != .mysql && d != .sqlite)

/-- Whether a block comment or a dollar quote begins. -/
def startsUnread (d : Dialect) (c : Char) (cs : List Char) : Bool :=
  (c == '/' && cs.head? == some '*') || (c == '$' && d == .postgres)

/-- The characters right behind which a quote is a quote and no more. -/
def separates (c : Char) : Bool :=
  [' ', '\t', '\r', '\n', '(', ')', ',', '.', '?', '+', '-', '*', '/', '%', '<', '>', '=', '|'].contains c

/-- Where the reader stands: outside quotes behind a character, in quotes with what it has read, at the second of
two closing quotes, or in a comment. -/
inductive Reader
  | outside (before : Char)
  | inside (q : Quotation) (read : List Char)
  | doubled (q : Quotation) (read : List Char)
  | comment

def lexemes (d : Dialect) : Reader → List Char → List Lexeme
  | .outside _, [] => []
  | .inside _ _, [] => [.unread]
  | .doubled _ _, [] => [.unread]
  | .comment, [] => []
  | .outside b, c :: cs =>
    if startsComment d c cs then .comment :: lexemes d .comment cs
    else if startsUnread d c cs then [.unread]
    else
      match opened? d c with
      | some q => if separates b then lexemes d (.inside q []) cs else [.unread]
      | none => .bare c :: lexemes d (.outside c) cs
  | .inside q w, c :: cs =>
    if c = q.close then
      if q.doubles && cs.head? == some c then lexemes d (.doubled q (c :: w)) cs
      else q.lexeme (.ofList w.reverse) :: lexemes d (.outside c) cs
    else if c == '\\' && q.escapes d then [.unread]
    else lexemes d (.inside q (c :: w)) cs
  | .doubled q w, _ :: cs => lexemes d (.inside q w) cs
  | .comment, c :: cs => if endsLine d c then lexemes d (.outside ' ') cs else lexemes d .comment cs

/-- The lexemes of the characters are these, up to the first comment if there is one. On a single line nothing
follows a comment. -/
def Reads (d : Dialect) (before : Char) (cs : List Char) (ls : List Lexeme) : Prop :=
  lexemes d (.outside before) cs = ls ∨
    ∃ read rest, read <+: ls ∧ lexemes d (.outside before) cs = read ++ Lexeme.comment :: rest ∧
      ((∀ c ∈ cs, endsLine d c = false) → rest = [])

abbrev HasLexemes (d : Dialect) (s : String) (ls : List Lexeme) : Prop := Reads d ' ' s.toList ls

/-- The characters that stand for themselves outside quotes, whatever the dialect's quotes are. -/
def isBare (d : Dialect) (c : Char) : Bool :=
  !(['\'', '"', '\x60', '[', ']', '\\', '$'].contains c || (d == .mysql && c == '#'))

/-- The characters with every closing quote written twice. -/
def doubling (close : Char) (cs : List Char) : List Char :=
  cs.flatMap fun c => if c = close then [close, close] else [c]

variable {d : Dialect} {b c : Char} {cs rest : List Char} {ls : List Lexeme}

theorem opened?_of_isBare (h : isBare d c = true) : opened? d c = none := by
  unfold opened?
  split
  case h_5 => rfl
  all_goals revert h; cases d <;> decide

theorem lexemes_comment (h : ∀ c ∈ cs, endsLine d c = false) : lexemes d .comment cs = [] := by
  induction cs with
  | nil => rfl
  | cons c cs ih =>
    rw [List.forall_mem_cons] at h
    rw [lexemes, h.1, if_neg Bool.false_ne_true, ih h.2]

/-- Within quotes every character is read as it is, once the quotes that are doubled are made single. -/
theorem lexemes_inside {q : Quotation} (hq : q.doubles = true) (hr : rest.head? ≠ some q.close)
    (hc : q.escapes d = true → '\\' ∉ cs) (w : List Char) :
    lexemes d (.inside q w) (doubling q.close cs ++ q.close :: rest) =
      q.lexeme (.ofList (w.reverse ++ cs)) :: lexemes d (.outside q.close) rest := by
  induction cs generalizing w with
  | nil => simp [doubling, lexemes, hr]
  | cons c cs ih =>
    have hcs : q.escapes d = true → '\\' ∉ cs := fun h hmem => hc h (List.mem_cons_of_mem _ hmem)
    rw [doubling, List.flatMap_cons, ← doubling]
    by_cases hclose : c = q.close
    · simp [lexemes, hclose, hq, ih hcs]
    · have hslash : (c == '\\' && q.escapes d) = false := by
        by_contra h
        rw [Bool.not_eq_false, Bool.and_eq_true, beq_iff_eq] at h
        exact hc h.2 (by simp [h.1])
      simp [lexemes, hclose, hslash, ih hcs]

namespace Reads

theorem nil (d : Dialect) (b : Char) : Reads d b [] [] := .inl rfl

/-- Lexemes that are read before the rest. -/
theorem of_eq {b' : Char} {l : Lexeme} (h : Reads d b' rest ls)
    (heq : lexemes d (.outside b) cs = l :: lexemes d (.outside b') rest) (hsub : rest ⊆ cs) :
    Reads d b cs (l :: ls) := by
  rcases h with h | ⟨read, rest', hread, h, hline⟩
  · exact .inl (by rw [heq, h])
  · refine .inr ⟨l :: read, rest', List.cons_prefix_cons.2 ⟨rfl, hread⟩, by rw [heq, h]; rfl, fun hcs => ?_⟩
    exact hline fun c hc => hcs c (hsub hc)

theorem bare (h : Reads d c rest ls) (hc : isBare d c = true) (hblock : c = '/' → rest.head? ≠ some '*') :
    Reads d b (c :: rest) (.bare c :: ls) := by
  have hunread : startsUnread d c rest = false := by
    have hdollar : c ≠ '$' := by rintro rfl; revert hc; cases d <;> decide
    simpa [startsUnread, hdollar] using hblock
  by_cases hcomment : startsComment d c rest = true
  · refine .inr ⟨[], lexemes d .comment rest, List.nil_prefix, ?_, fun hcs => ?_⟩
    · rw [lexemes, if_pos hcomment, List.nil_append]
    · exact lexemes_comment fun c hc => hcs c (List.mem_cons_of_mem _ hc)
  · refine h.of_eq ?_ (List.subset_cons_self _ _)
    rw [lexemes, if_neg hcomment, hunread, if_neg Bool.false_ne_true, opened?_of_isBare hc]

theorem quoted {o : Char} {q : Quotation} {s : String} (h : Reads d q.close rest ls) (ho : opened? d o = some q)
    (hb : separates b = true) (hq : q.doubles = true) (hr : rest.head? ≠ some q.close)
    (hs : q.escapes d = true → '\\' ∉ s.toList) :
    Reads d b (o :: (doubling q.close s.toList ++ [q.close]) ++ rest) (q.lexeme s :: ls) := by
  have hplain : o ≠ '-' ∧ o ≠ '#' ∧ o ≠ '/' ∧ o ≠ '$' := by
    refine ⟨?_, ?_, ?_, ?_⟩ <;> rintro rfl <;> cases ho
  have hcomment (cs : List Char) : startsComment d o cs = false := by cases d <;> simp [startsComment, hplain]
  have hunread (cs : List Char) : startsUnread d o cs = false := by simp [startsUnread, hplain]
  refine h.of_eq ?_ (List.subset_append_right _ _)
  rw [List.cons_append, lexemes, hcomment, hunread, ho]
  simp [hb, lexemes_inside hq hr hs]

end Reads

end SheetQuery.Sql
