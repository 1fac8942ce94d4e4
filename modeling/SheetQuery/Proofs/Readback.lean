import SheetQuery.Proofs.Lexing

/-! Laid out SQL read back. Whatever follows a layout, its characters are read as its pieces, its pieces as
its items, and a comment begins in it exactly where two minus signs meet. -/

namespace SheetQuery.Sql

namespace InfixOp

def piece (op : InfixOp) : Piece :=
  match op with
  | or | xor | and | is | regexp => .word op.text
  | _ => .symbol op.text

def item (op : InfixOp) : Item :=
  match op with
  | or | xor | and | is | regexp => .word op.text
  | _ => .symbol op.text

end InfixOp

namespace Doc

def pieces : Doc → List Piece
  | empty => []
  | word w _ => [.word w.text]
  | value v => [.value v]
  | text s => [.text s]
  | column none name => [.name name]
  | column (some table) name => [.name table, .word ".", .name name]
  | binary op l r => l.pieces ++ op.piece :: r.pieces
  | minus g => .symbol "-" :: g.pieces
  | not g => .word "NOT" :: g.pieces
  | spaced l r => l.pieces ++ r.pieces
  | listed l r => l.pieces ++ .comma :: r.pieces
  | parens g => .opening "" :: g.pieces ++ [.closing]
  | call name g => .opening name.text :: g.pieces ++ [.closing]
  | choice g => .word "CASE" :: g.pieces ++ [.word "END"]

def items : Doc → List Item
  | empty => []
  | word w _ => [.word w.text]
  | value v => [.value v]
  | text s => [.text s]
  | column none name => [.name name]
  | column (some table) name => [.name table, .word ".", .name name]
  | binary op l r => l.items ++ op.item :: r.items
  | minus g => .symbol "-" :: g.items
  | not g => .word "NOT" :: g.items
  | spaced l r => l.items ++ r.items
  | listed l r => l.items ++ .comma :: r.items
  | parens g => [.group "" g.items]
  | call name g => [.group name.text g.items]
  | choice g => [.choice g.items]

end Doc

/-- Nothing follows, or what no piece goes on into. -/
def Separated (rest : List Char) : Prop := ∀ c ∈ rest.head?, c = ' ' ∨ c = ',' ∨ c = ')'

theorem Separated.nil : Separated [] := by simp [Separated]

theorem Separated.cons {c : Char} (h : c = ' ' ∨ c = ',' ∨ c = ')') (cs : List Char) : Separated (c :: cs) := by
  intro x hx
  obtain rfl : c = x := by simpa using hx
  exact h

namespace Mode

theorem upTo_eq_flush_append {m : Mode} {c : Char} (h : ∀ w, m = word w → c ≠ '(') :
    m.upTo c = m.flush ++ between.upTo c := by
  unfold upTo
  split <;> simp_all [flush]

end Mode

section
variable (d : Dialect) (vs : List Binding)

theorem lex_stop {m : Mode} {c : Char} (he : m.extend c = none) (hc : m.startsComment c = false)
    (hw : ∀ w, m = .word w → c ≠ '(') (cs : List Char) :
    lex d m vs (c :: cs) = m.flush ++ lex d .between vs (c :: cs) := by
  have hb : Mode.between.extend c = none := rfl
  have hbc : Mode.between.startsComment c = false := rfl
  simp only [lex, he, hc, hb, hbc, Bool.false_eq_true, if_false]
  split
  · cases vs <;> simp [Mode.flush]
  · rw [Mode.upTo_eq_flush_append hw, List.append_assoc]

theorem lex_separated {m : Mode} {rest : List Char} (h : Separated rest)
    (he : ∀ c, c = ' ' ∨ c = ',' ∨ c = ')' → m.extend c = none) :
    lex d m vs rest = m.flush ++ lex d .between vs rest := by
  cases rest with
  | nil => simp [lex, Mode.flush]
  | cons c cs =>
    have hc := h c rfl
    refine lex_stop d vs (he c hc) ?_ ?_ cs
    · unfold Mode.startsComment
      rcases hc with rfl | rfl | rfl <;> split <;> simp
    · rintro w - rfl
      simp at hc

theorem lex_between_space (cs : List Char) : lex d .between vs (' ' :: cs) = lex d .between vs cs := by
  cases d <;> rfl

theorem lex_between_word {c : Char} (h : isWordChar c) (cs : List Char) :
    lex d .between vs (c :: cs) = lex d (.word [c]) vs cs := by
  have hs : isSymbolChar c = false := isSymbolChar_eq_false h
  have hc : c ≠ '?' ∧ c ≠ '(' ∧ c ≠ ')' ∧ c ≠ ',' := by
    refine ⟨?_, ?_, ?_, ?_⟩ <;> rintro rfl <;> revert h <;> decide
  have hu : Mode.between.upTo c = [] := by
    unfold Mode.upTo
    split <;> simp_all [Mode.flush]
  simp [lex, Mode.extend, Mode.startsComment, Mode.start, quoteEnd?_eq_none d (.inl h), hs, h, hc, hu]

theorem lex_word (w : List Char) {cs : List Char} (h : ∀ c ∈ cs, isWordChar c) (rest : List Char) :
    lex d (.word w) vs (cs ++ rest) = lex d (.word (cs.reverse ++ w)) vs rest := by
  induction cs generalizing w with
  | nil => rfl
  | cons c cs ih =>
    have hc : isWordChar c := h c List.mem_cons_self
    simp only [List.cons_append, lex, Mode.extend, hc, if_true]
    rw [ih (c :: w) (fun x hx => h x (List.mem_cons_of_mem c hx))]
    simp

theorem lex_between_text (x : Word) (rest : List Char) :
    lex d .between vs (x.text.toList ++ rest) = lex d (.word x.text.toList.reverse) vs rest := by
  obtain ⟨s, hne, hplain⟩ := x
  cases hs : s.toList with
  | nil => exact absurd hs hne
  | cons c cs =>
    rw [hs] at hplain
    rw [List.cons_append, lex_between_word d vs (hplain c List.mem_cons_self),
      lex_word d vs [c] (fun x hx => hplain x (List.mem_cons_of_mem c hx))]
    simp

theorem lex_inside (close : Char) (w cs rest : List Char) :
    lex d (.inside close w) vs
        (cs.flatMap (fun c => if c = close then [close, close] else [c]) ++ close :: rest) =
      lex d (.closing close (cs.reverse ++ w)) vs rest := by
  induction cs generalizing w with
  | nil => simp [lex, Mode.extend]
  | cons c cs ih =>
    by_cases hc : c = close
    · subst hc
      simp [lex, Mode.extend, ih]
    · simp [lex, Mode.extend, ih, hc]

theorem lex_op (op : InfixOp) (rest : List Char) :
    lex d .between vs (' ' :: (op.text.toList ++ ' ' :: rest)) = op.piece :: lex d .between vs rest := by
  cases op <;> cases d <;> rfl

theorem lex_name (name : String) {rest : List Char} (h : Separated rest ∨ rest.head? = some '.') :
    lex d .between vs ((d.quote name).toList ++ rest) = .name name :: lex d .between vs rest := by
  have hq : d.quotes.2 ≠ '\'' := by cases d <;> decide
  have hs : lex d (.closing d.quotes.2 name.toList.reverse) vs rest =
      [Piece.name name] ++ lex d .between vs rest := by
    have hf : (Mode.closing d.quotes.2 name.toList.reverse).flush = [.name name] := by
      simp [Mode.flush, hq]
    rw [← hf]
    rcases h with h | h
    · refine lex_separated d vs h fun c hc => ?_
      rcases hc with rfl | rfl | rfl <;> cases d <;> rfl
    · cases rest with
      | nil => simp at h
      | cons c cs =>
        obtain rfl : c = '.' := by simpa using h
        refine lex_stop d vs ?_ rfl (by simp) cs
        cases d <;> rfl
  have ho : lex d .between vs (d.quotes.1 :: (name.toList.flatMap fun c =>
      if c = d.quotes.2 then [d.quotes.2, d.quotes.2] else [c]) ++ d.quotes.2 :: rest) =
      lex d (.inside d.quotes.2 []) vs ((name.toList.flatMap fun c =>
      if c = d.quotes.2 then [d.quotes.2, d.quotes.2] else [c]) ++ d.quotes.2 :: rest) := by
    cases d <;> rfl
  simp only [Dialect.quote, String.toList_ofList, List.append_assoc, List.cons_append,
    List.nil_append] at ho ⊢
  rw [ho, lex_inside, List.append_nil, hs, List.singleton_append]

theorem lex_text (s : String) {rest : List Char} (h : Separated rest) :
    lex d .between vs ((Doc.text s).chars d ++ rest) = .text s :: lex d .between vs rest := by
  have ho : lex d .between vs ('\'' :: ((s.toList.flatMap fun c =>
      if c = '\'' then ['\'', '\''] else [c]) ++ '\'' :: rest)) =
      lex d (.inside '\'' []) vs ((s.toList.flatMap fun c =>
      if c = '\'' then ['\'', '\''] else [c]) ++ '\'' :: rest) := by
    cases d <;> rfl
  have hs := lex_separated d vs (m := .closing '\'' s.toList.reverse) h fun c hc => by
    rcases hc with rfl | rfl | rfl <;> rfl
  simp only [Doc.chars_text, Text.replaceChar, String.toList_ofList, List.append_assoc,
    List.cons_append, List.nil_append]
  rw [ho, lex_inside, List.append_nil, hs]
  simp [Mode.flush]

theorem Word.head_chars (w : Word) (rest : List Char) :
    ∀ c ∈ (w.text.toList ++ rest).head?, isSymbolChar c = false := by
  obtain ⟨s, hne, hplain⟩ := w
  cases hs : s.toList with
  | nil => exact absurd hs hne
  | cons c cs =>
    intro x hx
    obtain rfl : c = x := by simpa [hs] using hx
    exact isSymbolChar_eq_false (hplain c (by simp [hs]))

theorem head_quote (name : String) (rest : List Char) :
    ∀ c ∈ ((d.quote name).toList ++ rest).head?, isSymbolChar c = false := by
  intro c hc
  obtain rfl : d.quotes.1 = c := by simpa [Dialect.quote] using hc
  cases d <;> decide

/-- What a way of writing values has to keep to: those with a sign and only those begin with it, and no
value runs into what follows or begins a comment. -/
structure Tame (w : Binding → List Char) (neg : Binding → Bool) : Prop where
  nonempty : ∀ v, w v ≠ []
  head_minus : ∀ v, neg v = true → (w v).head? = some '-'
  head_other : ∀ v, neg v = false → ∀ c ∈ (w v).head?, isSymbolChar c = false
  comment : ∀ v rest, Separated rest →
    hasComment d .outside (w v ++ rest) = hasComment d .outside rest

def noSign : Binding → Bool := fun _ => false

variable {w : Binding → List Char} {neg : Binding → Bool}

theorem head_charsWith (hw : Tame d w neg) {g : Doc} (hg : g.startsMinus neg = false) {rest : List Char}
    (h : Separated rest) : ∀ c ∈ (g.charsWith d w ++ rest).head?, isSymbolChar c = false := by
  induction g generalizing rest with
  | empty =>
    intro c hc
    rcases h c hc with rfl | rfl | rfl <;> decide
  | word w _ => exact w.head_chars rest
  | value v =>
    cases hv : w v with
    | nil => exact absurd hv (hw.nonempty v)
    | cons x xs => simpa [Doc.charsWith, hv] using hw.head_other v hg
  | text s => simp [Doc.charsWith]; decide
  | column table name =>
    cases table with
    | none => exact head_quote d name rest
    | some table =>
      rw [Doc.charsWith, List.append_assoc]
      exact head_quote d table _
  | binary op l r ihl _ =>
    rw [Doc.charsWith, List.append_assoc, List.append_assoc]
    exact ihl hg (.cons (.inl rfl) _)
  | minus g => simp at hg
  | not g => simp [Doc.charsWith]; decide
  | spaced l r ihl _ =>
    rw [Doc.charsWith, List.append_assoc]
    exact ihl hg (.cons (.inl rfl) _)
  | listed l r ihl _ =>
    rw [Doc.charsWith, List.append_assoc]
    exact ihl hg (.cons (.inr (.inl rfl)) _)
  | parens g => simp [Doc.charsWith]; decide
  | call name g =>
    rw [Doc.charsWith, List.append_assoc, List.append_assoc]
    exact name.head_chars _
  | choice g => simp [Doc.charsWith]; decide

theorem head_charsWith_minus (hw : Tame d w neg) {g : Doc} (hg : g.startsMinus neg = true)
    (rest : List Char) : (g.charsWith d w ++ rest).head? = some '-' := by
  induction g generalizing rest with
  | value v =>
    cases hv : w v with
    | nil => exact absurd hv (hw.nonempty v)
    | cons x xs => simpa [Doc.charsWith, hv] using hw.head_minus v hg
  | binary op l r ihl _ =>
    rw [Doc.charsWith, List.append_assoc, List.append_assoc]
    exact ihl hg _
  | minus g => rfl
  | spaced l r ihl _ =>
    rw [Doc.charsWith, List.append_assoc]
    exact ihl hg _
  | listed l r ihl _ =>
    rw [Doc.charsWith, List.append_assoc]
    exact ihl hg _
  | _ => simp at hg

theorem hasComment_cons {c : Char} (hs : isSymbolChar c = false) (hq : quoteEnd? d c = none)
    (cs : List Char) : hasComment d .outside (c :: cs) = hasComment d .outside cs := by
  simp [hasComment, Mode.commentAt_eq_false hs, Quoting.start, hq]

theorem tame_placeholder : Tame d (fun _ => ['?']) noSign where
  nonempty := by simp
  head_minus := by simp [noSign]
  head_other := by
    intro v _ c hc
    obtain rfl : '?' = c := by simpa using hc
    decide
  comment v rest _ := hasComment_cons d (by decide) (by cases d <;> rfl) rest

theorem lex_minus {cs : List Char} (h : ∀ c ∈ cs.head?, isSymbolChar c = false) :
    lex d .between vs ('-' :: cs) = .symbol "-" :: lex d .between vs cs := by
  have ho : lex d .between vs ('-' :: cs) = lex d (.symbol ['-']) vs cs := by cases d <;> rfl
  rw [ho]
  cases cs with
  | nil => rfl
  | cons c cs =>
    have hc := h c rfl
    refine lex_stop d vs ?_ ?_ (by simp) cs
    · simp [Mode.extend, hc]
    · have : c ≠ '-' := by rintro rfl; revert hc; decide
      simpa [Mode.startsComment] using this

theorem lex_column (table : Option String) (name : String) {rest : List Char} (h : Separated rest) :
    lex d .between vs ((Doc.column table name).chars d ++ rest) =
      (Doc.column table name).pieces ++ lex d .between vs rest := by
  cases table with
  | none => exact lex_name d vs name (.inl h)
  | some table =>
    have hd (cs : List Char) : lex d .between vs ('.' :: d.quotes.1 :: cs) =
        .word "." :: lex d .between vs (d.quotes.1 :: cs) := by
      cases d <;> rfl
    have hn := lex_name d vs name (.inl h)
    rw [Doc.chars, Doc.charsWith, List.append_assoc, lex_name d vs table (.inr rfl)]
    simp only [Dialect.quote, String.toList_ofList, List.cons_append] at hn ⊢
    rw [hd, hn]
    rfl

theorem lex_not (cs : List Char) :
    lex d .between vs ('N' :: 'O' :: 'T' :: ' ' :: cs) = .word "NOT" :: lex d .between vs cs := by
  cases d <;> rfl

theorem lex_comma (cs : List Char) :
    lex d .between vs (',' :: ' ' :: cs) = .comma :: lex d .between vs cs := by
  cases d <;> rfl

theorem lex_opening (cs : List Char) :
    lex d .between vs ('(' :: cs) = .opening "" :: lex d .between vs cs := by
  cases d <;> rfl

theorem lex_called (w cs : List Char) :
    lex d (.word w) vs ('(' :: cs) =
      .opening (String.ofList w.reverse) :: lex d .between vs cs := by
  cases d <;> rfl

theorem lex_closing (cs : List Char) :
    lex d .between vs (')' :: cs) = .closing :: lex d .between vs cs := by
  cases d <;> rfl

theorem lex_case (cs : List Char) :
    lex d .between vs ('C' :: 'A' :: 'S' :: 'E' :: ' ' :: cs) = .word "CASE" :: lex d .between vs cs := by
  cases d <;> rfl

theorem lex_end {rest : List Char} (h : Separated rest) :
    lex d .between vs (' ' :: 'E' :: 'N' :: 'D' :: rest) = .word "END" :: lex d .between vs rest := by
  have hw : lex d .between vs (' ' :: 'E' :: 'N' :: 'D' :: rest) = lex d (.word ['D', 'N', 'E']) vs rest := by
    cases d <;> rfl
  rw [hw, lex_separated d vs h (by rintro c (rfl | rfl | rfl) <;> rfl)]
  rfl

/-- A layout is read piece by piece, whatever follows it. -/
theorem lex_chars {g : Doc} (hg : g.comment noSign = false) {rest : List Char}
    (h : Separated rest) :
    lex d .between (g.values ++ vs) (g.chars d ++ rest) = g.pieces ++ lex d .between vs rest := by
  induction g generalizing vs rest with
  | empty => rfl
  | word w _ =>
    rw [Doc.chars_word, Doc.values, List.nil_append, lex_between_text,
      lex_separated d vs h (by rintro c (rfl | rfl | rfl) <;> rfl)]
    simp [Mode.flush, Doc.pieces]
  | value v => cases d <;> rfl
  | text s => exact lex_text d vs s h
  | column table name => exact lex_column d vs table name h
  | binary op l r ihl ihr =>
    simp only [Doc.comment, Bool.or_eq_false_iff] at hg
    simp only [Doc.chars_binary, Doc.values, Doc.pieces, List.append_assoc, List.cons_append]
    rw [ihl _ hg.1 (.cons (.inl rfl) _), lex_op, ihr _ hg.2 h]
  | minus g ih =>
    simp only [Doc.comment, Bool.or_eq_false_iff] at hg
    have hh : ∀ c ∈ (g.chars d ++ rest).head?, isSymbolChar c = false :=
      head_charsWith d (tame_placeholder d) hg.1 h
    rw [Doc.chars_minus, List.cons_append, lex_minus d _ hh, Doc.values, ih _ hg.2 h]
    rfl
  | not g ih =>
    simp only [Doc.chars_not, Doc.values, Doc.pieces, List.cons_append, List.nil_append]
    rw [lex_not, ih _ hg h]
  | spaced l r ihl ihr =>
    simp only [Doc.comment, Bool.or_eq_false_iff] at hg
    simp only [Doc.chars_spaced, Doc.values, Doc.pieces, List.append_assoc, List.cons_append]
    rw [ihl _ hg.1 (.cons (.inl rfl) _), lex_between_space, ihr _ hg.2 h]
  | listed l r ihl ihr =>
    simp only [Doc.comment, Bool.or_eq_false_iff] at hg
    simp only [Doc.chars_listed, Doc.values, Doc.pieces, List.append_assoc, List.cons_append]
    rw [ihl _ hg.1 (.cons (.inr (.inl rfl)) _), lex_comma, ihr _ hg.2 h]
  | parens g ih =>
    simp only [Doc.chars_parens, Doc.values, Doc.pieces, List.append_assoc, List.cons_append,
      List.nil_append]
    rw [lex_opening, ih _ hg (.cons (.inr (.inr rfl)) _), lex_closing]
  | call name g ih =>
    simp only [Doc.chars_call, Doc.values, Doc.pieces, List.append_assoc, List.cons_append,
      List.nil_append]
    rw [lex_between_text, lex_called, ih _ hg (.cons (.inr (.inr rfl)) _), lex_closing,
      List.reverse_reverse, String.ofList_toList]
  | choice g ih =>
    simp only [Doc.chars_choice, Doc.values, Doc.pieces, List.append_assoc, List.cons_append,
      List.nil_append]
    rw [lex_case, ih _ hg (.cons (.inl rfl) _), lex_end d vs h]

theorem hasComment_word {cs : List Char} (h : ∀ c ∈ cs, isWordChar c = true) (rest : List Char) :
    hasComment d .outside (cs ++ rest) = hasComment d .outside rest := by
  induction cs with
  | nil => rfl
  | cons c cs ih =>
    have hc := h c List.mem_cons_self
    rw [List.cons_append, hasComment_cons d (isSymbolChar_eq_false hc) (quoteEnd?_eq_none d (.inl hc)),
      ih fun x hx => h x (List.mem_cons_of_mem c hx)]

theorem hasComment_inside (close : Char) (cs rest : List Char) :
    hasComment d (.inside close)
        (cs.flatMap (fun c => if c = close then [close, close] else [c]) ++ close :: rest) =
      hasComment d (.closing close) rest := by
  induction cs with
  | nil => simp [hasComment]
  | cons c cs ih => by_cases hc : c = close <;> simp [hasComment, ih, hc]

theorem hasComment_closing {close : Char} {rest : List Char} (h : ∀ c ∈ rest.head?, c ≠ close) :
    hasComment d (.closing close) rest = hasComment d .outside rest := by
  cases rest with
  | nil => rfl
  | cons c cs => simp [hasComment, h c rfl]

theorem hasComment_quote (name : String) {rest : List Char} (h : ∀ c ∈ rest.head?, c ≠ d.quotes.2) :
    hasComment d .outside ((d.quote name).toList ++ rest) = hasComment d .outside rest := by
  have ho (cs : List Char) : hasComment d .outside (d.quotes.1 :: cs) = hasComment d (.inside d.quotes.2) cs := by
    cases d <;> rfl
  simp only [Dialect.quote, String.toList_ofList, List.append_assoc, List.cons_append, List.nil_append]
  rw [ho, hasComment_inside, hasComment_closing d h]

theorem Separated.ne_quote {rest : List Char} (h : Separated rest) : ∀ c ∈ rest.head?, c ≠ d.quotes.2 := by
  intro c hc
  rcases h c hc with rfl | rfl | rfl <;> cases d <;> decide

theorem hasComment_op (op : InfixOp) (rest : List Char) :
    hasComment d .outside (' ' :: (op.text.toList ++ ' ' :: rest)) = hasComment d .outside rest := by
  cases op <;> cases d <;> rfl

/-- A comment begins in a layout exactly where two minus signs meet, or in what follows it. -/
theorem hasComment_charsWith (hw : Tame d w neg) (g : Doc) {rest : List Char} (h : Separated rest) :
    hasComment d .outside (g.charsWith d w ++ rest) =
      (g.comment neg || hasComment d .outside rest) := by
  have hspace := hasComment_cons d (c := ' ') (by decide) (by cases d <;> rfl)
  have hcomma := hasComment_cons d (c := ',') (by decide) (by cases d <;> rfl)
  have hclose := hasComment_cons d (c := ')') (by decide) (by cases d <;> rfl)
  have hopen := hasComment_cons d (c := '(') (by decide) (by cases d <;> rfl)
  induction g generalizing rest with
  | empty => rfl
  | word x _ => exact hasComment_word d x.plain rest
  | value v => exact hw.comment v rest h
  | text s =>
    have ho (cs : List Char) : hasComment d .outside ('\'' :: cs) = hasComment d (.inside '\'') cs := by
      cases d <;> rfl
    simp only [Doc.charsWith, Text.replaceChar, String.toList_ofList, List.append_assoc, List.cons_append,
      List.nil_append, Doc.comment, Bool.false_or]
    rw [ho, hasComment_inside, hasComment_closing]
    intro c hc
    rcases h c hc with rfl | rfl | rfl <;> decide
  | column table name =>
    cases table with
    | none => exact hasComment_quote d name (h.ne_quote d)
    | some table =>
      have hdot := hasComment_cons d (c := '.') (by decide) (by cases d <;> rfl)
      rw [Doc.charsWith, List.append_assoc, hasComment_quote, List.cons_append, hdot,
        hasComment_quote d name (h.ne_quote d), Doc.comment, Bool.false_or]
      intro c hc
      obtain rfl : '.' = c := by simpa using hc
      cases d <;> decide
  | binary op l r ihl ihr =>
    simp only [Doc.charsWith, List.append_assoc, List.cons_append, Doc.comment]
    rw [ihl (.cons (.inl rfl) _), hasComment_op, ihr h, Bool.or_assoc]
  | minus g ih =>
    have hs : Quoting.start d '-' = .outside := by cases d <;> rfl
    have hat : commentAt '-' (g.charsWith d w ++ rest) = g.startsMinus neg := by
      cases hm : g.startsMinus neg with
      | true => simp [commentAt, head_charsWith_minus d hw hm]
      | false =>
        have hne : (g.charsWith d w ++ rest).head? ≠ some '-' := fun he =>
          absurd (head_charsWith d hw hm h '-' he) (by decide)
        simpa [commentAt] using hne
    rw [Doc.charsWith, List.cons_append, hasComment, hs, hat, ih h, Doc.comment, Bool.or_assoc]
  | not g ih =>
    have ho (cs : List Char) : hasComment d .outside ('N' :: 'O' :: 'T' :: ' ' :: cs) =
        hasComment d .outside cs := by
      cases d <;> rfl
    simp only [Doc.charsWith, List.cons_append, List.nil_append, ho, ih h, Doc.comment]
  | spaced l r ihl ihr =>
    simp only [Doc.charsWith, List.append_assoc, List.cons_append, Doc.comment]
    rw [ihl (.cons (.inl rfl) _), hspace, ihr h, Bool.or_assoc]
  | listed l r ihl ihr =>
    simp only [Doc.charsWith, List.append_assoc, List.cons_append, Doc.comment]
    rw [ihl (.cons (.inr (.inl rfl)) _), hcomma, hspace, ihr h, Bool.or_assoc]
  | parens g ih =>
    simp only [Doc.charsWith, List.append_assoc, List.cons_append, List.nil_append, Doc.comment]
    rw [hopen, ih (.cons (.inr (.inr rfl)) _), hclose]
  | call name g ih =>
    simp only [Doc.charsWith, List.append_assoc, List.cons_append, List.nil_append, Doc.comment]
    rw [hasComment_word d name.plain, hopen, ih (.cons (.inr (.inr rfl)) _), hclose]
  | choice g ih =>
    have ho (cs : List Char) : hasComment d .outside ('C' :: 'A' :: 'S' :: 'E' :: ' ' :: cs) =
        hasComment d .outside cs := by
      cases d <;> rfl
    have he : hasComment d .outside (' ' :: 'E' :: 'N' :: 'D' :: rest) = hasComment d .outside rest := by
      cases d <;> rfl
    simp only [Doc.charsWith, List.append_assoc, List.cons_append, List.nil_append, ho, Doc.comment]
    rw [ih (.cons (.inl rfl) _), he]

end

namespace Nest

theorem step_op (n : Nest) (op : InfixOp) : n.step op.piece = some (n.add op.item) := by
  cases op <;> rfl

/-- A layout adds its items to the innermost open bracket. -/
theorem run_pieces (g : Doc) (ps : List Piece) (is : List Item) (outer : List (Bracket × List Item)) :
    run (g.pieces ++ ps) ⟨is, outer⟩ = run ps ⟨is ++ g.items, outer⟩ := by
  induction g generalizing ps is outer with
  | empty => simp [Doc.pieces, Doc.items]
  | word w h => simp [Doc.pieces, Doc.items, run, step, add, h]
  | value v => rfl
  | text s => rfl
  | column table name =>
    cases table with
    | none => rfl
    | some table => simp [Doc.pieces, Doc.items, run, step, add]
  | binary op l r ihl ihr =>
    simp only [Doc.pieces, Doc.items, List.append_assoc, List.cons_append]
    rw [ihl, run, step_op, Option.bind_some, add, ihr]
    simp
  | minus g ih =>
    simp only [Doc.pieces, Doc.items, List.cons_append, run, step, Option.bind_some, add]
    rw [ih]
    simp
  | not g ih =>
    have hs : (⟨is, outer⟩ : Nest).step (.word "NOT") = some ⟨is ++ [Item.word "NOT"], outer⟩ := rfl
    simp only [Doc.pieces, Doc.items, List.cons_append, run, hs, Option.bind_some]
    rw [ih]
    simp
  | spaced l r ihl ihr =>
    simp only [Doc.pieces, Doc.items, List.append_assoc]
    rw [ihl, ihr, List.append_assoc]
  | listed l r ihl ihr =>
    simp only [Doc.pieces, Doc.items, List.append_assoc, List.cons_append]
    rw [ihl, run, step, Option.bind_some, add, ihr]
    simp
  | parens g ih =>
    simp only [Doc.pieces, Doc.items, List.append_assoc, List.cons_append, run, step,
      Option.bind_some, enter]
    rw [ih]
    simp [run, step]
  | call name g ih =>
    simp only [Doc.pieces, Doc.items, List.append_assoc, List.cons_append, run, step,
      Option.bind_some, enter]
    rw [ih]
    simp [run, step]
  | choice g ih =>
    simp only [Doc.pieces, Doc.items, List.append_assoc, List.cons_append, run, step,
      Option.bind_some, enter, if_true]
    rw [ih]
    simp [run, step]

end Nest

namespace Spells

variable {d : Dialect} {f : Fragment} {g : Doc}

theorem items_eq (h : Spells d f g) (hg : g.comment noSign = false) : items d f = some g.items := by
  have hl := lex_chars d [] hg Separated.nil
  rw [List.append_nil, List.append_nil, ← h.text, ← h.bindings] at hl
  have hr := Nest.run_pieces g [] [] []
  simp only [lex, Mode.flush] at hl
  simp only [items, hl, hr, Nest.run, List.nil_append]

theorem hasComment_eq (h : Spells d f g) : hasComment d .outside f.text.toList = g.comment noSign := by
  have hc := hasComment_charsWith d (tame_placeholder d) g Separated.nil
  rw [List.append_nil] at hc
  rw [h.text, Doc.chars, hc, hasComment, Bool.or_false]

theorem items_eq_none (h : Spells d f g) (hg : g.comment noSign = true) : items d f = none := by
  have hm : .comment ∈ lex d .between f.bindings f.text.toList := by
    rw [comment_mem_lex]
    exact .inr (h.hasComment_eq.trans hg)
  simp only [items, Nest.run_comment hm]

end Spells

end SheetQuery.Sql
