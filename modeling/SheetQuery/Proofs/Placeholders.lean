import SheetQuery.Proofs.Inlining

/-! Characters in and out of quotes. Every character of a text is flagged as standing outside quotes or not;
the flags tell its placeholders and parentheses from those within quoted texts and names. A laid out text
ends outside quotes, its parentheses match, and it has one placeholder for each value. -/

namespace SheetQuery.Sql

namespace Quoting

def next (d : Dialect) : Quoting → Char → Quoting
  | outside, c => start d c
  | inside close, c => if c = close then closing close else inside close
  | closing close, c => if c = close then inside close else start d c

def isOutside : Quoting → Bool
  | outside => true
  | _ => false

end Quoting

/-- The characters of a text, each with whether it stands outside quotes, unless the text ends within them.
The quotes themselves do not stand outside. -/
def flagged (d : Dialect) : Quoting → List Char → Option (List (Char × Bool))
  | .inside _, [] => none
  | _, [] => some []
  | q, c :: cs => (flagged d (q.next d c) cs).map ((c, (q.next d c).isOutside) :: ·)

def bareChars (ms : List (Char × Bool)) : List Char := (ms.filter (·.2)).map (·.1)

/-- Whether every parenthesis closes another one that is open, when `n` are open already, and none is left
open. -/
def closes : Nat → List Char → Bool
  | n, [] => n == 0
  | n, c :: cs =>
    if c = '(' then closes (n + 1) cs
    else if c = ')' then 0 < n && closes (n - 1) cs
    else closes n cs

/-- Puts a value in the place of each placeholder outside quotes, if there are as many of the one as of the
other. -/
def putIn (d : Dialect) (vs : List Binding) : List (Char × Bool) → Option (List Char)
  | [] => if vs.isEmpty then some [] else none
  | (c, outside) :: ms =>
    if c = '?' ∧ outside = true then
      vs.head?.bind fun v => (putIn d vs.tail ms).map (literalChars d v ++ ·)
    else (putIn d vs ms).map (c :: ·)

def bare (cs : List Char) : List (Char × Bool) := cs.map (·, true)

def quoted (cs : List Char) : List (Char × Bool) := cs.map (·, false)

def Doc.flagged (d : Dialect) : Doc → List (Char × Bool)
  | empty => []
  | word x _ => bare x.text.toList
  | value _ => bare ['?']
  | text s => quoted ((text s).chars d)
  | column none name => quoted (d.quote name).toList
  | column (some table) name => quoted (d.quote table).toList ++ bare ['.'] ++ quoted (d.quote name).toList
  | binary op l r => l.flagged d ++ bare (' ' :: op.text.toList ++ [' ']) ++ r.flagged d
  | minus g => bare ['-'] ++ g.flagged d
  | not g => bare ['N', 'O', 'T', ' '] ++ g.flagged d
  | spaced l r => l.flagged d ++ bare [' '] ++ r.flagged d
  | listed l r => l.flagged d ++ bare [',', ' '] ++ r.flagged d
  | parens g => bare ['('] ++ g.flagged d ++ bare [')']
  | call name g => bare name.text.toList ++ bare ['('] ++ g.flagged d ++ bare [')']
  | choice g => bare ['C', 'A', 'S', 'E', ' '] ++ g.flagged d ++ bare [' ', 'E', 'N', 'D']

section
variable {d : Dialect}

theorem flagged_bare {cs : List Char} (h : cs.all (quoteEnd? d · == none) = true) (rest : List Char) :
    flagged d .outside (cs ++ rest) = (flagged d .outside rest).map (bare cs ++ ·) := by
  induction cs with
  | nil => simp [bare]
  | cons c cs ih =>
    simp only [List.all_cons, Bool.and_eq_true, beq_iff_eq] at h
    have hc : Quoting.next d .outside c = .outside := by rw [Quoting.next, Quoting.start, h.1]
    rw [List.cons_append, flagged, hc, ih h.2, Option.map_map]
    rfl

theorem flagged_word (x : Word) (rest : List Char) :
    flagged d .outside (x.text.toList ++ rest) = (flagged d .outside rest).map (bare x.text.toList ++ ·) :=
  flagged_bare (List.all_eq_true.2 fun c hc => beq_iff_eq.2 (quoteEnd?_eq_none d (.inl (x.plain c hc)))) rest

theorem flagged_closing {close : Char} {rest : List Char} (h : ∀ c ∈ rest.head?, c ≠ close) :
    flagged d (.closing close) rest = flagged d .outside rest := by
  cases rest with
  | nil => rfl
  | cons c cs =>
    have hn : Quoting.next d (.closing close) c = Quoting.next d .outside c := by
      simp [Quoting.next, h c rfl]
    rw [flagged, flagged, hn]

theorem flagged_inside (close : Char) (cs rest : List Char) : flagged d (.inside close)
      (cs.flatMap (fun c => if c = close then [close, close] else [c]) ++ close :: rest) =
    (flagged d (.closing close) rest).map
      (quoted (cs.flatMap (fun c => if c = close then [close, close] else [c]) ++ [close]) ++ ·) := by
  induction cs with
  | nil => simp [flagged, Quoting.next, Quoting.isOutside, quoted]
  | cons c cs ih =>
    by_cases hc : c = close
    · simp [hc, flagged, Quoting.next, Quoting.isOutside, ih, quoted, Function.comp_def]
    · simp [hc, flagged, Quoting.next, Quoting.isOutside, ih, quoted, Function.comp_def]

theorem flagged_quoted (o close : Char) (ho : quoteEnd? d o = some close) (cs : List Char) {rest : List Char}
    (h : ∀ c ∈ rest.head?, c ≠ close) : flagged d .outside
      (o :: cs.flatMap (fun c => if c = close then [close, close] else [c]) ++ close :: rest) =
    (flagged d .outside rest).map
      (quoted (o :: cs.flatMap (fun c => if c = close then [close, close] else [c]) ++ [close]) ++ ·) := by
  have hn : Quoting.next d .outside o = .inside close := by rw [Quoting.next, Quoting.start, ho]
  rw [List.cons_append, flagged, hn, flagged_inside, flagged_closing h, Option.map_map]
  rfl

theorem flagged_quote (name : String) {rest : List Char} (h : ∀ c ∈ rest.head?, c ≠ d.quotes.2) :
    flagged d .outside ((d.quote name).toList ++ rest) =
      (flagged d .outside rest).map (quoted (d.quote name).toList ++ ·) := by
  have hq := flagged_quoted (d := d) d.quotes.1 d.quotes.2 (by cases d <;> rfl) name.toList h
  simpa [Dialect.quote] using hq

theorem flagged_op (op : InfixOp) (rest : List Char) :
    flagged d .outside (' ' :: op.text.toList ++ [' '] ++ rest) =
      (flagged d .outside rest).map (bare (' ' :: op.text.toList ++ [' ']) ++ ·) :=
  flagged_bare (by cases op <;> cases d <;> decide) rest

/-- A layout is flagged piece by piece, whatever follows it. -/
theorem flagged_chars (g : Doc) {rest : List Char} (h : Separated rest) :
    flagged d .outside (g.chars d ++ rest) = (flagged d .outside rest).map (g.flagged d ++ ·) := by
  have hfixed (cs : List Char) (hcs : cs.all (quoteEnd? d · == none) = true) (rest : List Char) :
      flagged d .outside (cs ++ rest) = (flagged d .outside rest).map (bare cs ++ ·) := flagged_bare hcs rest
  have hclose := hfixed [')'] (by cases d <;> decide)
  have hopen := hfixed ['('] (by cases d <;> decide)
  induction g generalizing rest with
  | empty => simp [Doc.flagged]
  | word x _ => exact flagged_word x rest
  | value v => exact hfixed ['?'] (by cases d <;> decide) rest
  | text s =>
    have hhead : ∀ c ∈ rest.head?, c ≠ '\'' := fun c hc => by rcases h c hc with rfl | rfl | rfl <;> decide
    have hq := flagged_quoted (d := d) '\'' '\'' (by cases d <;> rfl) s.toList hhead
    simpa [Doc.flagged, Text.replaceChar] using hq
  | column table name =>
    cases table with
    | none => exact flagged_quote name (h.ne_quote d)
    | some table =>
      have hdot := hfixed ['.'] (by cases d <;> decide) ((d.quote name).toList ++ rest)
      rw [flagged_quote name (h.ne_quote d)] at hdot
      have htable : flagged d .outside ((d.quote table).toList ++ ('.' :: (d.quote name).toList ++ rest)) = _ :=
        flagged_quote table fun c hc => by
          obtain rfl : '.' = c := by simpa using hc
          cases d <;> decide
      simp only [Doc.chars, Doc.charsWith, Doc.flagged, List.append_assoc, List.cons_append, List.nil_append]
        at hdot htable ⊢
      rw [htable, hdot]
      simp [Function.comp_def]
  | binary op l r ihl ihr =>
    have hop := flagged_op (d := d) op (r.chars d ++ rest)
    rw [ihr h] at hop
    have hl := ihl (Separated.cons (.inl rfl) (op.text.toList ++ ' ' :: (r.chars d ++ rest)))
    simp only [Doc.chars_binary, Doc.flagged, List.append_assoc, List.cons_append, List.nil_append] at hop hl ⊢
    rw [hl, hop]
    simp [Function.comp_def]
  | minus g ih =>
    have hm := hfixed ['-'] (by cases d <;> decide) (g.chars d ++ rest)
    rw [ih h] at hm
    simpa [Doc.flagged, Function.comp_def] using hm
  | not g ih =>
    have hm := hfixed ['N', 'O', 'T', ' '] (by cases d <;> decide) (g.chars d ++ rest)
    rw [ih h] at hm
    simpa [Doc.flagged, Function.comp_def] using hm
  | spaced l r ihl ihr =>
    have hs := hfixed [' '] (by cases d <;> decide) (r.chars d ++ rest)
    rw [ihr h] at hs
    have hl := ihl (Separated.cons (.inl rfl) (r.chars d ++ rest))
    simp only [Doc.chars_spaced, Doc.flagged, List.append_assoc, List.cons_append, List.nil_append] at hs hl ⊢
    rw [hl, hs]
    simp [Function.comp_def]
  | listed l r ihl ihr =>
    have hs := hfixed [',', ' '] (by cases d <;> decide) (r.chars d ++ rest)
    rw [ihr h] at hs
    have hl := ihl (Separated.cons (.inr (.inl rfl)) (' ' :: (r.chars d ++ rest)))
    simp only [Doc.chars_listed, Doc.flagged, List.append_assoc, List.cons_append, List.nil_append] at hs hl ⊢
    rw [hl, hs]
    simp [Function.comp_def]
  | parens g ih =>
    have hg := ih (Separated.cons (.inr (.inr rfl)) rest)
    have ho := hopen (g.chars d ++ ')' :: rest)
    rw [hg, show ')' :: rest = [')'] ++ rest from rfl, hclose] at ho
    simpa [Doc.flagged, Function.comp_def] using ho
  | call name g ih =>
    have hg := ih (Separated.cons (.inr (.inr rfl)) rest)
    have ho := hopen (g.chars d ++ ')' :: rest)
    rw [hg, show ')' :: rest = [')'] ++ rest from rfl, hclose] at ho
    have hn := flagged_word (d := d) name ('(' :: (g.chars d ++ ')' :: rest))
    simp only [Doc.chars_call, Doc.flagged, List.append_assoc, List.cons_append, List.nil_append] at ho hn ⊢
    rw [hn, ho]
    simp [Function.comp_def]
  | choice g ih =>
    have hg := ih (Separated.cons (.inl rfl) ('E' :: 'N' :: 'D' :: rest))
    have hcase := hfixed ['C', 'A', 'S', 'E', ' '] (by cases d <;> decide)
      (g.chars d ++ ' ' :: 'E' :: 'N' :: 'D' :: rest)
    have hend := hfixed [' ', 'E', 'N', 'D'] (by cases d <;> decide) rest
    rw [hg, show ' ' :: 'E' :: 'N' :: 'D' :: rest = [' ', 'E', 'N', 'D'] ++ rest from rfl, hend] at hcase
    simpa [Doc.flagged, Function.comp_def] using hcase

@[simp]
theorem bareChars_append (ms ns : List (Char × Bool)) : bareChars (ms ++ ns) = bareChars ms ++ bareChars ns := by
  simp [bareChars]

@[simp]
theorem bareChars_bare (cs : List Char) : bareChars (bare cs) = cs := by
  simp [bareChars, bare, List.filter_map, Function.comp_def]

@[simp]
theorem bareChars_quoted (cs : List Char) : bareChars (quoted cs) = [] := by
  simp [bareChars, quoted, List.filter_map, Function.comp_def]

/-- One placeholder stands outside quotes for each value. -/
theorem count_bareChars (g : Doc) : (bareChars (g.flagged d)).count '?' = g.values.length := by
  have hword (x : Word) : x.text.toList.count '?' = 0 := by
    refine List.count_eq_zero.2 fun hm => ?_
    have hw := x.plain _ hm
    revert hw
    decide
  induction g with
  | empty => rfl
  | word x _ => simpa [Doc.flagged] using hword x
  | value v => rfl
  | text s => simp [Doc.flagged]
  | column table name => cases table <;> simp [Doc.flagged]
  | binary op l r ihl ihr =>
    have hop : op.text.toList.count '?' = 0 := by cases op <;> decide
    simp [Doc.flagged, ihl, ihr, hop]
  | minus g ih | not g ih | parens g ih | choice g ih => simp [Doc.flagged, ih]
  | spaced l r ihl ihr | listed l r ihl ihr => simp [Doc.flagged, ihl, ihr]
  | call name g ih => simp [Doc.flagged, ih, hword name]

theorem closes_append (cs : List Char) (h : cs.all (fun c => c != '(' && c != ')') = true) (n : Nat)
    (rest : List Char) : closes n (cs ++ rest) = closes n rest := by
  induction cs with
  | nil => rfl
  | cons c cs ih =>
    simp only [List.all_cons, Bool.and_eq_true, bne_iff_ne] at h
    rw [List.cons_append, closes, if_neg h.1.1, if_neg h.1.2, ih h.2]

/-- A layout opens and closes its own parentheses. -/
theorem closes_bareChars (g : Doc) (n : Nat) (rest : List Char) :
    closes n (bareChars (g.flagged d) ++ rest) = closes n rest := by
  have hword (x : Word) : (x.text.toList.all fun c => c != '(' && c != ')') = true := by
    refine List.all_eq_true.2 fun c hc => ?_
    have hw := x.plain c hc
    rw [Bool.and_eq_true, bne_iff_ne, bne_iff_ne]
    refine ⟨?_, ?_⟩ <;> rintro rfl <;> revert hw <;> decide
  induction g generalizing n rest with
  | empty => rfl
  | word x _ => simpa [Doc.flagged] using closes_append _ (hword x) n rest
  | value v => simpa [Doc.flagged] using closes_append ['?'] (by decide) n rest
  | text s => simp [Doc.flagged]
  | column table name =>
    cases table with
    | none => simp [Doc.flagged]
    | some table => simpa [Doc.flagged] using closes_append ['.'] (by decide) n rest
  | binary op l r ihl ihr =>
    have hop : ((' ' :: op.text.toList ++ [' ']).all fun c => c != '(' && c != ')') = true := by
      cases op <;> decide
    simp only [Doc.flagged, bareChars_append, bareChars_bare, List.append_assoc]
    rw [ihl, ← List.append_assoc, closes_append _ hop, ihr]
  | minus g ih =>
    simp only [Doc.flagged, bareChars_append, bareChars_bare, List.append_assoc]
    rw [closes_append _ (by decide), ih]
  | not g ih =>
    simp only [Doc.flagged, bareChars_append, bareChars_bare, List.append_assoc]
    rw [closes_append _ (by decide), ih]
  | spaced l r ihl ihr =>
    simp only [Doc.flagged, bareChars_append, bareChars_bare, List.append_assoc]
    rw [ihl, closes_append _ (by decide), ihr]
  | listed l r ihl ihr =>
    simp only [Doc.flagged, bareChars_append, bareChars_bare, List.append_assoc]
    rw [ihl, closes_append _ (by decide), ihr]
  | parens g ih =>
    simp only [Doc.flagged, bareChars_append, bareChars_bare, List.append_assoc, List.cons_append, List.nil_append]
    rw [closes, if_pos rfl, ih]
    rfl
  | call name g ih =>
    simp only [Doc.flagged, bareChars_append, bareChars_bare, List.append_assoc, List.cons_append, List.nil_append]
    rw [closes_append _ (hword name), closes, if_pos rfl, ih]
    rfl
  | choice g ih =>
    simp only [Doc.flagged, bareChars_append, bareChars_bare, List.append_assoc]
    rw [closes_append _ (by decide), ih, closes_append _ (by decide)]

theorem putIn_bare {cs : List Char} (h : '?' ∉ cs) (vs : List Binding) (ms : List (Char × Bool)) :
    putIn d vs (bare cs ++ ms) = (putIn d vs ms).map (cs ++ ·) := by
  induction cs with
  | nil => simp [bare]
  | cons c cs ih =>
    have hc : ¬ (c = '?' ∧ true = true) := fun hc => h (hc.1 ▸ List.mem_cons_self)
    have hcons : putIn d vs (bare (c :: cs) ++ ms) = (putIn d vs (bare cs ++ ms)).map (c :: ·) := by
      rw [bare, List.map_cons, List.cons_append, putIn, if_neg hc]
      rfl
    rw [hcons, ih fun hm => h (List.mem_cons_of_mem c hm), Option.map_map]
    rfl

theorem putIn_quoted (cs : List Char) (vs : List Binding) (ms : List (Char × Bool)) :
    putIn d vs (quoted cs ++ ms) = (putIn d vs ms).map (cs ++ ·) := by
  induction cs with
  | nil => simp [quoted]
  | cons c cs ih =>
    have hcons : putIn d vs (quoted (c :: cs) ++ ms) = (putIn d vs (quoted cs ++ ms)).map (c :: ·) := by
      simp [quoted, putIn]
    rw [hcons, ih, Option.map_map]
    rfl

/-- The values of a layout go into their places. -/
theorem putIn_flagged (g : Doc) (vs : List Binding) (ms : List (Char × Bool)) :
    putIn d (g.values ++ vs) (g.flagged d ++ ms) =
      (putIn d vs ms).map (g.charsWith d (literalChars d) ++ ·) := by
  have hword (x : Word) : '?' ∉ x.text.toList := fun hm => by
    have hw := x.plain _ hm
    revert hw
    decide
  induction g generalizing vs ms with
  | empty => simp [Doc.flagged, Doc.charsWith]
  | word x _ => exact putIn_bare (hword x) vs ms
  | value v => simp [Doc.flagged, Doc.charsWith, bare, putIn]
  | text s => exact putIn_quoted _ vs ms
  | column table name =>
    cases table with
    | none => exact putIn_quoted _ vs ms
    | some table =>
      simp only [Doc.flagged, Doc.charsWith, Doc.values, List.nil_append, List.append_assoc]
      rw [putIn_quoted, putIn_bare (by decide), putIn_quoted]
      simp [Function.comp_def]
  | binary op l r ihl ihr =>
    have hop : '?' ∉ ' ' :: op.text.toList ++ [' '] := by cases op <;> decide
    simp only [Doc.flagged, Doc.charsWith, Doc.values, List.append_assoc]
    rw [ihl, putIn_bare hop, ihr]
    simp [Function.comp_def]
  | minus g ih =>
    simp only [Doc.flagged, Doc.charsWith, Doc.values, List.append_assoc]
    rw [putIn_bare (by decide), ih]
    simp [Function.comp_def]
  | not g ih =>
    simp only [Doc.flagged, Doc.charsWith, Doc.values, List.append_assoc]
    rw [putIn_bare (by decide), ih]
    simp [Function.comp_def]
  | spaced l r ihl ihr =>
    simp only [Doc.flagged, Doc.charsWith, Doc.values, List.append_assoc]
    rw [ihl, putIn_bare (by decide), ihr]
    simp [Function.comp_def]
  | listed l r ihl ihr =>
    simp only [Doc.flagged, Doc.charsWith, Doc.values, List.append_assoc]
    rw [ihl, putIn_bare (by decide), ihr]
    simp [Function.comp_def]
  | parens g ih =>
    simp only [Doc.flagged, Doc.charsWith, Doc.values, List.append_assoc]
    rw [putIn_bare (by decide), ih, putIn_bare (by decide)]
    simp [Function.comp_def]
  | call name g ih =>
    simp only [Doc.flagged, Doc.charsWith, Doc.values, List.append_assoc]
    rw [putIn_bare (hword name), putIn_bare (by decide), ih, putIn_bare (by decide)]
    simp [Function.comp_def]
  | choice g ih =>
    simp only [Doc.flagged, Doc.charsWith, Doc.values, List.append_assoc]
    rw [putIn_bare (by decide), ih, putIn_bare (by decide)]
    simp [Function.comp_def]

end

/-- The text of a fragment with its values in the places of the placeholders outside quotes. -/
def substituted (d : Dialect) (f : Fragment) : Option (List Char) :=
  (flagged d .outside f.text.toList).bind (putIn d f.bindings)

namespace Spells

variable {d : Dialect} {f : Fragment} {g : Doc}

theorem flagged_eq (h : Spells d f g) : flagged d .outside f.text.toList = some (g.flagged d) := by
  have hm := flagged_chars (d := d) g Separated.nil
  rwa [List.append_nil, ← h.text, flagged, Option.map_some, List.append_nil] at hm
  nofun

theorem substituted_eq (h : Spells d f g) : substituted d f = some (g.charsWith d (literalChars d)) := by
  have hp := putIn_flagged (d := d) g [] []
  rw [List.append_nil, List.append_nil] at hp
  rw [substituted, h.flagged_eq, Option.bind_some, h.bindings, hp]
  simp [putIn]

/-- Where every quoted name is sealed, values are written exactly in the places of the placeholders. -/
theorem inline_eq (h : Spells d f g) (hn : ∀ n ∈ g.names, isSealed d n = true) :
    (f.inline d).toList = g.charsWith d (literalChars d) := by
  have hi := Inlines.chars hn [] ""
  rw [List.append_nil, ← h.text, ← h.bindings] at hi
  simp [Fragment.inline, hi]

end Spells

end SheetQuery.Sql
