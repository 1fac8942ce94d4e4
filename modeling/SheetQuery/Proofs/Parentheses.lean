import Mathlib.Algebra.Order.BigOperators.Group.List
import SheetQuery.Proofs.Inlining
import SheetQuery.Proofs.PrintedText

/-! How many parentheses a formula needs. The parentheses of a text are counted among its characters, outside of what
stands in quotes and braces, which agrees with its tokens. Wherever an expression is printed with parentheses, every
text that is read as that expression has a pair of its own, so none has fewer than the printed one. -/

namespace SheetQuery

namespace Formula

variable {sym : Symbol} {ts : List Lexeme} {e : Expr} {n : Nat}

def opens (ts : List Lexeme) : Nat := ts.count .openParen

@[simp] theorem opens_nil : opens [] = 0 := rfl

@[simp]
theorem opens_cons (l : Lexeme) (ts : List Lexeme) :
    opens (l :: ts) = (if l = .openParen then 1 else 0) + opens ts := by
  simp [opens, List.count_cons, Nat.add_comm]

@[simp] theorem opens_append (ts us : List Lexeme) : opens (ts ++ us) = opens ts + opens us := List.count_append

@[simp]
theorem opens_intercalate (parts : List (List Lexeme)) :
    opens ([Lexeme.comma].intercalate parts) = (parts.map opens).sum := by
  induction parts with
  | nil => rfl
  | cons us parts ih =>
    cases parts with
    | nil => simp
    | cons vs parts => simp [List.intercalate_cons_cons, ih]

@[simp]
theorem opens_wrapped (needed : Bool) (ts : List Lexeme) :
    opens (wrapped needed ts) = (if needed then 1 else 0) + opens ts := by
  cases needed <;> simp [wrapped]

/-- Tokens that derive an expression have the parentheses that it is printed with, the outer pair included where the
expression binds less tightly than what it derives from. -/
theorem Derives.opens_le (h : Derives sym ts e n) :
    opens (wrapped (Printer.bindsBelow sym.binding e) (lexemes e)) ≤ opens ts := by
  induction h with
  | @binary op ts us l r n hop _ _ ihl ihr =>
    have hbare : Printer.bindsBelow op.precedence (.binary op l r) = false := by simp [Printer.bindsBelow]
    simp only [Symbol.binding, hbare, opens_wrapped, lexemes, opens_append, opens_cons] at ihl ihr ⊢
    simp only [Bool.false_eq_true, if_false, reduceCtorEq]
    omega
  | @tighter p ts e n _ ih =>
    refine Nat.le_trans ?_ ih
    cases hb : Printer.bindsBelow p e with
    | false => simp [Symbol.binding, hb]
    | true => simp [Symbol.binding, hb, bindsBelow_succ hb]
  | single _ ih | unsigned _ ih => exact ih
  | @signed t op ts e n ht _ ih =>
    have hsign : opens (signLexemes op) = 0 := by cases ht <;> rfl
    rw [Symbol.binding, ← isBinary_eq_bindsBelow] at ih
    simp only [Printer.bindsBelow, opens_wrapped, lexemes, opens_append, hsign, opens_cons] at ih ⊢
    simp only [Bool.false_eq_true, if_false]
    omega
  | @call s args n _ ih =>
    have hargs : ((args.map Prod.snd).map fun e => opens (lexemes e)).sum ≤ ((args.map Prod.fst).map opens).sum := by
      rw [List.map_map, List.map_map]
      refine List.sum_le_sum fun a ha => Nat.le_trans ?_ (ih a ha)
      simp
    simpa [Printer.bindsBelow, lexemes, lexemesAll_eq_map, Function.comp_def] using hargs
  | @parens ts e n _ ih =>
    simp only [opens_wrapped, opens_cons, opens_append, opens_nil, List.cons_append] at ih ⊢
    simp only [if_true, reduceCtorEq, if_false]
    split <;> omega
  | braced s n | name s n =>
    have hcolumn : columnLexeme s ≠ .openParen := by
      unfold columnLexeme
      split <;> simp
    simp [Printer.bindsBelow, lexemes, hcolumn]
  | emptyCall s n => simp [Printer.bindsBelow, lexemes, lexemesAll]
  | _ => simp [Printer.bindsBelow, Expr.number, Expr.text, lexemes, literalLexeme]

end Formula

namespace Lexer

open Formula

inductive Place
  | outside
  | text (quote : Char)
  /-- In a text behind a backslash. -/
  | escaped (quote : Char)
  | column
deriving DecidableEq, Repr

def Place.next : Place → Char → Place
  | outside, c => if c = '\'' ∨ c = '"' then text c else if c = '{' then column else outside
  | text q, c => if c = q then outside else if c = '\\' then escaped q else text q
  | escaped q, _ => text q
  | column, c => if c = '}' then outside else column

def openParens : Place → List Char → Nat
  | _, [] => 0
  | p, c :: cs => (if p = .outside ∧ c = '(' then 1 else 0) + openParens (p.next c) cs

/-- A character that is no opening parenthesis and begins neither a text nor a column. -/
def isOrdinary (c : Char) : Bool := !(['(', '\'', '"', '{'].contains c)

theorem isOrdinary_of {p : Char → Bool} (hp : ['(', '\'', '"', '{'].all (!p ·) = true) {c : Char} (h : p c = true) :
    isOrdinary c = true := by
  rw [isOrdinary, Bool.not_eq_true', List.contains_eq_mem, decide_eq_false_iff_not]
  intro hc
  simpa [h] using List.all_eq_true.1 hp c hc

/-- The characters begin and end outside of texts and columns, and have `k` opening parentheses there. -/
def HasParens (cs : List Char) (k : Nat) : Prop :=
  ∀ rest, openParens .outside (cs ++ rest) = k + openParens .outside rest

namespace HasParens

variable {cs ds : List Char} {k m : Nat}

theorem nil : HasParens [] 0 := fun rest => by simp

theorem append (h : HasParens cs k) (h' : HasParens ds m) : HasParens (cs ++ ds) (k + m) := by
  intro rest
  rw [List.append_assoc, h, h', Nat.add_assoc]

theorem paren : HasParens ['('] 1 := fun _ => rfl

theorem ordinary (h : ∀ c ∈ cs, isOrdinary c = true) : HasParens cs 0 := by
  intro rest
  induction cs with
  | nil => simp
  | cons c cs ih =>
    rw [List.forall_mem_cons] at h
    have hc : c ≠ '(' ∧ c ≠ '\'' ∧ c ≠ '"' ∧ c ≠ '{' := by simpa [isOrdinary] using h.1
    simp [openParens, Place.next, hc, ih h.2]

theorem of_all (h : cs.all isOrdinary = true) : HasParens cs 0 := ordinary (List.all_eq_true.1 h)

theorem wrapped (h : HasParens cs k) (needed : Bool) :
    HasParens (if needed then '(' :: cs ++ [')'] else cs) ((if needed then 1 else 0) + k) := by
  cases needed with
  | false => simpa using h
  | true => exact (paren.append h).append (of_all (by decide) : HasParens [')'] 0)

theorem intercalate {args : List (List Char × Nat)} (h : ∀ a ∈ args, HasParens a.1 a.2) :
    HasParens ([',', ' '].intercalate (args.map Prod.fst)) (args.map Prod.snd).sum := by
  induction args with
  | nil => exact nil
  | cons a args ih =>
    rw [List.forall_mem_cons] at h
    cases args with
    | nil => simpa using h.1
    | cons b args =>
      have hcomma : HasParens [',', ' '] 0 := of_all (by decide)
      simpa [List.intercalate_cons_cons] using (h.1.append hcomma).append (ih h.2)

end HasParens

variable {c q : Char} {cs rest : List Char} {l : Lexeme} {n : Nat}

theorem openParens_text {t : List Char} (h : quoted q cs = some (t, n)) :
    openParens (.text q) cs = openParens .outside (cs.drop n) := by
  fun_induction quoted q cs generalizing t n with
  | case1 => simp at h
  | case2 cs =>
    obtain ⟨rfl, rfl⟩ : [] = t ∧ 1 = n := by simpa using h
    simp [openParens, Place.next]
  | case3 => simp at h
  | case4 d ds hq ih =>
    obtain ⟨⟨t', n'⟩, ht, heq⟩ := Option.map_eq_some_iff.1 h
    obtain ⟨-, rfl⟩ : _ ∧ n' + 2 = n := by simpa using heq
    simp [openParens, Place.next, hq, ih ht]
  | case5 c cs hq hs ih =>
    obtain ⟨⟨t', n'⟩, ht, heq⟩ := Option.map_eq_some_iff.1 h
    obtain ⟨-, rfl⟩ : _ ∧ n' + 1 = n := by simpa using heq
    simp [openParens, Place.next, hq, hs, ih ht]

theorem openParens_column {name : List Char} (h : '}' ∉ name) (rest : List Char) :
    openParens .column (name ++ '}' :: rest) = openParens .outside rest := by
  induction name with
  | nil => simp [openParens, Place.next]
  | cons c name ih =>
    simp only [List.mem_cons, not_or] at h
    simp [openParens, Place.next, Ne.symm h.1, ih h.2]

theorem isOrdinary_of_operator? (h : operator? (c :: cs) = some (l, n)) :
    l ≠ .openParen ∧ ∀ x ∈ c :: cs.take n, isOrdinary x = true := by
  unfold operator? at h
  split at h
  case h_17 => cases h
  all_goals
    rename_i heq
    cases h
    cases heq
    simp [isOrdinary]

/-- A lexeme has no parentheses but itself. -/
theorem openParens_lexeme (h : lexeme c cs = .ok (l, n)) :
    openParens .outside (c :: cs) = (if l = .openParen then 1 else 0) + openParens .outside (cs.drop n) := by
  have hskip (hl : l ≠ .openParen) (hord : ∀ x ∈ c :: cs.take n, isOrdinary x = true) :
      openParens .outside (c :: cs) = (if l = .openParen then 1 else 0) + openParens .outside (cs.drop n) := by
    have hcount := HasParens.ordinary hord (cs.drop n)
    rw [List.cons_append, List.take_append_drop] at hcount
    rw [hcount, if_neg hl]
  cases begins_of_lexeme h with
  | openParen => rfl
  | closeParen | comma => exact hskip (by simp) (by simp [isOrdinary])
  | text quote content =>
    have hopen : c ≠ '(' := by rcases quote with rfl | rfl <;> decide
    simp [openParens, Place.next, quote, hopen, openParens_text content]
  | braced closed rest =>
    simp [openParens, Place.next, openParens_column closed]
  | number first value =>
    have hfirst : isNumeralMark c = true := by rcases first with hc | rfl <;> simp [isNumeralMark, *]
    refine hskip (by simp) fun x hx => isOrdinary_of (p := isNumeralMark) (by decide) ?_
    rcases List.mem_cons.1 hx with rfl | hx
    · exact hfirst
    · refine hasMarks_numeral (c :: cs) x ?_
      cases hlength : numeralLength (c :: cs) with
      | zero => simp [hlength] at hx
      | succ k =>
        rw [hlength] at hx
        simpa using .inr hx
  | name cs first =>
    refine hskip (by simp) fun x hx => isOrdinary_of (p := isNameChar) (by decide) ?_
    rw [← List.prefix_iff_eq_take.1 (List.takeWhile_prefix isNameChar)] at hx
    rcases List.mem_cons.1 hx with rfl | hx
    · exact (Bool.and_eq_true_iff.1 first).1
    · exact List.mem_takeWhile_imp hx
  | operator symbol =>
    obtain ⟨hl, hord⟩ := isOrdinary_of_operator? symbol
    exact hskip hl hord

theorem openParens_tokens {position skip : Nat} {ts : List Token} (h : tokens position skip cs = .ok ts) :
    opens (ts.map Token.lexeme) = openParens .outside (cs.drop skip) := by
  induction cs generalizing position skip ts with
  | nil =>
    obtain rfl : [] = ts := by simpa [tokens] using h
    simp [openParens]
  | cons c cs ih =>
    cases skip with
    | succ k => exact ih h
    | zero =>
      simp only [tokens] at h
      split at h
      case isTrue hc =>
        have hord : isOrdinary c = true := isOrdinary_of (p := isSpace) (by decide) hc
        rw [ih h, List.drop_zero, List.drop_zero]
        simpa using (HasParens.ordinary (List.forall_mem_singleton.2 hord) cs).symm
      case isFalse =>
        split at h
        case h_1 => cases h
        case h_2 l n hl =>
          split at h
          case h_1 => cases h
          case h_2 ts' hts =>
            cases h
            rw [List.map_cons, opens_cons, ih hts, List.drop_zero, openParens_lexeme hl]

theorem openParens_scan {text : String} {s : TokenStream} (h : scan text = .ok s) :
    opens (s.tokens.map Token.lexeme) = openParens .outside text.toList := by
  unfold scan at h
  split at h
  case h_1 => cases h
  case h_2 ts hts =>
    cases h
    exact openParens_tokens hts

/-! The printed text has as many parentheses as the printed tokens. -/

theorem isOrdinary_ofNat {n : Nat} (h : 128 ≤ n) : isOrdinary (Char.ofNat n) = true := by
  have hne (c : Char) (h0 : c ≠ '\x00') (hc : c.toNat < 128) : Char.ofNat n ≠ c := by
    rintro rfl
    by_cases hv : n.isValidChar
    · have hn : (Char.ofNat n).toNat = n := by
        rw [Char.ofNat, dif_pos hv]
        rfl
      omega
    · exact h0 (dif_neg hv)
  simp [isOrdinary, hne]

theorem isOrdinary_upperChar (hc : isOrdinary c = true) : ∀ d ∈ Text.upperChar c, isOrdinary d = true := by
  have hascii : ∀ n < 128, isOrdinary (Char.ofNat n) = true → isOrdinary (Char.ofNat n).toUpper = true := by decide
  have hexpansions : (Text.upperExpansions.all fun r => r.2.all fun n => isOrdinary (Char.ofNat n)) = true := by
    decide
  have hruns : (Text.upperRuns.all fun r => r.2.1 < 128 || 128 ≤ r.2.2.2 ||
      (r.1 == r.2.1 && isOrdinary (Char.ofNat r.2.2.2))) = true := by
    decide
  unfold Text.upperChar
  split
  case isTrue h =>
    simpa using hascii c.toNat h (by simpa using hc)
  case isFalse h =>
    unfold Text.upperBeyondAscii
    split
    case h_1 cs hcs =>
      obtain ⟨before, after, htable, -⟩ := List.lookup_eq_some_iff.1 hcs
      have hmem : (c.toNat, cs) ∈ Text.upperExpansions := by simp [htable]
      simpa using List.all_eq_true.1 hexpansions _ hmem
    case h_2 =>
      split
      case h_2 => simpa using isOrdinary_ofNat (Nat.not_lt.1 h)
      case h_1 r hr =>
        have hrun := List.all_eq_true.1 hruns r (List.mem_of_find?_eq_some hr)
        have hin := List.find?_some hr
        simp only [Bool.and_eq_true, Bool.or_eq_true, decide_eq_true_eq, beq_iff_eq] at hrun hin
        rw [List.forall_mem_singleton]
        rcases hrun with (hlt | hge) | ⟨hone, hord⟩
        · omega
        · exact isOrdinary_ofNat (by omega)
        · have hfirst : c.toNat - r.1 = 0 := by omega
          rwa [hfirst, Nat.add_zero]

theorem isOrdinary_name {s : String} (h : (Lexeme.name s).IsRead) : ∀ c ∈ s.toList, isOrdinary c = true := by
  obtain ⟨c, cs, hs, hc, hcs⟩ := h
  rw [hs]
  intro x hx
  refine isOrdinary_of (p := isNameChar) (by decide) ?_
  rcases List.mem_cons.1 hx with rfl | hx
  · exact (Bool.and_eq_true_iff.1 hc).1
  · exact hcs x hx

namespace HasParens

theorem upper {s : String} (h : ∀ c ∈ s.toList, isOrdinary c = true) : HasParens (Text.upper s).toList 0 := by
  rw [Text.upper, String.toList_ofList]
  refine ordinary fun x hx => ?_
  obtain ⟨c, hc, hx⟩ := List.mem_flatMap.1 hx
  exact isOrdinary_upperChar (h c hc) x hx

theorem number (n : Number) : HasParens n.plain.toList 0 := by
  obtain ⟨cs, hcs, hkeyword⟩ := n.plain_signed
  have hname := Sql.isName_of_isKeyword hkeyword
  simp only [Sql.isName, Bool.and_eq_true, List.all_eq_true] at hname
  have hord : ∀ c ∈ cs, isOrdinary c = true := fun c hc =>
    isOrdinary_of (p := Sql.isNameChar) (by decide) (hname.2 c hc)
  rw [hcs, Number.signed]
  split
  · exact ordinary (List.forall_mem_cons.2 ⟨by decide, hord⟩)
  · exact ordinary hord

theorem text (s : List Char) : HasParens ('\'' :: s.flatMap Printer.textChar ++ ['\'']) 0 := by
  intro rest
  have hskip := openParens_text (quoted_textChars s rest)
  have hdrop : (s.flatMap Printer.textChar ++ '\'' :: rest).drop ((s.flatMap Printer.textChar).length + 1) = rest := by
    rw [List.drop_append]
    simp
  rw [hdrop] at hskip
  simp [openParens, Place.next, hskip]

theorem literal (v : Literal) : HasParens (Printer.literal v).toList 0 := by
  cases v with
  | number n => exact number n
  | text s =>
    rw [Printer.literal, String.toList_ofList]
    exact text s.toList
  | boolean b => cases b <;> exact of_all (by decide)
  | null => exact of_all (by decide)

theorem column {s : String} (hs : '}' ∉ s.toList) : HasParens (Printer.column s).toList 0 := by
  unfold Printer.column
  split
  case isTrue h => exact ordinary (isOrdinary_name (isRead_of_standsBare h))
  case isFalse =>
    intro rest
    simp [openParens, Place.next, openParens_column hs]

end HasParens

end Lexer

namespace Expr

open Formula

/-- The printed text has the parentheses of the printed tokens, also where it could not be read. -/
theorem hasParens_format {e : Expr} (he : e.Everywhere IsRead) :
    Lexer.HasParens e.format.toList (opens (lexemes e)) := by
  unfold format
  induction he with
  | @literal v _ =>
    have hopens : opens [literalLexeme v] = 0 := by
      unfold literalLexeme
      split <;> simp
    rw [lexemes, hopens]
    exact .literal v
  | @column s h =>
    have hopens : opens [columnLexeme s] = 0 := by
      unfold columnLexeme
      split <;> simp
    rw [lexemes, hopens]
    exact .column h
  | unsupported h => exact h.elim
  | @unary op e h _ ih =>
    have hsign : Lexer.HasParens op.symbol.toList (opens (signLexemes op)) := by
      cases op with
      | other s => exact absurd rfl (h s)
      | _ => exact .of_all (by decide)
    rw [Printer.expr, String.toList_append, Lexer.toList_parenthesize, lexemes, opens_append, opens_wrapped]
    exact hsign.append (ih.wrapped _)
  | @binary op l r h _ _ ihl ihr =>
    have hop : Lexer.HasParens (' ' :: op.symbol.toList ++ [' ']) 0 := by
      cases op with
      | other s => exact absurd h (Nat.lt_irrefl 0)
      | _ => exact .of_all (by decide)
    have hparts := ((ihl.wrapped (Printer.bindsBelow op.precedence l)).append hop).append
      (ihr.wrapped (Printer.bindsBelow (op.precedence + 1) r))
    simpa [Printer.expr, Lexer.toList_parenthesize, lexemes] using hparts
  | @call name args h _ ih =>
    obtain ⟨s, rfl, hs⟩ := h
    have hargs : ∀ a ∈ args.map fun e => ((Printer.expr e).toList, opens (lexemes e)), Lexer.HasParens a.1 a.2 :=
      List.forall_mem_map.2 ih
    have hclose : Lexer.HasParens [')'] 0 := .of_all (by decide)
    have hname : Lexer.HasParens (Text.upper s).toList 0 := .upper (Lexer.isOrdinary_name hs)
    have hcall := ((hname.append .paren).append (.intercalate hargs)).append hclose
    simpa [Printer.expr, Lexer.exprs_eq_map, String.toList_intercalate, lexemes, lexemesAll_eq_map,
      Function.comp_def] using hcall

theorem upperCalls_call (name : Option String) (args : List Expr) :
    (call name args).upperCalls = call (name.map Text.upper) (args.map upperCalls) := by
  simp [upperCalls, rebuild, rebuildAll_eq_map, upperCall]

theorem map_eq_of_upperCalls {args args' : List Expr}
    (ih : ∀ a ∈ args, ∀ e', a.upperCalls = e'.upperCalls → Printer.expr a = Printer.expr e')
    (h : args.map upperCalls = args'.map upperCalls) : args.map Printer.expr = args'.map Printer.expr := by
  induction args generalizing args' with
  | nil =>
    obtain rfl : args' = [] := by simpa using h.symm
    rfl
  | cons a args ih' =>
    obtain ⟨a', args', rfl, ha, hargs⟩ := List.map_eq_cons_iff.1 h.symm
    rw [List.forall_mem_cons] at ih
    rw [List.map_cons, List.map_cons, ih.1 a' ha.symm, ih' ih.2 hargs.symm]

theorem bindsBelow_upperCalls (p : Nat) (e : Expr) : Printer.bindsBelow p e.upperCalls = Printer.bindsBelow p e := by
  cases e <;> rfl

theorem isBinary_upperCalls (e : Expr) : Printer.isBinary e.upperCalls = Printer.isBinary e := by
  cases e <;> rfl

/-- What is printed does not depend on the case of the names of calls. -/
theorem format_eq_of_upperCalls {e e' : Expr} (h : e.upperCalls = e'.upperCalls) : e.format = e'.format := by
  unfold format
  induction e using Expr.induct generalizing e' with
  | literal v | column n | unsupported k =>
    cases e' <;> cases h
    rfl
  | unary op e ih =>
    cases e' with
    | unary op' e' =>
      obtain ⟨rfl, he⟩ : op = op' ∧ e.upperCalls = e'.upperCalls := by
        injection h with hop he
        exact ⟨hop, he⟩
      rw [Printer.expr, Printer.expr, ← isBinary_upperCalls e, he, isBinary_upperCalls, ih he]
    | _ => cases h
  | binary op l r ihl ihr =>
    cases e' with
    | binary op' l' r' =>
      obtain ⟨rfl, hl, hr⟩ : op = op' ∧ l.upperCalls = l'.upperCalls ∧ r.upperCalls = r'.upperCalls := by
        injection h with hop hl hr
        exact ⟨hop, hl, hr⟩
      rw [Printer.expr, Printer.expr, ← bindsBelow_upperCalls _ l, ← bindsBelow_upperCalls _ r, hl, hr,
        bindsBelow_upperCalls, bindsBelow_upperCalls, ihl hl, ihr hr]
    | _ => cases h
  | call name args ih =>
    cases e' with
    | call name' args' =>
      rw [upperCalls_call, upperCalls_call] at h
      injection h with hname hargs
      rw [Printer.expr, Printer.expr, Lexer.exprs_eq_map, Lexer.exprs_eq_map, hname,
        map_eq_of_upperCalls (fun a ha e' => ih a ha) hargs]
    | _ => cases h

/-- No text that is read as an expression, up to the case of the names of its calls, has fewer opening parentheses
than the expression is printed with. -/
theorem format_fewest_parens {text : String} {e e' : Expr} (hparse : parse text = .ok e')
    (hcase : e'.upperCalls = e.upperCalls) :
    ∃ s, Lexer.scan text = .ok s ∧
      Lexer.openParens .outside e.format.toList ≤ opens (s.tokens.map Token.lexeme) ∧
      ∀ s', Lexer.scan e.format = .ok s' →
        opens (s'.tokens.map Token.lexeme) = Lexer.openParens .outside e.format.toList := by
  obtain ⟨s, hs⟩ := exists_scan_of_parse hparse
  refine ⟨s, hs, ?_, fun s' hs' => Lexer.openParens_scan hs'⟩
  have hprinted := hasParens_format (isRead_of_parse hparse) []
  have hle := ((parse_eq_ok_iff hs).1 hparse).opens_le
  rw [opens_wrapped] at hle
  rw [List.append_nil, format_eq_of_upperCalls hcase, Lexer.openParens, Nat.add_zero] at hprinted
  omega

theorem format_fewest_parens_round :
    let text := "(Round(((a + b)) * c, -(d)))"
    let e (name : String) : Expr := .call (some name)
      [.binary .mul (.binary .add (.column "a") (.column "b")) (.column "c"), .unary .minus (.column "d")]
    parse text = .ok (e "Round") ∧ (e "ROUND").format = "ROUND((a + b) * c, -d)" ∧
      ∃ s, Lexer.scan text = .ok s ∧ opens (s.tokens.map Token.lexeme) = 5 ∧
        Lexer.openParens .outside (e "ROUND").format.toList ≤ opens (s.tokens.map Token.lexeme) := by
  intro text e
  have hscan : Lexer.scan "(Round(((a + b)) * c, -(d)))" = .ok ⟨[⟨.openParen, 0⟩, ⟨.name "Round", 1⟩,
      ⟨.openParen, 6⟩, ⟨.openParen, 7⟩, ⟨.openParen, 8⟩, ⟨.name "a", 9⟩, ⟨.op .add, 11⟩, ⟨.name "b", 13⟩,
      ⟨.closeParen, 14⟩, ⟨.closeParen, 15⟩, ⟨.op .mul, 17⟩, ⟨.name "c", 19⟩, ⟨.comma, 20⟩, ⟨.op .sub, 22⟩,
      ⟨.openParen, 23⟩, ⟨.name "d", 24⟩, ⟨.closeParen, 25⟩, ⟨.closeParen, 26⟩, ⟨.closeParen, 27⟩], 28⟩ := by rfl
  have hparse : parse text = .ok (e "Round") := (parse_of_scan hscan).trans (by cbv)
  have hupper : Text.upper "Round" = Text.upper "ROUND" := by decide
  have hcase : (e "Round").upperCalls = (e "ROUND").upperCalls := by
    simp only [e, upperCalls_call, Option.map_some, hupper]
  obtain ⟨s, hs, hle, -⟩ := format_fewest_parens hparse hcase
  refine ⟨hparse, by decide, s, hs, ?_, hle⟩
  rw [Lexer.openParens_scan hs]
  decide

end Expr

end SheetQuery
