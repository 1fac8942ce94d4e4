import SheetQuery.Proofs.FormulaText
import SheetQuery.Proofs.NumberText
import SheetQuery.Proofs.PrintedTokens

/-! Formulas read back from their printed text. Printed tokens are followed by a blank, a comma, a closing
parenthesis or the end, none of which a token could go on with, or by a token that begins with neither; so the
lexer finds the tokens that were printed, and they derive the expression. -/

namespace SheetQuery

namespace Lexer

variable {c : Char} {cs ds rest : List Char} {l : Lexeme} {ls ls' : List Lexeme}

/-- The text has these tokens, wherever it begins. -/
def Reads (cs : List Char) (ls : List Lexeme) : Prop :=
  ∀ position, ∃ ts, tokens position 0 cs = .ok ts ∧ ts.map Token.lexeme = ls

/-- What follows a token ends it. -/
def Stops (rest : List Char) : Prop := ∀ c ∈ rest.head?, c = ' ' ∨ c = ',' ∨ c = ')'

@[simp] theorem stops_nil : Stops [] := nofun

@[simp] theorem stops_cons : Stops (c :: rest) ↔ c = ' ' ∨ c = ',' ∨ c = ')' := by simp [Stops]

theorem isSpace_eq_false {p : Char → Bool} (hp : [' ', '\t', '\n', '\x0c', '\r'].all (!p ·) = true) (hc : p c = true) :
    isSpace c = false := by
  rw [Bool.eq_false_iff]
  intro hs
  have hmem : c ∈ [' ', '\t', '\n', '\x0c', '\r'] := by simpa [isSpace, or_assoc] using hs
  simpa [hc] using List.all_eq_true.1 hp c hmem

theorem exists_tokens_skip (position : Nat) (cs rest : List Char) :
    ∃ position', tokens position cs.length (cs ++ rest) = tokens position' 0 rest := by
  induction cs generalizing position with
  | nil => exact ⟨position, rfl⟩
  | cons c cs ih => exact ih (position + c.utf8Size)

namespace Reads

theorem nil : Reads [] [] := fun _ => ⟨[], rfl, rfl⟩

theorem space (h : Reads rest ls) : Reads (' ' :: rest) ls := fun position => h (position + ' '.utf8Size)

theorem token (hc : isSpace c = false) (hl : lexeme c (cs ++ rest) = .ok (l, cs.length)) (h : Reads rest ls) :
    Reads (c :: cs ++ rest) (l :: ls) := by
  intro position
  obtain ⟨position', hskip⟩ := exists_tokens_skip (position + c.utf8Size) cs rest
  obtain ⟨ts, hts, rfl⟩ := h position'
  refine ⟨⟨l, position⟩ :: ts, ?_, rfl⟩
  rw [List.cons_append, tokens]
  simp only [hc, Bool.false_eq_true, if_false, hl, hskip, hts]

theorem char (hc : isSpace c = false) (hl : lexeme c rest = .ok (l, 0)) (h : Reads rest ls) :
    Reads (c :: rest) (l :: ls) := by
  have hl : lexeme c ([] ++ rest) = .ok (l, ([] : List Char).length) := by rwa [List.nil_append, List.length_nil]
  have htoken := token hc hl h
  rwa [List.singleton_append] at htoken

theorem openParen (h : Reads rest ls) : Reads ('(' :: rest) (.openParen :: ls) := char rfl rfl h

theorem closeParen (h : Reads rest ls) : Reads (')' :: rest) (.closeParen :: ls) := char rfl rfl h

theorem comma (h : Reads rest ls) : Reads (',' :: rest) (.comma :: ls) := char rfl rfl h

end Reads

theorem Stops.isNameChar_eq_false (h : Stops rest) : ∀ c ∈ rest.head?, isNameChar c = false := by
  intro c hc
  rcases h c hc with rfl | rfl | rfl <;> decide

theorem ne_of_isNameChar {d : Char} (hc : isNameChar c = true) (hd : isNameChar d = false) : c ≠ d := by
  rintro rfl
  simp [hc] at hd

theorem takeWhile_append_of_stop {p : Char → Bool} (hcs : ∀ c ∈ cs, p c = true)
    (hrest : ∀ c ∈ rest.head?, p c = false) : (cs ++ rest).takeWhile p = cs := by
  rw [List.takeWhile_append_of_pos hcs]
  cases rest with
  | nil => simp
  | cons c rest => simp [hrest c rfl]

theorem lexeme_name (hc : startsName c = true) (hcs : ∀ d ∈ cs, isNameChar d = true)
    (hrest : ∀ d ∈ rest.head?, isNameChar d = false) :
    lexeme c (cs ++ rest) = .ok (.name (String.ofList (c :: cs)), cs.length) := by
  obtain ⟨hname, hdigit⟩ := Bool.and_eq_true_iff.1 hc
  have hne {d : Char} (hd : isNameChar d = false) : c ≠ d := ne_of_isNameChar hname hd
  have hdigit : ¬(c.isDigit = true ∨ c = '.') := not_or.2 ⟨by simpa using hdigit, hne (by decide)⟩
  simp only [lexeme]
  rw [if_neg (hne (by decide)), if_neg (hne (by decide)), if_neg (hne (by decide)),
    if_neg (not_or.2 ⟨hne (by decide), hne (by decide)⟩), if_neg (hne (by decide)), if_neg hdigit, if_pos hname,
    takeWhile_append_of_stop hcs hrest]

theorem isDigit_of_isLetter (hc : Text.isLetter c = true) : c.isDigit = false := by
  rw [Bool.eq_false_iff]
  intro hd
  have hascii : ∀ n < 128, Text.isLetter (Char.ofNat n) = true → (Char.ofNat n).isDigit = false := by decide
  have hlt : c.toNat < 128 := by
    have : c.toNat ≤ 57 := (Char.isDigit_iff_toNat.1 hd).2
    omega
  simpa [hc, hd] using hascii c.toNat hlt

theorem isRead_of_standsBare {s : String} (h : Printer.standsBare s = true) : (Lexeme.name s).IsRead := by
  unfold Printer.standsBare at h
  split at h
  case h_1 => cases h
  case h_2 c cs hs =>
    simp only [Bool.and_eq_true, Bool.or_eq_true, beq_iff_eq, List.all_eq_true] at h
    obtain ⟨⟨hc, hcs⟩, -⟩ := h
    refine ⟨c, cs, hs, ?_, hcs⟩
    rcases hc with (rfl | rfl) | hc
    · decide
    · decide
    · have hname : isNameChar c = true := by simp [isNameChar, Text.isLetterOrNumeral, hc]
      simp [startsName, hname, isDigit_of_isLetter hc]

theorem quoted_textChar (c : Char) (rest : List Char) : quoted '\'' (Printer.textChar c ++ rest) =
    (quoted '\'' rest).map fun (t, n) => (c :: t, n + (Printer.textChar c).length) := by
  unfold Printer.textChar
  split
  case h_6 hquote hslash _ _ _ =>
    rw [List.singleton_append, quoted.eq_def]
    simp only [if_neg hquote, if_neg hslash]
    rfl
  all_goals simp [quoted, unescape]

theorem quoted_textChars (s rest : List Char) :
    quoted '\'' (s.flatMap Printer.textChar ++ '\'' :: rest) = some (s, (s.flatMap Printer.textChar).length + 1) := by
  induction s with
  | nil =>
    rw [List.flatMap_nil, List.nil_append, quoted.eq_def]
    rfl
  | cons c s ih =>
    rw [List.flatMap_cons, List.append_assoc, quoted_textChar, ih]
    simp
    omega

theorem lexeme_text (s rest : List Char) : lexeme '\'' (s.flatMap Printer.textChar ++ '\'' :: rest) =
    .ok (.text (String.ofList s), (s.flatMap Printer.textChar).length + 1) := by
  simp [lexeme, quoted_textChars]

theorem lexeme_braced (hs : '}' ∉ cs) (rest : List Char) :
    lexeme '{' (cs ++ '}' :: rest) = .ok (.braced (String.ofList cs), cs.length + 1) := by
  have htake : (cs ++ '}' :: rest).takeWhile (· ≠ '}') = cs :=
    takeWhile_append_of_stop (fun c hc => by simpa using ne_of_mem_of_not_mem hc hs) (by simp)
  simp only [lexeme]
  rw [htake]
  simp

theorem exists_lexeme_symbol {op : BinaryOp} (hop : 0 < op.precedence) (rest : List Char) :
    ∃ c cs, op.symbol.toList = c :: cs ∧ isSpace c = false ∧
      lexeme c (cs ++ ' ' :: rest) = .ok (.op op, cs.length) := by
  cases op with
  | other s => exact absurd hop (Nat.lt_irrefl 0)
  | add => exact ⟨'+', [], by decide, rfl, rfl⟩
  | sub => exact ⟨'-', [], by decide, rfl, rfl⟩
  | mul => exact ⟨'*', [], by decide, rfl, rfl⟩
  | div => exact ⟨'/', [], by decide, rfl, rfl⟩
  | mod => exact ⟨'%', [], by decide, rfl, rfl⟩
  | eq => exact ⟨'=', [], by decide, rfl, rfl⟩
  | eqEq => exact ⟨'=', ['='], by decide, rfl, rfl⟩
  | notEq => exact ⟨'!', ['='], by decide, rfl, rfl⟩
  | lt => exact ⟨'<', [], by decide, rfl, rfl⟩
  | gt => exact ⟨'>', [], by decide, rfl, rfl⟩
  | ltEq => exact ⟨'<', ['='], by decide, rfl, rfl⟩
  | gtEq => exact ⟨'>', ['='], by decide, rfl, rfl⟩
  | concat => exact ⟨'&', [], by decide, rfl, rfl⟩
  | and => exact ⟨'&', ['&'], by decide, rfl, rfl⟩
  | or => exact ⟨'|', ['|'], by decide, rfl, rfl⟩

theorem Stops.exponentLength_eq (h : Stops rest) : exponentLength rest = 0 := by
  cases rest with
  | nil => rfl
  | cons c rest =>
    have hc : ¬(c = 'e' ∨ c = 'E') := by
      rcases h c rfl with rfl | rfl | rfl <;> decide
    simp only [exponentLength, if_neg hc]

theorem numeralLength_numeral {whole fraction : List Char} (hw : ∀ c ∈ whole, c.isDigit = true)
    (hf : ∀ c ∈ fraction, c.isDigit = true) (hrest : Stops rest) :
    numeralLength (Number.numeral whole fraction ++ rest) = (Number.numeral whole fraction).length := by
  have hstop : ∀ c ∈ rest.head?, c.isDigit = false := by
    intro c hc
    rcases hrest c hc with rfl | rfl | rfl <;> decide
  by_cases hne : fraction = []
  · subst hne
    have hpoint : ∀ ds, rest ≠ '.' :: ds := by
      rintro ds rfl
      simpa using hrest '.' rfl
    simp only [Number.numeral, numeralLength, List.isEmpty_nil, if_true, List.append_nil,
      takeWhile_append_of_stop hw hstop, List.drop_left]
    simp [hrest.exponentLength_eq]
  · have htake : (whole ++ '.' :: (fraction ++ rest)).takeWhile Char.isDigit = whole :=
      takeWhile_append_of_stop hw (by simp)
    have hdrop : ('.' :: (fraction ++ rest)).drop (1 + fraction.length) = rest := by
      rw [Nat.add_comm, List.drop_succ_cons, List.drop_left]
    have htext : Number.numeral whole fraction = whole ++ '.' :: fraction := by simp [Number.numeral, hne]
    simp only [htext, numeralLength, List.append_assoc, List.cons_append, htake, List.drop_left,
      takeWhile_append_of_stop hf hstop, hdrop, hrest.exponentLength_eq]
    simp
    omega

theorem exists_lexeme_number {n : Number} (hn : n.isFinite = true) (hsign : n.negative = false) :
    ∃ c cs, n.plain.toList = c :: cs ∧ c.isDigit = true ∧
      ∀ rest, Stops rest → lexeme c (cs ++ rest) = .ok (.number n, cs.length) := by
  obtain ⟨whole, fraction, h⟩ := Number.exists_written_plain hn hsign
  obtain ⟨c, cs, hcs, hdigit⟩ := h.exists_digit
  refine ⟨c, cs, hcs, hdigit, fun rest hrest => ?_⟩
  have hlength : numeralLength (c :: (cs ++ rest)) = (c :: cs).length := by
    rw [← List.cons_append, ← hcs, h.text]
    exact numeralLength_numeral h.whole_digits h.fraction_digits hrest
  have htext : String.ofList ((c :: (cs ++ rest)).take (c :: cs).length) = n.plain := by
    rw [← List.cons_append, List.take_left, ← hcs, String.ofList_toList]
  have hne {d : Char} (hd : d.isDigit = false) : c ≠ d := by
    rintro rfl
    simp [hdigit] at hd
  simp only [lexeme]
  rw [if_neg (hne (by decide)), if_neg (hne (by decide)), if_neg (hne (by decide)),
    if_neg (not_or.2 ⟨hne (by decide), hne (by decide)⟩), if_neg (hne (by decide)), if_pos (.inl hdigit),
    hlength, htext, h.ofText?_eq hn hsign]
  rfl

/-- The text has these tokens before anything that ends a token. It does not begin with `=`, which an exclamation
mark before it would take. -/
structure Scans (cs : List Char) (ls : List Lexeme) : Prop where
  head : ∀ c ∈ cs.head?, c ≠ '='
  reads : ∀ {rest ls'}, Stops rest → Reads rest ls' → Reads (cs ++ rest) (ls ++ ls')

namespace Scans

theorem token (hspace : isSpace c = false) (hc : c ≠ '=')
    (hl : ∀ rest, Stops rest → lexeme c (cs ++ rest) = .ok (l, cs.length)) : Scans (c :: cs) [l] where
  head := by simpa using hc
  reads hrest h := .token hspace (hl _ hrest) h

theorem name {s : String} (hl : (Lexeme.name s).IsRead) : Scans s.toList [.name s] := by
  obtain ⟨c, cs, hs, hc, hcs⟩ := hl
  have hname : isNameChar c = true := (Bool.and_eq_true_iff.1 hc).1
  have hlexeme (rest : List Char) (hrest : Stops rest) : lexeme c (cs ++ rest) = .ok (.name s, cs.length) := by
    rw [lexeme_name hc hcs hrest.isNameChar_eq_false, ← hs, String.ofList_toList]
  rw [hs]
  exact token (isSpace_eq_false (by decide) hname) (ne_of_isNameChar hname (by decide)) hlexeme

theorem wrapped (h : Scans cs ls) (needed : Bool) :
    Scans (if needed then '(' :: cs ++ [')'] else cs) (Formula.wrapped needed ls) := by
  cases needed with
  | false => exact h
  | true =>
    refine ⟨by simp, fun hrest h' => ?_⟩
    simpa [Formula.wrapped] using Reads.openParen (h.reads (by simp) h'.closeParen)

theorem lexeme_bang (h : Scans cs ls) (hrest : Stops rest) : lexeme '!' (cs ++ rest) = .ok (.bang, 0) := by
  have hne : ∀ ds, cs ++ rest ≠ '=' :: ds := by
    intro ds heq
    cases cs with
    | nil =>
      rw [List.nil_append] at heq
      simp [heq] at hrest
    | cons c cs => exact h.head c rfl (List.cons.inj heq).1
  have hoperator : operator? ('!' :: (cs ++ rest)) = some (.bang, 0) := by
    rw [operator?]
    exact hne
  have hname : isNameChar '!' = false := by decide
  simp [lexeme, hoperator, hname]

theorem signed (h : Scans cs ls) {op : UnaryOp} (hop : ∀ s, op ≠ .other s) :
    Scans (op.symbol.toList ++ cs) (Formula.signLexemes op ++ ls) := by
  cases op with
  | other s => exact absurd rfl (hop s)
  | minus => exact ⟨by simp [UnaryOp.symbol], fun hrest h' => .char rfl rfl (h.reads hrest h')⟩
  | plus => exact ⟨by simp [UnaryOp.symbol], fun hrest h' => .char rfl rfl (h.reads hrest h')⟩
  | not =>
    exact ⟨by simp [UnaryOp.symbol], fun hrest h' => .char rfl (h.lexeme_bang hrest) (h.reads hrest h')⟩

theorem binary {op : BinaryOp} (hop : 0 < op.precedence) (hl : Scans cs ls) (hr : Scans ds ls') :
    Scans (cs ++ ' ' :: op.symbol.toList ++ ' ' :: ds) (ls ++ .op op :: ls') := by
  refine ⟨?_, fun {rest ls''} hrest h => ?_⟩
  · cases cs with
    | nil => simp
    | cons c cs => simpa using hl.head c rfl
  · obtain ⟨c, os, hsymbol, hspace, hlexeme⟩ := exists_lexeme_symbol hop (ds ++ rest)
    have hop := Reads.token hspace hlexeme (hr.reads hrest h).space
    simpa [hsymbol] using hl.reads (by simp) hop.space

theorem number {n : Number} (hn : n.isFinite = true) (hsign : n.negative = false) :
    Scans n.plain.toList [.number n] := by
  obtain ⟨c, cs, hcs, hc, hlexeme⟩ := exists_lexeme_number hn hsign
  rw [hcs]
  exact token (isSpace_eq_false (p := Char.isDigit) (by decide) hc) (by rintro rfl; simp at hc) hlexeme

theorem literal {v : Literal} (hv : ∀ n, v = .number n → n.isFinite = true ∧ n.negative = false) :
    Scans (Printer.literal v).toList [Formula.literalLexeme v] := by
  have hword (s : String) (hs : s ∈ ["true", "false", "null"]) : (Lexeme.name s).IsRead := by
    simp only [List.mem_cons, List.not_mem_nil, or_false] at hs
    rcases hs with rfl | rfl | rfl
    · exact ⟨'t', ['r', 'u', 'e'], by decide, by decide, List.all_eq_true.1 (by decide)⟩
    · exact ⟨'f', ['a', 'l', 's', 'e'], by decide, by decide, List.all_eq_true.1 (by decide)⟩
    · exact ⟨'n', ['u', 'l', 'l'], by decide, by decide, List.all_eq_true.1 (by decide)⟩
  cases v with
  | number n => exact number (hv n rfl).1 (hv n rfl).2
  | text s =>
    rw [Printer.literal, String.toList_ofList, List.cons_append]
    exact token rfl (by decide) fun rest _ => by simpa [Formula.literalLexeme] using lexeme_text s.toList rest
  | boolean b =>
    cases b with
    | true => exact name (hword "true" (by simp))
    | false => exact name (hword "false" (by simp))
  | null => exact name (hword "null" (by simp))

theorem column {s : String} (hs : '}' ∉ s.toList) : Scans (Printer.column s).toList [Formula.columnLexeme s] := by
  unfold Printer.column Formula.columnLexeme
  split
  case isTrue h => exact name (isRead_of_standsBare h)
  case isFalse =>
    have hcs : ("\x7b" ++ s ++ "\x7d").toList = '{' :: (s.toList ++ ['}']) := by simp
    rw [hcs]
    exact token rfl (by decide) fun rest _ => by simpa using lexeme_braced hs rest

/-- The arguments of a call up to its closing parenthesis. -/
theorem arguments {args : List (List Char × List Lexeme)} (hargs : ∀ a ∈ args, Scans a.1 a.2) (h : Reads rest ls) :
    Reads ([',', ' '].intercalate (args.map Prod.fst) ++ ')' :: rest)
      ([Lexeme.comma].intercalate (args.map Prod.snd) ++ .closeParen :: ls) := by
  induction args with
  | nil => simpa using h.closeParen
  | cons a args ih =>
    obtain ⟨ha, hargs⟩ := List.forall_mem_cons.1 hargs
    cases args with
    | nil => simpa using ha.reads (by simp) h.closeParen
    | cons b args => simpa [List.intercalate_cons_cons] using ha.reads (by simp) (ih hargs).space.comma

theorem call {s : String} (hs : (Lexeme.name s).IsRead) {args : List (List Char × List Lexeme)}
    (hargs : ∀ a ∈ args, Scans a.1 a.2) :
    Scans (s.toList ++ '(' :: [',', ' '].intercalate (args.map Prod.fst) ++ [')'])
      (.name s :: .openParen :: [Lexeme.comma].intercalate (args.map Prod.snd) ++ [Lexeme.closeParen]) := by
  obtain ⟨c, cs, hcs, hc, hname⟩ := id hs
  have hchar : isNameChar c = true := (Bool.and_eq_true_iff.1 hc).1
  refine ⟨by simpa [hcs] using ne_of_isNameChar hchar (by decide), fun {rest ls'} _ h => ?_⟩
  have hlexeme (rest : List Char) : lexeme c (cs ++ '(' :: rest) = .ok (.name s, cs.length) := by
    rw [lexeme_name hc hname (by simp; decide), ← hcs, String.ofList_toList]
  have htoken := Reads.token (isSpace_eq_false (by decide) hchar) (hlexeme _) (arguments hargs h).openParen
  simpa [hcs] using htoken

end Scans

theorem toList_parenthesize (needed : Bool) (s : String) : (Printer.parenthesize needed s).toList =
    if needed then '(' :: s.toList ++ [')'] else s.toList := by
  cases needed <;> simp [Printer.parenthesize]

theorem exprs_eq_map (es : List Expr) : Printer.exprs es = es.map Printer.expr := by
  induction es with
  | nil => rfl
  | cons e es ih => rw [Printer.exprs, ih, List.map_cons]

theorem notMem_brace {s : String} (hs : (Lexeme.name s).IsRead) : '}' ∉ s.toList := by
  obtain ⟨c, cs, hcs, hc, hname⟩ := hs
  rw [hcs, List.mem_cons, not_or]
  exact ⟨(ne_of_isNameChar (Bool.and_eq_true_iff.1 hc).1 (by decide)).symm,
    fun hmem => ne_of_isNameChar (hname _ hmem) (by decide) rfl⟩

/-- In upper case an ASCII name is a name. -/
theorem isRead_upper {s : String} (hs : (Lexeme.name s).IsRead) (hascii : ∀ c ∈ s.toList, c.toNat < 128) :
    (Lexeme.name (Text.upper s)).IsRead := by
  obtain ⟨c, cs, hcs, hc, hname⟩ := hs
  have hupper (l : List Char) (hl : ∀ c ∈ l, c.toNat < 128) : l.flatMap Text.upperChar = l.map Char.toUpper := by
    induction l with
    | nil => rfl
    | cons c l ih => simp [Text.upperChar, hl c, ih fun d hd => hl d (by simp [hd])]
  have hstart : ∀ n < 128, startsName (Char.ofNat n) = true → startsName (Char.ofNat n).toUpper = true := by decide
  have hmore : ∀ n < 128, isNameChar (Char.ofNat n) = true → isNameChar (Char.ofNat n).toUpper = true := by decide
  rw [hcs] at hascii
  refine ⟨c.toUpper, cs.map Char.toUpper, ?_, ?_, ?_⟩
  · rw [Text.upper, String.toList_ofList, hcs, hupper _ hascii, List.map_cons]
  · simpa using hstart c.toNat (hascii c List.mem_cons_self) (by simpa using hc)
  · refine List.forall_mem_map.2 fun d hd => ?_
    simpa using hmore d.toNat (hascii d (List.mem_cons_of_mem c hd)) (by simpa using hname d hd)

end Lexer

namespace Expr

open Formula

/-- What a node that was read from text is known to be. -/
def IsRead : Expr → Prop
  | .literal v => ∀ n, v = .number n → n.negative = false
  | .column s => '}' ∉ s.toList
  | .binary op _ _ => 0 < op.precedence
  | .unary op _ => ∀ s, op ≠ .other s
  | .call name _ => ∃ s, name = some s ∧ (Lexeme.name s).IsRead
  | .unsupported _ => False

/-- A number is finite, and the name of a call is in ASCII. -/
def IsPlain : Expr → Prop
  | .literal v => ∀ n, v = .number n → n.isFinite = true
  | .call name _ => ∀ s, name = some s → ∀ c ∈ s.toList, c.toNat < 128
  | _ => True

theorem isRead_of_parse {text : String} {e : Expr} (h : parse text = .ok e) : e.Everywhere IsRead := by
  refine everywhere_of_parse h (fun l hl => ?_) fun l op e hop => ?_
  · cases l with
    | number v =>
      rintro n ⟨⟩
      exact hl
    | text s => exact nofun
    | braced s => exact hl
    | name s =>
      refine ⟨?_, fun args => ⟨s, rfl, hl⟩⟩
      unfold Parser.bareName
      split
      case h_4 => exact Lexer.notMem_brace hl
      all_goals exact nofun
    | op o => exact fun _ _ => hl
    | _ => trivial
  · rintro s rfl
    cases hop

/-- The printed text has the printed tokens. -/
theorem scans_format {e : Expr} (he : e.Everywhere fun e => e.IsRead ∧ e.IsPlain) :
    Lexer.Scans e.format.toList (lexemes e) := by
  unfold format
  induction he with
  | literal h => exact .literal fun n hn => ⟨h.2 n hn, h.1 n hn⟩
  | column h => exact .column h.1
  | unsupported h => exact h.1.elim
  | @unary op e h _ ih =>
    rw [Printer.expr, String.toList_append, Lexer.toList_parenthesize, lexemes]
    exact (ih.wrapped _).signed h.1
  | @binary op l r h _ _ ihl ihr =>
    have hl := ihl.wrapped (Printer.bindsBelow op.precedence l)
    have hr := ihr.wrapped (Printer.bindsBelow (op.precedence + 1) r)
    simpa [Printer.expr, Lexer.toList_parenthesize, lexemes] using hl.binary h.1 hr
  | @call name args h _ ih =>
    obtain ⟨s, rfl, hs⟩ := h.1
    have hname := Lexer.isRead_upper hs (h.2 s rfl)
    have hargs : ∀ a ∈ args.map fun e => ((Printer.expr e).toList, lexemes e), Lexer.Scans a.1 a.2 :=
      List.forall_mem_map.2 ih
    simpa [Printer.expr, Lexer.exprs_eq_map, String.toList_intercalate, lexemes, lexemesAll_eq_map,
      Function.comp_def] using Lexer.Scans.call hname hargs

/-- Formula text, printed in its canonical spelling, is read as the same expression with the names of its calls in
upper case, provided that its numbers are finite and those names in ASCII. -/
theorem parse_format {text : String} {e : Expr} (hparse : parse text = .ok e) (hplain : e.Everywhere IsPlain) :
    parse e.format = .ok e.upperCalls := by
  obtain ⟨s, hs⟩ := exists_scan_of_parse hparse
  have hprinted := ((parse_eq_ok_iff hs).1 hparse).printable
  have hscans := scans_format ((isRead_of_parse hparse).and hplain)
  obtain ⟨ts, hts, hlexemes⟩ := hscans.reads Lexer.stops_nil .nil 0
  rw [List.append_nil] at hts hlexemes
  have hscan : Lexer.scan e.format = .ok ⟨ts, Text.byteLength e.format.toList⟩ := by rw [Lexer.scan, hts]
  rw [parse_eq_ok_iff hscan, hlexemes]
  exact hprinted.derives.of_symbolOf (by decide) hprinted.known

theorem parse_format_round :
    let n : Number := ⟨false, 0x4004000000000000⟩
    let args (e : Expr) : List Expr := [e, .binary .concat (.column "b c") (.text "it's")]
    let e : Expr := .binary .mul (.unary .minus (.number n)) (.binary .sub (.column "a") (.column "null"))
    parse "Round((-2.5) * (a - \x7bnull\x7d), (\x7bb c\x7d & \"it's\"))" = .ok (.call (some "Round") (args e)) ∧
      parse (Expr.format (.call (some "Round") (args e))) = .ok (.call (some "ROUND") (args e)) ∧
      Expr.format (.call (some "Round") (args e)) = "ROUND(-2.5 * (a - \x7bnull\x7d), \x7bb c\x7d & 'it\\'s')" := by
  intro n args e
  have hscan : Lexer.scan "Round((-2.5) * (a - \x7bnull\x7d), (\x7bb c\x7d & \"it's\"))" = .ok ⟨[⟨.name "Round", 0⟩,
      ⟨.openParen, 5⟩, ⟨.openParen, 6⟩, ⟨.op .sub, 7⟩, ⟨.number n, 8⟩, ⟨.closeParen, 11⟩, ⟨.op .mul, 13⟩,
      ⟨.openParen, 15⟩, ⟨.name "a", 16⟩, ⟨.op .sub, 18⟩, ⟨.braced "null", 20⟩, ⟨.closeParen, 26⟩, ⟨.comma, 27⟩,
      ⟨.openParen, 29⟩, ⟨.braced "b c", 30⟩, ⟨.op .concat, 36⟩, ⟨.text "it's", 38⟩, ⟨.closeParen, 44⟩,
      ⟨.closeParen, 45⟩], 46⟩ := by
    decide +kernel
  have hparse : parse "Round((-2.5) * (a - \x7bnull\x7d), (\x7bb c\x7d & \"it's\"))" =
      .ok (.call (some "Round") (args e)) := (parse_of_scan hscan).trans (by cbv)
  have hplain : Everywhere IsPlain (.call (some "Round") (args e)) := by
    have hnumber : Everywhere IsPlain (.number n) := .literal (by rintro _ ⟨⟩; decide)
    refine .call (by rintro _ ⟨⟩; simp) (List.forall_mem_cons.2 ⟨?_, List.forall_mem_singleton.2 ?_⟩)
    · exact .binary trivial (.unary trivial hnumber) (.binary trivial (.column trivial) (.column trivial))
    · exact .binary trivial (.column trivial) (.literal (by rintro _ ⟨⟩))
  exact ⟨hparse, parse_format hparse hplain, by decide +kernel⟩

end Expr

end SheetQuery
