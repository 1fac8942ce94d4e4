import Mathlib.Data.List.TakeWhile
import Mathlib.Tactic.SplitIfs
import SheetQuery.Token.Lexer

/-! What the tokens of formula text can be: names begin like names, what stands between braces has no closing
brace in it, numerals have no sign and only the marks of numerals, and operators are those of the language. -/

namespace SheetQuery

def Lexer.startsName (c : Char) : Bool := isNameChar c && !c.isDigit

/-- What a lexeme is known to be when it was read from text. -/
def Lexeme.IsRead : Lexeme → Prop
  | .number n => n.negative = false
  | .name s => ∃ c cs, s.toList = c :: cs ∧ Lexer.startsName c = true ∧ ∀ d ∈ cs, Lexer.isNameChar d = true
  | .braced s => '}' ∉ s.toList
  | .op o => 0 < o.precedence
  | _ => True

namespace Number

theorem ofDecimal_sign (b : Bool) (digits : Nat) (e : Int) :
    ofDecimal b digits e = ⟨b, (ofDecimal false digits e).rank⟩ := by
  unfold ofDecimal
  split_ifs <;> rfl

theorem negative_ofUnsigned? {b : Bool} {cs : List Char} {n : Number} (h : ofUnsigned? b cs = some n) :
    n.negative = b := by
  simp only [ofUnsigned?, Option.ite_none_left_eq_some, Option.map_eq_some_iff] at h
  obtain ⟨-, e, -, rfl⟩ := h
  rw [ofDecimal_sign]

theorem toLower_of_isDigit {c : Char} (h : c.isDigit = true) : c.toLower = c := by
  refine dif_neg ?_
  rintro ⟨hupper, -⟩
  have hle : c.toNat ≤ 57 := by simpa using (Char.isDigit_iff_toNat.1 h).2
  have hge : 65 ≤ c.toNat := hupper
  omega

/-- What begins with a digit or a point has no sign and is no word. -/
theorem ofText?_numeral {s : String} (hs : ∀ c ∈ s.toList.head?, c.isDigit = true ∨ c = '.') :
    ofText? s = ofUnsigned? false s.toList := by
  cases hcs : s.toList with
  | nil => simp [ofText?, hcs, Text.asciiLower]
  | cons c cs =>
    have hc : c.isDigit = true ∨ c = '.' := hs c (by simp [hcs])
    have hlower : c.toLower = c := by
      rcases hc with hc | rfl
      · exact toLower_of_isDigit hc
      · rfl
    have hword (w : String) (hw : ∀ d ∈ w.toList.head?, d.isDigit = false ∧ d ≠ '.') :
        Text.asciiLower (String.ofList (c :: cs)) ≠ w := by
      rintro rfl
      obtain ⟨hdigit, hpoint⟩ := hw c (by simp [Text.asciiLower, hlower])
      simp_all
    have hminus : c ≠ '-' := by rintro rfl; simp at hc
    have hplus : c ≠ '+' := by rintro rfl; simp at hc
    have hwords : ¬(Text.asciiLower (String.ofList (c :: cs)) = "inf" ∨
        Text.asciiLower (String.ofList (c :: cs)) = "infinity") :=
      not_or.2 ⟨hword _ (by simp), hword _ (by simp)⟩
    unfold ofText?
    rw [hcs]
    split
    rename_i negative ds hsign
    obtain ⟨rfl, rfl⟩ : negative = false ∧ ds = c :: cs := by
      split at hsign <;> simp_all
    rw [if_neg hwords, if_neg (hword "nan" (by simp))]

end Number

namespace Lexer

variable {c : Char} {cs : List Char} {l : Lexeme} {n : Nat}

def isNumeralMark (c : Char) : Bool := c.isDigit || ['.', 'e', 'E', '+', '-'].contains c

/-- The first so many characters are such as a numeral may have. -/
def HasMarks (n : Nat) (cs : List Char) : Prop := ∀ c ∈ cs.take n, isNumeralMark c = true

theorem HasMarks.cons (hc : isNumeralMark c = true) (h : HasMarks n cs) : HasMarks (1 + n) (c :: cs) := by
  rw [HasMarks, Nat.add_comm, List.take_succ_cons]
  exact List.forall_mem_cons.2 ⟨hc, h⟩

theorem HasMarks.add {m : Nat} (h : HasMarks n cs) (h' : HasMarks m (cs.drop n)) : HasMarks (n + m) cs := by
  rw [HasMarks, List.take_add]
  exact List.forall_mem_append.2 ⟨h, h'⟩

theorem hasMarks_zero : HasMarks 0 cs := by simp [HasMarks]

theorem hasMarks_digits (cs : List Char) : HasMarks (cs.takeWhile Char.isDigit).length cs := by
  have htake : cs.take (cs.takeWhile Char.isDigit).length = cs.takeWhile Char.isDigit :=
    (List.prefix_iff_eq_take.1 (List.takeWhile_prefix _)).symm
  intro c hc
  rw [htake] at hc
  simp [isNumeralMark, List.mem_takeWhile_imp hc]

theorem hasMarks_exponent (cs : List Char) : HasMarks (exponentLength cs) cs := by
  unfold exponentLength
  split
  case h_2 => exact hasMarks_zero
  case h_1 e ds =>
    split
    case isFalse => exact hasMarks_zero
    case isTrue he =>
      have hmark : isNumeralMark e = true := by rcases he with rfl | rfl <;> decide
      dsimp only
      split
      case h_1 => exact hasMarks_zero
      case h_2 =>
        rw [Nat.add_assoc]
        refine .cons hmark ?_
        cases ds with
        | nil => exact hasMarks_zero
        | cons s ds =>
          dsimp only
          split
          case isTrue hs => exact .cons (by rcases hs with rfl | rfl <;> decide) (hasMarks_digits ds)
          case isFalse => simpa using hasMarks_digits (s :: ds)

theorem hasMarks_numeral (cs : List Char) : HasMarks (numeralLength cs) cs := by
  simp only [numeralLength]
  refine .add (.add (hasMarks_digits cs) ?_) ?_
  · split
    case h_1 ds hrest =>
      rw [hrest]
      exact .cons (by decide) (hasMarks_digits ds)
    case h_2 => exact hasMarks_zero
  · rw [← List.drop_drop]
    exact hasMarks_exponent _

theorem operator?_isRead (h : operator? cs = some (l, n)) : l.IsRead := by
  unfold operator? at h
  split at h <;> simp at h <;> obtain ⟨rfl, rfl⟩ := h <;> simp [Lexeme.IsRead, BinaryOp.precedence]

/-- The lexeme `l` begins with the first character and takes `n` of those behind it. -/
inductive Begins : Char → List Char → Lexeme → Nat → Prop
  | openParen (cs : List Char) : Begins '(' cs .openParen 0
  | closeParen (cs : List Char) : Begins ')' cs .closeParen 0
  | comma (cs : List Char) : Begins ',' cs .comma 0
  | text {q : Char} {cs t : List Char} {n : Nat} (quote : q = '\'' ∨ q = '"') (content : quoted q cs = some (t, n)) :
    Begins q cs (.text (.ofList t)) n
  | braced {name : List Char} (closed : '}' ∉ name) (rest : List Char) :
    Begins '{' (name ++ '}' :: rest) (.braced (.ofList name)) (name.length + 1)
  | number {c : Char} {cs : List Char} {v : Number} (first : c.isDigit = true ∨ c = '.')
    (value : Number.ofText? (.ofList ((c :: cs).take (numeralLength (c :: cs)))) = some v) :
    Begins c cs (.number v) (numeralLength (c :: cs) - 1)
  | name {c : Char} (cs : List Char) (first : startsName c = true) :
    Begins c cs (.name (.ofList (c :: cs.takeWhile isNameChar))) (cs.takeWhile isNameChar).length
  | operator {c : Char} {cs : List Char} {l : Lexeme} {n : Nat} (symbol : operator? (c :: cs) = some (l, n)) :
    Begins c cs l n

theorem begins_braced (h : (cs.takeWhile (· ≠ '}')).length < cs.length) :
    Begins '{' cs (.braced (.ofList (cs.takeWhile (· ≠ '}')))) ((cs.takeWhile (· ≠ '}')).length + 1) := by
  have hsplit := List.takeWhile_append_dropWhile (p := (· ≠ '}')) (l := cs)
  have hclosed : '}' ∉ cs.takeWhile (· ≠ '}') := fun hmem => by simpa using List.mem_takeWhile_imp hmem
  cases hrest : cs.dropWhile (· ≠ '}') with
  | nil =>
    rw [hrest, List.append_nil] at hsplit
    rw [hsplit] at h
    exact absurd h (Nat.lt_irrefl _)
  | cons d rest =>
    obtain rfl : d = '}' := by
      have hhead := List.head_dropWhile_not (· ≠ '}') (l := cs) (by rw [hrest]; exact List.cons_ne_nil d rest)
      simp only [hrest, List.head_cons] at hhead
      simpa using hhead
    rw [hrest] at hsplit
    have hbegins := Begins.braced hclosed rest
    rwa [hsplit] at hbegins

theorem begins_of_lexeme (h : lexeme c cs = .ok (l, n)) : Begins c cs l n := by
  simp only [lexeme] at h
  split at h
  case isTrue hc =>
    cases h
    exact hc ▸ .openParen cs
  split at h
  case isTrue hc =>
    cases h
    exact hc ▸ .closeParen cs
  split at h
  case isTrue hc =>
    cases h
    exact hc ▸ .comma cs
  split at h
  case isTrue hc =>
    split at h
    case h_1 ht =>
      cases h
      exact .text hc ht
    case h_2 => cases h
  split at h
  case isTrue hc =>
    split at h
    case isTrue hlt =>
      cases h
      exact hc ▸ begins_braced hlt
    case isFalse => cases h
  split at h
  case isTrue hc =>
    split at h
    case h_1 hv =>
      cases h
      exact .number hc hv
    case h_2 => cases h
  case isFalse hdigit =>
    split at h
    case isTrue hc =>
      cases h
      exact .name cs (by simp_all [startsName])
    case isFalse =>
      split at h
      case h_1 hr =>
        cases h
        exact .operator hr
      case h_2 => cases h

theorem lexeme_isRead (h : lexeme c cs = .ok (l, n)) : l.IsRead := by
  cases begins_of_lexeme h with
  | openParen | closeParen | comma | text => trivial
  | braced closed rest =>
    rw [Lexeme.IsRead, String.toList_ofList]
    exact closed
  | number first value =>
    rw [Number.ofText?_numeral] at value
    · exact Number.negative_ofUnsigned? value
    · rw [String.toList_ofList]
      cases numeralLength (c :: cs) with
      | zero => simp
      | succ k => simpa using first
  | name cs first => exact ⟨c, _, String.toList_ofList, first, fun d hd => List.mem_takeWhile_imp hd⟩
  | operator symbol => exact operator?_isRead symbol

theorem tokens_isRead {position skip : Nat} {ts : List Token} (h : tokens position skip cs = .ok ts) :
    ∀ t ∈ ts, t.lexeme.IsRead := by
  induction cs generalizing position skip ts with
  | nil =>
    obtain rfl : [] = ts := by simpa [tokens] using h
    simp
  | cons c cs ih =>
    cases skip with
    | succ k => exact ih h
    | zero =>
      simp only [tokens] at h
      split at h
      · exact ih h
      · split at h
        · cases h
        · rename_i l n hl
          split at h
          · cases h
          · rename_i ts' hts
            cases h
            exact List.forall_mem_cons.2 ⟨lexeme_isRead hl, ih hts⟩

theorem scan_isRead {text : String} {s : TokenStream} (h : scan text = .ok s) : ∀ t ∈ s.tokens, t.lexeme.IsRead := by
  unfold scan at h
  split at h
  · cases h
  · rename_i ts hts
    cases h
    exact tokens_isRead hts

end Lexer

end SheetQuery
