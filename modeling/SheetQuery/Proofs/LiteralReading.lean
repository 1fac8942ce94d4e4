import SheetQuery.Proofs.Comments
import SheetQuery.Proofs.Lexemes
import SheetQuery.Proofs.NumberText

/-! What a database reads where a value is written in line. The literal is read to its end and no further, and it
denotes the value, with two exceptions: MySQL takes a backslash in a text for the beginning of an escape, unless a
wildcard follows, and a number that is not finite is written as a word. -/

namespace SheetQuery

/-! ### Literals as they are read -/

namespace Sql

def escaped : Char → List Char
  | '0' => ['\x00']
  | 'b' => ['\x08']
  | 'n' => ['\n']
  | 'r' => ['\r']
  | 't' => ['\t']
  | 'Z' => ['\x1a']
  | '%' => ['\\', '%']
  | '_' => ['\\', '_']
  | c => [c]

/-- The content of a text from behind its opening quote, and what follows the closing one. -/
def textContent? (escapes : Bool) : List Char → Option (List Char × List Char)
  | [] => none
  | c :: cs =>
    if c = '\'' then
      match cs with
      | [] => some ([], [])
      | q :: rest =>
        if q = '\'' then (textContent? escapes rest).map fun (t, rest) => ('\'' :: t, rest) else some ([], q :: rest)
    else if (c == '\\' && escapes) = true then
      match cs with
      | [] => none
      | e :: rest => (textContent? escapes rest).map fun (t, rest) => (escaped e ++ t, rest)
    else (textContent? escapes cs).map fun (t, rest) => (c :: t, rest)

/-- Digits, and perhaps a point with more of them. -/
def isDecimal (cs : List Char) : Bool :=
  !(cs.takeWhile Char.isDigit).isEmpty &&
    match cs.dropWhile Char.isDigit with
    | [] => true
    | c :: fraction => c == '.' && !fraction.isEmpty && fraction.all Char.isDigit

/-- The value of a word with or without a minus sign before it. -/
def wordValue? (d : Dialect) (minus : Bool) (cs : List Char) : Option Binding :=
  if isDecimal cs then (Number.ofUnsigned? minus cs).map .number
  else if minus || !d.predicatesAreValues then none
  else if cs = ['T', 'R', 'U', 'E'] then some (.boolean true)
  else if cs = ['F', 'A', 'L', 'S', 'E'] then some (.boolean false)
  else none

/-- The value of the literal at the front of SQL text, and what follows it. -/
def literal? (d : Dialect) (cs : List Char) : Option (Binding × List Char) :=
  if cs.head? = some '\'' then (textContent? (d == .mysql) cs.tail).map fun (t, rest) => (.text (.ofList t), rest)
  else
    let minus := cs.head? == some '-'
    let cs := if minus then cs.tail else cs
    (wordValue? d minus (cs.takeWhile isWordChar)).map (·, cs.dropWhile isWordChar)

end Sql

/-- Whether `w`, read from SQL text, is the value that was bound. A dialect without truth values has numbers for
them. -/
def Binding.isReadAs (d : Dialect) : Binding → Binding → Bool
  | .text s, .text t => s == t
  | .number n, .number m => n.same m
  | .boolean b, .boolean c => d.predicatesAreValues && b == c
  | .boolean b, .number m => !d.predicatesAreValues && m.same (.ofNat b.toNat)
  | _, _ => false

/-- Every backslash stands before a wildcard. -/
def Text.isGuarded : List Char → Bool
  | [] => true
  | c :: cs => (c != '\\' || cs.head?.any ['%', '_'].contains) && isGuarded cs

/-- Whether the literal of a value denotes it. -/
def Binding.isLegible (d : Dialect) : Binding → Bool
  | .text s => d != .mysql || Text.isGuarded s.toList
  | .number n => n.isFinite
  | .boolean _ => true

/-! ### Texts -/

namespace Sql

open Text (isGuarded)

variable {escapes : Bool} {d : Dialect} {c : Char} {cs t rest : List Char}

theorem textContent?_quote (cs : List Char) : textContent? escapes ('\'' :: '\'' :: cs) =
    (textContent? escapes cs).map fun (t, rest) => ('\'' :: t, rest) := by
  rw [textContent?, if_pos rfl]
  exact if_pos rfl

theorem textContent?_close (hrest : rest.head? ≠ some '\'') :
    textContent? escapes ('\'' :: rest) = some ([], rest) := by
  cases rest with
  | nil => rfl
  | cons c rest =>
    rw [textContent?, if_pos rfl]
    exact if_neg fun hc => hrest (congrArg some hc)

theorem textContent?_escape (c : Char) (cs : List Char) : textContent? true ('\\' :: c :: cs) =
    (textContent? true cs).map fun (t, rest) => (escaped c ++ t, rest) := by
  rw [textContent?, if_neg (by decide)]
  exact if_pos rfl

theorem textContent?_plain (hquote : c ≠ '\'') (hescape : ¬ (c == '\\' && escapes) = true) (cs : List Char) :
    textContent? escapes (c :: cs) = (textContent? escapes cs).map fun (t, rest) => (c :: t, rest) := by
  rw [textContent?.eq_def]
  dsimp only
  rw [if_neg hquote, if_neg hescape]

theorem doubling_self (close : Char) (cs : List Char) :
    doubling close (close :: cs) = close :: close :: doubling close cs := by
  rw [doubling, List.flatMap_cons, if_pos rfl]
  rfl

theorem doubling_of_ne {close : Char} (h : c ≠ close) (cs : List Char) :
    doubling close (c :: cs) = c :: doubling close cs := by
  rw [doubling, List.flatMap_cons, if_neg h]
  rfl

theorem length_doubling (close : Char) (cs : List Char) :
    (doubling close cs).length = cs.length + cs.count close := by
  induction cs with
  | nil => rfl
  | cons c cs ih =>
    by_cases h : c = close
    · rw [h, doubling_self, List.count_cons_self]
      simp only [List.length_cons, ih]
      omega
    · rw [doubling_of_ne h, List.count_cons_of_ne h]
      simp only [List.length_cons, ih]
      omega

theorem textContent?_doubling (hcs : escapes = true → isGuarded cs = true) (hrest : rest.head? ≠ some '\'') :
    textContent? escapes (doubling '\'' cs ++ '\'' :: rest) = some (cs, rest) := by
  -- a backslash and a wildcard are read together
  induction hn : cs.length using Nat.strong_induction_on generalizing cs with
  | _ n ih =>
    subst hn
    cases cs with
    | nil => exact textContent?_close hrest
    | cons c cs =>
      have hguard (he : escapes = true) :
          (c = '\\' → cs.head?.any ['%', '_'].contains = true) ∧ isGuarded cs = true := by
        have h := hcs he
        rw [isGuarded, Bool.and_eq_true] at h
        refine ⟨fun hc => ?_, h.2⟩
        simpa [hc] using h.1
      have htail := ih cs.length (Nat.lt_succ_self _) (fun he => (hguard he).2) rfl
      by_cases hquote : c = '\''
      · rw [hquote, doubling_self, List.cons_append, List.cons_append, textContent?_quote, htail]
        rfl
      rw [doubling_of_ne hquote, List.cons_append]
      by_cases hescape : (c == '\\' && escapes) = true
      · obtain ⟨rfl, rfl⟩ : c = '\\' ∧ escapes = true := by simpa using hescape
        obtain ⟨hhead, hguard⟩ := hguard rfl
        cases cs with
        | nil => simp at hhead
        | cons w cs =>
          have hwild : w = '%' ∨ w = '_' := by simpa using hhead rfl
          have hw : w ≠ '\'' ∧ escaped w = ['\\', w] := by rcases hwild with rfl | rfl <;> decide
          have hcs : isGuarded cs = true := by
            rw [isGuarded, Bool.and_eq_true] at hguard
            exact hguard.2
          rw [doubling_of_ne hw.1, List.cons_append, textContent?_escape, hw.2,
            ih cs.length (by simp only [List.length_cons]; omega) (fun _ => hcs) rfl]
          rfl
      · rw [textContent?_plain hquote hescape, htail]
        rfl

/-- An escape gives no more than was read, counting quotes twice, and less unless it is of a quote or a wildcard. -/
theorem escaped_length (c : Char) : (escaped c).length + (escaped c).count '\'' ≤ 2 ∧
    ((escaped c).length + (escaped c).count '\'' = 2 →
      ∀ t, isGuarded t = true → isGuarded (escaped c ++ t) = true) := by
  fun_cases escaped c with
  | case7 | case8 => exact ⟨by decide, fun _ t ht => by simpa [isGuarded] using ht⟩
  | case9 c =>
    by_cases hc : c = '\''
    · subst hc
      exact ⟨by decide, fun _ t ht => by simpa [isGuarded] using ht⟩
    · simp [hc]
  | _ => exact ⟨by decide, fun h => absurd h (by decide)⟩

/-- What is read is no longer than its text, counting quotes twice, and if it is as long then every backslash in it
stands before a wildcard. -/
theorem textContent?_length (h : textContent? true cs = some (t, rest)) :
    t.length + t.count '\'' + 1 + rest.length ≤ cs.length ∧
      (t.length + t.count '\'' + 1 + rest.length = cs.length → isGuarded t = true) := by
  induction hn : cs.length using Nat.strong_induction_on generalizing cs t with
  | _ n ih =>
    subst hn
    cases cs with
    | nil => cases h
    | cons c cs =>
      by_cases hquote : c = '\''
      · subst hquote
        by_cases hdouble : cs.head? = some '\''
        · obtain ⟨cs, rfl⟩ : ∃ ds, cs = '\'' :: ds := by cases cs <;> simp_all
          rw [textContent?_quote, Option.map_eq_some_iff] at h
          obtain ⟨⟨t', rest'⟩, ht, heq⟩ := h
          cases heq
          obtain ⟨hle, hguard⟩ := ih _ (by simp only [List.length_cons]; omega) ht rfl
          simp only [List.length_cons, List.count_cons_self]
          exact ⟨by omega, fun he => by simpa [isGuarded] using hguard (by omega)⟩
        · rw [textContent?_close hdouble] at h
          cases h
          simp [isGuarded]
          omega
      by_cases hescape : c = '\\'
      · subst hescape
        cases cs with
        | nil => simp [textContent?] at h
        | cons e cs =>
          rw [textContent?_escape, Option.map_eq_some_iff] at h
          obtain ⟨⟨t', rest'⟩, ht, heq⟩ := h
          cases heq
          obtain ⟨hle, hguard⟩ := ih _ (by simp only [List.length_cons]; omega) ht rfl
          obtain ⟨hle', hguard'⟩ := escaped_length e
          simp only [List.length_cons, List.length_append, List.count_append]
          exact ⟨by omega, fun he => hguard' (by omega) _ (hguard (by omega))⟩
      · rw [textContent?_plain hquote (by simpa using hescape), Option.map_eq_some_iff] at h
        obtain ⟨⟨t', rest'⟩, ht, heq⟩ := h
        cases heq
        obtain ⟨hle, hguard⟩ := ih _ (Nat.lt_succ_self _) ht rfl
        simp only [List.length_cons, List.count_cons_of_ne hquote]
        exact ⟨by omega, fun he => by simpa [isGuarded, hescape] using hguard (by omega)⟩

/-- A text is read back exactly if a backslash does not escape, or stands before wildcards only. -/
theorem textContent?_doubling_iff (hrest : rest.head? ≠ some '\'') :
    textContent? escapes (doubling '\'' cs ++ '\'' :: rest) = some (cs, rest) ↔
      (escapes = true → isGuarded cs = true) := by
  refine ⟨fun h he => ?_, fun hcs => textContent?_doubling hcs hrest⟩
  subst he
  refine (textContent?_length h).2 ?_
  rw [List.length_append, length_doubling, List.length_cons]
  omega

end Sql

/-! ### Numbers and truth values -/

namespace Number

variable {n : Number}

theorem isNaN_of_isFinite (hn : n.isFinite = true) : n.isNaN = false := by
  simp only [isFinite, isNaN, decide_eq_true_eq, decide_eq_false_iff_not] at hn ⊢
  omega

/-- The text of a finite number is that of its magnitude behind its sign. -/
theorem plain_finite (hn : n.isFinite = true) : n.plain.toList = signed (n.lt .zero) n.abs.plain.toList := by
  have hwhole : n.abs.isWhole = n.isWhole := rfl
  have hpart : n.abs.wholePart = n.wholePart := rfl
  have hshort : n.abs.shortest .up = n.shortest .up := rfl
  have hfinite : n.abs.isFinite = true := hn
  have hnan := isNaN_of_isFinite hn
  rw [lt_zero, hnan, plain, plain, hwhole, hpart]
  split
  case isTrue => simp [signed, abs]
  case isFalse h =>
    have hzero : n.isZero = false := by
      rw [Bool.eq_false_iff]
      exact fun hz => h (by simp [isWhole_of_isZero hz])
    have hzero' : n.abs.isZero = false := hzero
    simp [display, hnan, isNaN_of_isFinite hfinite, hn, hfinite, hzero, hzero', hshort]
    simp [abs, signed]

theorem same_magnitude (hn : n.isFinite = true) : n.same ⟨n.lt .zero, n.rank⟩ = true := by
  have hnan := isNaN_of_isFinite hn
  have hnan' : isNaN ⟨n.lt .zero, n.rank⟩ = false := hnan
  rw [same, hnan, hnan', lt_zero, hnan]
  obtain ⟨s, r⟩ := n
  cases s with
  | false => simp [key]
  | true => cases r <;> simp [key, isZero]

end Number

namespace Sql

open Number

variable {d : Dialect} {n : Number} {cs rest : List Char}

theorem Separated.isWordChar_eq_false (h : Separated rest) : ∀ c ∈ rest.head?, isWordChar c = false := by
  intro c hc
  rcases h c hc with rfl | rfl | rfl <;> decide

/-- A word is read to its end. -/
theorem literal?_word (hne : cs ≠ []) (hcs : ∀ c ∈ cs, isWordChar c = true) (minus : Bool) (hrest : Separated rest) :
    literal? d (signed minus cs ++ rest) = (wordValue? d minus cs).map (·, rest) := by
  have hstop := hrest.isWordChar_eq_false
  have htake : (cs ++ rest).takeWhile isWordChar = cs := by
    rw [List.takeWhile_append_of_pos hcs]
    cases rest <;> simp_all
  have hdrop : (cs ++ rest).dropWhile isWordChar = rest := by
    rw [List.dropWhile_append_of_pos hcs]
    cases rest <;> simp_all
  cases minus with
  | true => simp [literal?, signed, htake, hdrop]
  | false =>
    obtain ⟨c, cs, rfl⟩ := List.exists_cons_of_ne_nil hne
    have hc := hcs c List.mem_cons_self
    have hquote : c ≠ '\'' := by rintro rfl; revert hc; decide
    have hminus : (c == '-') = false := by
      rw [beq_eq_false_iff_ne]
      rintro rfl
      revert hc
      decide
    rw [List.cons_append] at htake hdrop
    simp [literal?, signed, hquote, hminus, htake, hdrop]

theorem isDecimal_numeral {whole fraction : List Char} (hne : whole ≠ []) (hw : ∀ c ∈ whole, c.isDigit = true)
    (hf : ∀ c ∈ fraction, c.isDigit = true) : isDecimal (numeral whole fraction) = true := by
  have hpoint : ¬ ('.' : Char).isDigit = true := by decide
  cases fraction with
  | nil =>
    have htake : whole.takeWhile Char.isDigit = whole := List.takeWhile_eq_self_iff.2 hw
    have hdrop : whole.dropWhile Char.isDigit = [] := List.dropWhile_eq_nil_iff.2 hw
    simp [numeral, isDecimal, htake, hdrop, hne]
  | cons c cs =>
    have htake : (whole ++ '.' :: c :: cs).takeWhile Char.isDigit = whole := by
      rw [List.takeWhile_append_of_pos hw, List.takeWhile_cons_of_neg hpoint, List.append_nil]
    have hdrop : (whole ++ '.' :: c :: cs).dropWhile Char.isDigit = '.' :: c :: cs := by
      rw [List.dropWhile_append_of_pos hw, List.dropWhile_cons_of_neg hpoint]
    simp only [numeral, List.isEmpty_cons, Bool.false_eq_true, if_false, isDecimal, htake, hdrop]
    simpa [hne] using hf

theorem isWordChar_numeral {whole fraction : List Char} (hw : ∀ c ∈ whole, c.isDigit = true)
    (hf : ∀ c ∈ fraction, c.isDigit = true) : ∀ c ∈ numeral whole fraction, isWordChar c = true := by
  have hdigit {c : Char} (hc : c.isDigit = true) : isWordChar c = true := isWordChar_of (by decide) hc
  refine List.forall_mem_append.2 ⟨fun c hc => hdigit (hw c hc), ?_⟩
  split
  · simp
  · exact List.forall_mem_cons.2 ⟨by decide, fun c hc => hdigit (hf c hc)⟩

theorem literal?_plain (hn : n.isFinite = true) (hrest : Separated rest) :
    literal? d (n.plain.toList ++ rest) = some (.number ⟨n.lt .zero, n.rank⟩, rest) := by
  obtain ⟨whole, fraction, hwritten⟩ := exists_written_plain (n := n.abs) hn rfl
  have hne : numeral whole fraction ≠ [] := by simp [numeral, hwritten.nonempty]
  have hvalue : wordValue? d (n.lt .zero) (numeral whole fraction) = some (.number ⟨n.lt .zero, n.rank⟩) := by
    rw [wordValue?, if_pos (isDecimal_numeral hwritten.nonempty hwritten.whole_digits hwritten.fraction_digits),
      ofUnsigned?_numeral hwritten.whole_digits hwritten.fraction_digits hwritten.nonempty, ofDecimal_sign,
      ofDecimal_of_holds (n := n.abs) hn rfl hwritten.holds]
    rfl
  rw [plain_finite hn, hwritten.text,
    literal?_word hne (isWordChar_numeral hwritten.whole_digits hwritten.fraction_digits) _ hrest, hvalue]
  rfl

/-- What is not finite is written as a word, which is no literal. -/
theorem literal?_plain_eq_none (hn : n.isFinite = false) (hrest : Separated rest) :
    literal? d (n.plain.toList ++ rest) = none := by
  have hwhole : n.isWhole = false := by simp [isWhole, hn]
  have hword (cs : List Char) (hcs : cs = ['i', 'n', 'f'] ∨ cs = ['N', 'a', 'N']) (minus : Bool) :
      literal? d (signed minus cs ++ rest) = none := by
    have hnone : wordValue? d minus cs = none := by rcases hcs with rfl | rfl <;> cases minus <;> cases d <;> decide
    have hne : cs ≠ [] := by rcases hcs with rfl | rfl <;> simp
    have hchars : cs.all isWordChar = true := by rcases hcs with rfl | rfl <;> decide
    rw [literal?_word hne (List.all_eq_true.1 hchars) minus hrest, hnone]
    rfl
  rw [plain, hwhole, Bool.false_and, if_neg Bool.false_ne_true, display]
  split
  · exact hword ['N', 'a', 'N'] (.inr rfl) false
  · rw [hn, String.toList_ofList]
    exact hword ['i', 'n', 'f'] (.inl rfl) n.negative

theorem isNaN_ofNat (k : Nat) : (ofNat k).isNaN = false := by
  simp [isNaN, ofNat, ofRatio, rankOfUnits]

theorem ofDecimal_whole (k : Nat) : ofDecimal false k 0 = .ofNat k := by
  rcases Nat.eq_zero_or_pos k with rfl | hk
  · simp [ofDecimal, ofNat, ofRatio, rankOfUnits, roundDiv]
  · simp [ofDecimal, ofNat, hk.ne']

theorem ofUnsigned?_bit (b : Bool) :
    ofUnsigned? false (if b then ['1'] else ['0']) = some (.ofNat b.toNat) := by
  cases b
  · exact congrArg some (ofDecimal_whole 0)
  · exact congrArg some (ofDecimal_whole 1)

/-- Truth values are written as words of the dialect or as numbers. -/
theorem literal?_boolean (b : Bool) (hrest : Separated rest) :
    ∃ v, literal? d (literalChars d (.boolean b) ++ rest) = some (v, rest) ∧
      (Binding.boolean b).isReadAs d v = true := by
  cases hd : d.predicatesAreValues with
  | true =>
    have hchars : literalChars d (.boolean b) = signed false (if b then "TRUE".toList else "FALSE".toList) := by
      cases b <;> simp [literalChars, Binding.literal, hd, signed]
    have hvalue : wordValue? d false (if b then "TRUE".toList else "FALSE".toList) = some (.boolean b) := by
      cases b <;> simp [wordValue?, hd] <;> decide
    rw [hchars, literal?_word (by cases b <;> simp) (List.all_eq_true.1 (by cases b <;> decide)) false hrest, hvalue]
    exact ⟨_, rfl, by simp [Binding.isReadAs, hd]⟩
  | false =>
    have hchars : literalChars d (.boolean b) = signed false (if b then ['1'] else ['0']) := by
      cases b <;> simp [literalChars, Binding.literal, hd, signed]
    have hvalue : wordValue? d false (if b then ['1'] else ['0']) = some (.number (.ofNat b.toNat)) := by
      rw [wordValue?, if_pos (by cases b <;> decide), ofUnsigned?_bit b]
      rfl
    have hsame : (Number.ofNat b.toNat).same (.ofNat b.toNat) = true := by
      simp [Number.same, isNaN_ofNat]
    rw [hchars, literal?_word (by cases b <;> simp) (List.all_eq_true.1 (by cases b <;> decide)) false hrest, hvalue]
    exact ⟨_, rfl, by simp [Binding.isReadAs, hd, hsame]⟩

theorem Separated.head?_ne_quote (h : Separated rest) : rest.head? ≠ some '\'' := fun hq => by
  simpa using h '\'' hq

/-- Before anything that ends it, a literal is read as the bound value and no further exactly if it is legible. -/
theorem literal?_iff (d : Dialect) (v : Binding) (hrest : Separated rest) :
    (∃ w, literal? d (literalChars d v ++ rest) = some (w, rest) ∧ v.isReadAs d w = true) ↔ v.isLegible d = true := by
  cases v with
  | boolean b => exact iff_of_true (literal?_boolean b hrest) rfl
  | number n =>
    cases hn : n.isFinite with
    | true => exact iff_of_true ⟨_, literal?_plain hn hrest, same_magnitude hn⟩ hn
    | false =>
      refine iff_of_false ?_ (by simp [Binding.isLegible, hn])
      rintro ⟨w, hw, -⟩
      have hnone : literal? d (literalChars d (.number n) ++ rest) = none := literal?_plain_eq_none hn hrest
      rw [hnone] at hw
      cases hw
  | text s =>
    have hchars : literalChars d (.text s) ++ rest = '\'' :: (doubling '\'' s.toList ++ '\'' :: rest) := by
      simp [literalChars, Binding.literal, Text.replaceChar, doubling]
    have hread : literal? d (literalChars d (.text s) ++ rest) =
        (textContent? (d == .mysql) (doubling '\'' s.toList ++ '\'' :: rest)).map fun (t, rest) =>
          (.text (.ofList t), rest) := by
      rw [hchars, literal?, if_pos (by rfl)]
      rfl
    have hlegible : Binding.isLegible d (.text s) = true ↔ ((d == .mysql) = true → Text.isGuarded s.toList = true) := by
      cases d <;> simp [Binding.isLegible]
    rw [hlegible, ← textContent?_doubling_iff hrest.head?_ne_quote, hread]
    constructor
    · rintro ⟨w, hw, hsame⟩
      obtain ⟨⟨t, rest'⟩, ht, heq⟩ := Option.map_eq_some_iff.1 hw
      cases heq
      obtain rfl : s = .ofList t := by simpa [Binding.isReadAs] using hsame
      rw [String.toList_ofList] at ht ⊢
      exact ht
    · intro h
      exact ⟨.text s, by simp [h], by simp [Binding.isReadAs]⟩

/-! ### Literals in their places -/

section
open Fragment (inlineStep InlineState)

variable {vs vs' : List Binding} {ds out pre post : List Char} {v : Binding} {w w' : String}

theorem length_pending_step (s : InlineState) (c : Char) :
    (inlineStep d s c).pending.length ≤ s.pending.length := by
  unfold inlineStep
  split
  · exact Nat.le_refl _
  · split <;> simp_all

theorem length_pending (s : InlineState) (cs : List Char) :
    (cs.foldl (inlineStep d) s).pending.length ≤ s.pending.length := by
  induction cs generalizing s with
  | nil => exact Nat.le_refl _
  | cons c cs ih => exact Nat.le_trans (ih _) (length_pending_step s c)

/-- A placeholder that takes a value uses it up. -/
theorem Inlines.not_filled (h : Inlines d (pre ++ '?' :: post) vs vs out) :
    pre.foldl (inlineStep d) ⟨none, vs, w⟩ ≠ ⟨none, v :: vs', w'⟩ := by
  intro hpre
  have hall := h w
  rw [List.foldl_append, hpre, List.foldl_cons] at hall
  have hbefore := length_pending ⟨none, vs, w⟩ pre (d := d)
  have hafter := length_pending (inlineStep d ⟨none, v :: vs', w'⟩ '?') post (d := d)
  rw [hpre] at hbefore
  rw [hall] at hafter
  simp only [inlineStep, List.length_cons] at hbefore hafter
  omega

/-- Every placeholder that takes one of the values stands before what ends a literal. -/
def Filled (d : Dialect) (vs : List Binding) (cs : List Char) : Prop :=
  ∀ pre post w w' v vs', cs = pre ++ '?' :: post →
    pre.foldl (inlineStep d) ⟨none, vs, w⟩ = ⟨none, v :: vs', w'⟩ → Separated post

theorem Separated.append (h : Separated cs) (h' : Separated ds) : Separated (cs ++ ds) := by
  cases cs with
  | nil => exact h'
  | cons c cs => exact h

/-- A placeholder stands in one part or the other. -/
theorem placeholder_append (h : cs ++ ds = pre ++ '?' :: post) :
    (∃ as, pre = cs ++ as ∧ ds = as ++ '?' :: post) ∨ ∃ bs, cs = pre ++ '?' :: bs ∧ post = bs ++ ds := by
  rcases List.append_eq_append_iff.1 h with hright | ⟨bs, rfl, hpost⟩
  · exact .inl hright
  · cases bs with
    | nil => exact .inl ⟨[], by simp, hpost.symm⟩
    | cons c bs =>
      obtain ⟨rfl, rfl⟩ := List.cons_eq_cons.1 hpost
      exact .inr ⟨bs, rfl, rfl⟩

namespace Filled

theorem fixed (h : Inlines d cs vs vs out) : Filled d vs cs := by
  rintro pre post w w' v vs' rfl hpre
  exact absurd hpre h.not_filled

/-- Behind text without placeholders of its own. -/
theorem after (h : Filled d vs ds) (hi : Inlines d cs vs vs out) : Filled d vs (cs ++ ds) := by
  intro pre post w w' v vs' heq hpre
  rcases placeholder_append heq with ⟨as, rfl, hds⟩ | ⟨bs, rfl, -⟩
  · rw [List.foldl_append, hi w] at hpre
    exact h as post _ w' v vs' hds hpre
  · exact absurd hpre hi.not_filled

theorem append (hl : Filled d vs cs) (hi : Inlines d cs vs vs' out) (hsep : Separated ds) (hr : Filled d vs' ds) :
    Filled d vs (cs ++ ds) := by
  intro pre post w w' v vs'' heq hpre
  rcases placeholder_append heq with ⟨as, rfl, hds⟩ | ⟨bs, rfl, rfl⟩
  · rw [List.foldl_append, hi w] at hpre
    exact hr as post _ w' v vs'' hds hpre
  · exact (hl pre bs w w' v vs'' rfl hpre).append hsep

theorem value (v : Binding) (vs : List Binding) : Filled d (v :: vs) ['?'] := by
  intro pre post w w' v' vs' heq _
  obtain ⟨rfl, rfl⟩ : pre = [] ∧ post = [] := by
    cases pre <;> simp_all
  exact .nil

end Filled

/-- The values of a layout are written before what ends a literal. -/
theorem filled_chars {g : Doc} (hg : ∀ n ∈ g.names, isSealed d n = true) (vs : List Binding) :
    Filled d (g.values ++ vs) (g.chars d) := by
  induction g generalizing vs with
  | empty | word | text | column => exact .fixed (Inlines.chars hg vs)
  | value v => exact .value v vs
  | binary op l r ihl ihr =>
    have hnames : (∀ n ∈ l.names, isSealed d n = true) ∧ ∀ n ∈ r.names, isSealed d n = true :=
      List.forall_mem_append.1 hg
    have hop : Inlines d (' ' :: op.text.toList ++ [' ']) (r.values ++ vs) (r.values ++ vs) _ :=
      .fixed _ (by cases op <;> cases d <;> decide) _
    have hright := (ihr hnames.2 vs).after hop
    have hall := (ihl hnames.1 (r.values ++ vs)).append (Inlines.chars hnames.1 _) (.cons (.inl rfl) _) hright
    simpa [Doc.values, Doc.charsWith, Doc.chars] using hall
  | spaced l r ihl ihr =>
    have hnames : (∀ n ∈ l.names, isSealed d n = true) ∧ ∀ n ∈ r.names, isSealed d n = true :=
      List.forall_mem_append.1 hg
    have hspace : Inlines d [' '] (r.values ++ vs) (r.values ++ vs) [' '] := .fixed _ (by cases d <;> decide) _
    have hright := (ihr hnames.2 vs).after hspace
    have hall := (ihl hnames.1 (r.values ++ vs)).append (Inlines.chars hnames.1 _) (.cons (.inl rfl) _) hright
    simpa [Doc.values, Doc.charsWith, Doc.chars] using hall
  | listed l r ihl ihr =>
    have hnames : (∀ n ∈ l.names, isSealed d n = true) ∧ ∀ n ∈ r.names, isSealed d n = true :=
      List.forall_mem_append.1 hg
    have hcomma : Inlines d [',', ' '] (r.values ++ vs) (r.values ++ vs) [',', ' '] :=
      .fixed _ (by cases d <;> decide) _
    have hright := (ihr hnames.2 vs).after hcomma
    have hall := (ihl hnames.1 (r.values ++ vs)).append (Inlines.chars hnames.1 _) (.cons (.inr (.inl rfl)) _) hright
    simpa [Doc.values, Doc.charsWith, Doc.chars] using hall
  | minus g ih => exact (ih hg vs).after (.fixed ['-'] (by cases d <;> decide) _)
  | not g ih => exact (ih hg vs).after (.fixed ['N', 'O', 'T', ' '] (by cases d <;> decide) _)
  | parens g ih =>
    have hclose : Inlines d [')'] vs vs [')'] := .fixed _ (by cases d <;> decide) _
    have hinside := (ih hg vs).append (Inlines.chars (g := g) hg vs) (.cons (.inr (.inr rfl)) []) (.fixed hclose)
    exact hinside.after (.fixed ['('] (by cases d <;> decide) _)
  | call name g ih =>
    have hclose : Inlines d [')'] vs vs [')'] := .fixed _ (by cases d <;> decide) _
    have hinside := (ih hg vs).append (Inlines.chars (g := g) hg vs) (.cons (.inr (.inr rfl)) []) (.fixed hclose)
    have hopen := hinside.after (.fixed ['('] (by cases d <;> decide) _)
    simpa [Doc.values, Doc.charsWith, Doc.chars] using hopen.after (.word name _)
  | choice g ih =>
    have hend : Inlines d [' ', 'E', 'N', 'D'] vs vs [' ', 'E', 'N', 'D'] := .fixed _ (by cases d <;> decide) _
    have hinside := (ih hg vs).append (Inlines.chars (g := g) hg vs) (.cons (.inl rfl) _) (.fixed hend)
    have hcase := hinside.after (.fixed ['C', 'A', 'S', 'E', ' '] (by cases d <;> decide) _)
    simpa [Doc.values, Doc.charsWith, Doc.chars] using hcase

theorem written_step (s : InlineState) (c : Char) :
    ∃ out, (inlineStep d s c).written = s.written ++ .ofList out ∧ (c ≠ '?' → out = [c]) := by
  have hpush (w : String) : w.push c = w ++ .ofList [c] := String.toList_inj.1 (by simp)
  obtain ⟨closing, pending, written⟩ := s
  cases closing with
  | some close => exact ⟨[c], hpush written, fun _ => rfl⟩
  | none =>
    by_cases hc : c = '?'
    · subst hc
      cases pending with
      | nil => exact ⟨['?'], hpush written, fun _ => rfl⟩
      | cons v vs => exact ⟨literalChars d v, by simp [inlineStep, literalChars], fun hc => absurd rfl hc⟩
    · rw [inlineStep_of_ne hc]
      exact ⟨[c], hpush written, fun _ => rfl⟩

/-- What is written from a place on is added to what was written before, and ends a literal if the text does. -/
theorem written_foldl (s : InlineState) (cs : List Char) :
    ∃ out, (cs.foldl (inlineStep d) s).written = s.written ++ .ofList out ∧ (Separated cs → Separated out) := by
  induction cs generalizing s with
  | nil => exact ⟨[], by simp, fun _ => .nil⟩
  | cons c cs ih =>
    obtain ⟨first, hfirst, hc⟩ := written_step (d := d) s c
    obtain ⟨out, hout, -⟩ := ih (inlineStep d s c)
    refine ⟨first ++ out, ?_, fun h => ?_⟩
    · rw [List.foldl_cons, hout, hfirst, String.append_assoc, ← String.ofList_append]
    · have hend := h c rfl
      rw [hc (by rcases hend with rfl | rfl | rfl <;> decide)]
      exact .cons hend out

theorem Spells.literal_in_place {f : Fragment} {g : Doc} (hs : Spells d f g) (hn : ∀ n ∈ g.names, isSealed d n = true)
    (hsplit : f.text.toList = pre ++ '?' :: post)
    (hpre : pre.foldl (inlineStep d) ⟨none, f.bindings, ""⟩ = ⟨none, v :: vs, w⟩) :
    ∃ rest, Separated rest ∧ (f.inline d).toList = w.toList ++ literalChars d v ++ rest := by
  have hfilled := filled_chars hn []
  rw [List.append_nil, ← hs.bindings, ← hs.text] at hfilled
  have hpost : Separated post := hfilled pre post "" w v vs hsplit hpre
  obtain ⟨out, hout, hsep⟩ := written_foldl (d := d) ⟨none, vs, w ++ v.literal d⟩ post
  refine ⟨out, hsep hpost, ?_⟩
  rw [Fragment.inline, hsplit, List.foldl_append, hpre, List.foldl_cons]
  have hstep : inlineStep d ⟨none, v :: vs, w⟩ '?' = ⟨none, vs, w ++ v.literal d⟩ := rfl
  rw [hstep, hout]
  simp [literalChars]

end

end Sql

namespace Expr

open Sql

/-- Each literal that is written for a value of a compiled formula is read, before anything that ends it, as that
value and no further, exactly if the value is legible: in MySQL no text may have a backslash before anything but a
wildcard, and numbers must be finite. In the SQL with its values written in, provided every name in quotes is sealed,
what follows each literal does end it. -/
theorem inlined_literals_denote {text : String} {e : Expr} (h : parse text = .ok e) (d : Dialect) (names : Naming)
    {f : Fragment} (hf : f = (e.compile d names).fragment ∨ f = (e.compileCondition d names).fragment) :
    (∀ v ∈ f.bindings, ∀ rest, Separated rest →
      ((∃ w, literal? d (literalChars d v ++ rest) = some (w, rest) ∧ v.isReadAs d w = true) ↔
        v.isLegible d = true)) ∧
    (names.All (isSealed d · = true) → e.Everywhere (NamedBy (isSealed d · = true)) →
      ∀ pre post v vs w, f.text.toList = pre ++ '?' :: post →
        pre.foldl (Fragment.inlineStep d) ⟨none, f.bindings, ""⟩ = ⟨none, v :: vs, w⟩ →
        ∃ rest, Separated rest ∧ (f.inline d).toList = w.toList ++ literalChars d v ++ rest) := by
  refine ⟨fun v _ rest hrest => literal?_iff d v hrest, fun hn hc pre post v vs w hsplit hpre => ?_⟩
  have hm : e.Everywhere (Rules.naming True (isSealed d · = true)).Meets :=
    (hc.and (worded_of_parse h)).imp fun _ h => h.1.meets fun _ => h.2
  rcases hf with rfl | rfl
  · obtain ⟨g, hg, hs⟩ := compile_laid_out hn.tableAlias hn.recordIdColumn id hm (.inl trivial)
    exact hs.literal_in_place (Doc.names_under hg.names hn.outputName) hsplit hpre
  · obtain ⟨g, hg, hs⟩ := compileCondition_laid_out hn.tableAlias hn.recordIdColumn id hm (.inl trivial)
    exact hs.literal_in_place hg.names hsplit hpre

/-- A quote and a backslash before a wildcard, in MySQL. -/
theorem inlined_literals_denote_wildcard :
    let e : Expr := .text "it's 5\\%"
    let f : Fragment := ⟨"?", [.text "it's 5\\%"], .value⟩
    parse "\"it's 5\\\\%\"" = .ok e ∧ (e.compile .mysql .default).fragment = f ∧
      (∃ w, literal? .mysql "'it''s 5\\%'".toList = some (w, []) ∧
        (Binding.text "it's 5\\%").isReadAs .mysql w = true) ∧
      ∃ rest, Separated rest ∧ (f.inline .mysql).toList = "'it''s 5\\%'".toList ++ rest := by
  intro e f
  have hscan : Lexer.scan "\"it's 5\\\\%\"" = .ok ⟨[⟨.text "it's 5\\%", 0⟩], 11⟩ := by
    simp [Lexer.scan, Lexer.tokens, Lexer.lexeme, Lexer.quoted, Lexer.unescape, Lexer.isSpace, Text.byteLength,
      Char.utf8Size]
  have hparse : parse "\"it's 5\\\\%\"" = .ok e := (parse_of_scan hscan).trans (by cbv)
  have hf : f = (e.compile .mysql .default).fragment := by rfl
  have hnames : Naming.default.All (isSealed .mysql · = true) :=
    ⟨by simp [Naming.default], by simp [Naming.default], rfl⟩
  have hcolumns : e.Everywhere (NamedBy (isSealed .mysql · = true)) := .literal trivial
  obtain ⟨hreads, hplace⟩ := inlined_literals_denote hparse .mysql .default (.inl hf)
  have hlegible : (Binding.text "it's 5\\%").isLegible .mysql = true := by decide
  obtain ⟨rest, hrest, hinline⟩ := hplace hnames hcolumns [] [] (.text "it's 5\\%") [] "" (by decide) (by rfl)
  exact ⟨hparse, hf.symm, (hreads _ List.mem_cons_self [] .nil).2 hlegible, rest, hrest, hinline⟩

/-- MySQL reads another text where a backslash was bound, or finds no end to it, and no dialect reads a numeral that
is out of range. -/
theorem inlined_literals_misread :
    let e : Expr := .text "a\\b"
    let e' : Expr := .text "a\\"
    let n : Expr := .number .infinity
    (parse "'a\\\\b'" = .ok e ∧ (e.compile .mysql .default).fragment.inline .mysql = "'a\\b'" ∧
      literal? .mysql "'a\\b'".toList = some (.text "a\x08", [])) ∧
    (parse "'a\\\\'" = .ok e' ∧ (e'.compile .mysql .default).fragment.inline .mysql = "'a\\'" ∧
      literal? .mysql "'a\\'".toList = none) ∧
    parse "1e999" = .ok n ∧ ∀ d, (n.compile d .default).fragment.inline d = "inf" ∧ literal? d "inf".toList = none := by
  intro e e' n
  have hback : Lexer.scan "'a\\\\b'" = .ok ⟨[⟨.text "a\\b", 0⟩], 6⟩ ∧
      Lexer.scan "'a\\\\'" = .ok ⟨[⟨.text "a\\", 0⟩], 5⟩ := by
    simp [Lexer.scan, Lexer.tokens, Lexer.lexeme, Lexer.quoted, Lexer.unescape, Lexer.isSpace, Text.byteLength,
      Char.utf8Size]
  have hlarge : Lexer.scan "1e999" = .ok ⟨[⟨.number .infinity, 0⟩], 5⟩ := by decide +kernel
  refine ⟨⟨(parse_of_scan hback.1).trans (by cbv), by decide, by decide⟩,
    ⟨(parse_of_scan hback.2).trans (by cbv), by decide, by decide⟩, (parse_of_scan hlarge).trans (by cbv), fun d => ?_⟩
  have hplain : Number.infinity.plain = "inf" := by
    simp [Number.plain, Number.display, Number.isWhole, Number.isFinite, Number.isNaN, Number.infinity, Number.signed]
  have hinline : (Fragment.bind (.number .infinity)).inline d = "inf" := by
    simp [Fragment.inline, Fragment.bind, Fragment.inlineStep, Binding.literal, hplain]
  exact ⟨hinline, by cases d <;> decide⟩

end Expr

end SheetQuery
