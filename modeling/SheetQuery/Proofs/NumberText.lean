import SheetQuery.Number.Decimal
import SheetQuery.Number.Layout
import SheetQuery.Proofs.FormulaTokens
import SheetQuery.Proofs.Rounding

/-! Numbers read back from their text. The shortest decimal of a number lies in the interval of the number: among
the decimals with seventeen digits one does, for they lie closer together than the interval is wide. Its text has
every digit in its place, so that what is read is the same decimal. -/

namespace SheetQuery.Number

variable {n : Number} {i : Interval} {tie : Tie} {e : Int} {d a b a' b' : Nat}

theorem Interval.Holds.congr (h : i.Holds a b) (hb : 0 < b) (heq : a * b' = a' * b) (hb' : 0 < b') :
    i.Holds a' b' := by
  have hle (c : Nat) : c * b ≤ a ↔ c * b' ≤ a' := by
    rw [← Nat.mul_le_mul_right_iff hb', heq, Nat.mul_right_comm, Nat.mul_le_mul_right_iff hb]
  have hge (c : Nat) : a ≤ c * b ↔ a' ≤ c * b' := by
    rw [← Nat.mul_le_mul_right_iff hb', heq, Nat.mul_right_comm, Nat.mul_le_mul_right_iff hb]
  simp only [Holds, ← Nat.not_le, hle, hge] at h ⊢
  exact h

theorem unitsPerOne_eq : ∃ u, u = 1074 ∧ unitsPerOne = 2 ^ u := by
  refine ⟨1074, rfl, ?_⟩
  unfold unitsPerOne
  generalize 1074 = u
  rfl

theorem unitsPerOne_pos : 0 < unitsPerOne := by
  obtain ⟨u, -, hu⟩ := unitsPerOne_eq
  rw [hu]
  exact Nat.two_pow_pos u

theorem two_pow_le_ten_pow (h : a ≤ 3 * b) : 2 ^ a ≤ 10 ^ b :=
  calc 2 ^ a ≤ 2 ^ (3 * b) := Nat.pow_le_pow_right (by decide) h
    _ = (2 ^ 3) ^ b := Nat.pow_mul 2 3 b
    _ ≤ 10 ^ b := Nat.pow_le_pow_left (by decide) b

def Interval.HoldsDecimal (i : Interval) (d : Decimal) : Prop :=
  i.Holds (d.digits * (4 * unitsPerOne * 10 ^ d.exponent.toNat)) (10 ^ (-d.exponent).toNat)

/-- What is tried against the interval is whether it lies in it. -/
theorem Interval.holds_iff : i.Holds a b ↔
    (if i.closed then i.low * b ≤ a && a ≤ i.high * b else i.low * b < a && a < i.high * b : Bool) = true := by
  unfold Holds
  split
  case isTrue h => simp [h]
  case isFalse h =>
    simp only [Bool.and_eq_true, decide_eq_true_eq, Bool.eq_false_iff.2 h, Bool.false_eq_true, false_or]
    omega

theorem holds_of_nearestInside? (h : nearestInside? tie i e = some d) : i.HoldsDecimal ⟨d, e⟩ := by
  simp only [nearestInside?] at h
  split at h
  case h_1 hd hs =>
    have hd := Interval.holds_iff.2 hd
    have hs := Interval.holds_iff.2 hs
    split at h
    · cases h
      exact hd
    split at h
    · cases h
      exact hs
    cases tie with
    | up =>
      cases h
      exact hs
    | even =>
      cases h
      rcases Nat.mod_two_eq_zero_or_one (i.mid * 10 ^ (-e).toNat / (4 * unitsPerOne * 10 ^ e.toNat)) with
        h | h <;> rw [h]
      · exact hd
      · exact hs
  case h_2 hd _ =>
    cases h
    exact Interval.holds_iff.2 hd
  case h_3 _ hs =>
    cases h
    exact Interval.holds_iff.2 hs
  case h_4 => cases h

/-- Where the decimals lie closer together than the interval is wide, one of the two next to the middle lies in
it. -/
theorem nearestInside?_ne_none (hlow : i.low ≤ i.mid) (hhigh : i.mid < i.high)
    (hwide : i.low * 10 ^ (-e).toNat + 4 * unitsPerOne * 10 ^ e.toNat < i.high * 10 ^ (-e).toNat) :
    nearestInside? tie i e ≠ none := by
  have hscale : 0 < 10 ^ (-e).toNat := Nat.pow_pos (by decide)
  have hgrid : 0 < 4 * unitsPerOne * 10 ^ e.toNat := by
    have := unitsPerOne_pos
    exact Nat.mul_pos (by omega) (Nat.pow_pos (by decide))
  intro h
  simp only [nearestInside?] at h
  split at h
  case h_1 =>
    split at h
    · cases h
    split at h
    · cases h
    · cases tie <;> cases h
  case h_2 | h_3 => cases h
  case h_4 hd hs =>
    have hd := mt Interval.holds_iff.1 (Bool.eq_false_iff.1 hd)
    have hs := mt Interval.holds_iff.1 (Bool.eq_false_iff.1 hs)
    have hlow := Nat.mul_le_mul_right (10 ^ (-e).toNat) hlow
    have hhigh := Nat.mul_lt_mul_of_pos_right hhigh hscale
    have hdiv := Nat.div_mul_le_self (i.mid * 10 ^ (-e).toNat) (4 * unitsPerOne * 10 ^ e.toNat)
    have hmod := Nat.lt_div_mul_add (a := i.mid * 10 ^ (-e).toNat) hgrid
    rw [Nat.add_one_mul] at hs
    simp only [Interval.Holds] at hd hs
    generalize 4 * unitsPerOne * 10 ^ e.toNat = grid at *
    cases i.closed <;> simp at hd hs <;> omega

theorem pow_digitCount_le (h : d ≠ 0) : 10 ^ (digitCount d - 1) ≤ d := by
  by_cases hlen : digitCount d - 1 = 0
  · rw [hlen]
    omega
  · have hiff := Nat.length_toDigits_le_iff (n := d) (by decide : 1 < 10) (Nat.pos_of_ne_zero hlen)
    unfold digitCount at *
    omega

/-- The leading digit stands where it says. -/
theorem exists_leadingExponent (h : n.rank ≠ 0) :
    ∃ k p : Nat, n.leadingExponent = (k : Int) - p ∧ unitsPerOne * 10 ^ k ≤ n.units * 10 ^ p := by
  obtain ⟨u, hu, hunit⟩ := unitsPerOne_eq
  unfold leadingExponent
  generalize hp : 400 = p
  have hle : unitsPerOne ≤ n.units * 10 ^ p :=
    calc unitsPerOne ≤ 10 ^ p := hunit ▸ two_pow_le_ten_pow (by omega)
      _ ≤ n.units * 10 ^ p := Nat.le_mul_of_pos_left _ (units_pos h)
  have hcount : 0 < digitCount (n.units * 10 ^ p / unitsPerOne) := Nat.length_toDigits_pos
  refine ⟨digitCount (n.units * 10 ^ p / unitsPerOne) - 1, p, by omega, ?_⟩
  rw [Nat.mul_comm, ← Nat.le_div_iff_mul_le unitsPerOne_pos]
  exact pow_digitCount_le (Nat.ne_of_gt (Nat.div_pos hle unitsPerOne_pos))

/-- Seventeen digits are enough: with so many the decimals lie closer together than the interval is wide. -/
theorem interval_wide (h : n.rank ≠ 0) (he : e = n.leadingExponent - 16) :
    n.interval.low * 10 ^ (-e).toNat + 4 * unitsPerOne * 10 ^ e.toNat < n.interval.high * 10 ^ (-e).toNat := by
  obtain ⟨k, p, hlead, hk⟩ := exists_leadingExponent h
  have hlt := n.significand_lt
  have hpos : 0 < n.significand := Nat.pos_of_mul_pos_right (units_pos h)
  have hexp : e.toNat + p + 16 = k + (-e).toNat := by omega
  generalize e.toNat = g at hexp ⊢
  generalize (-e).toNat = t at hexp ⊢
  -- a step of the grid is at most the part of the number that seventeen digits leave open
  have hgrid : 4 * unitsPerOne * 10 ^ g * 10 ^ 16 ≤ 4 * (n.significand * (2 ^ n.exponent * 10 ^ t)) := by
    refine Nat.le_of_mul_le_mul_right ?_ (Nat.pow_pos (n := p) (by decide : 0 < 10))
    calc 4 * unitsPerOne * 10 ^ g * 10 ^ 16 * 10 ^ p
        = 4 * (unitsPerOne * 10 ^ (g + p + 16)) := by ring
      _ = 4 * 10 ^ t * (unitsPerOne * 10 ^ k) := by rw [hexp]; ring
      _ ≤ 4 * 10 ^ t * (n.units * 10 ^ p) := Nat.mul_le_mul_left _ hk
      _ = 4 * (n.significand * (2 ^ n.exponent * 10 ^ t)) * 10 ^ p := by rw [units]; ring
  have hstep : 0 < 2 ^ n.exponent * 10 ^ t := Nat.mul_pos (Nat.two_pow_pos _) (Nat.pow_pos (by decide))
  have hunits : 4 * n.units * 10 ^ t = 4 * (n.significand * (2 ^ n.exponent * 10 ^ t)) := by rw [units]; ring
  have htop := Nat.mul_le_mul_right (2 ^ n.exponent * 10 ^ t) (Nat.le_sub_one_of_lt hlt)
  have hone := Nat.mul_le_mul_right (2 ^ n.exponent * 10 ^ t) hpos
  generalize 4 * unitsPerOne * 10 ^ g = grid at *
  simp only [interval, Nat.sub_mul, Nat.add_mul, hunits, Nat.mul_assoc 2]
  split
  case isTrue hs =>
    rw [hs.1] at hgrid ⊢
    omega
  case isFalse =>
    rw [Nat.mul_assoc 2]
    omega

theorem low_pos (h : n.rank ≠ 0) : 0 < n.interval.low := by
  have hpos : 0 < n.significand := Nat.pos_of_mul_pos_right (units_pos h)
  have hone := Nat.mul_le_mul_right (2 ^ n.exponent) hpos
  have hstep := Nat.two_pow_pos n.exponent
  simp only [interval, units]
  split <;> omega

theorem low_lt_mid (h : n.rank ≠ 0) : n.interval.low < n.interval.mid := by
  have hpos := units_pos h
  have hstep := Nat.two_pow_pos n.exponent
  simp only [interval]
  split <;> omega

theorem mid_lt_high (n : Number) : n.interval.mid < n.interval.high := by
  have hstep := Nat.two_pow_pos n.exponent
  simp only [interval]
  omega

theorem Interval.HoldsDecimal.congr {d d' : Decimal} (h : i.HoldsDecimal d) (a b : Nat)
    (hd : d.digits * 10 ^ a = d'.digits * 10 ^ b) (he : d.exponent + b = d'.exponent + a) : i.HoldsDecimal d' := by
  refine Holds.congr h (Nat.pow_pos (by decide)) ?_ (Nat.pow_pos (by decide))
  have hexp : b + d.exponent.toNat + (-d'.exponent).toNat = a + d'.exponent.toNat + (-d.exponent).toNat := by omega
  refine Nat.eq_of_mul_eq_mul_right (Nat.pow_pos (n := a) (by decide : 0 < 10)) ?_
  calc d.digits * (4 * unitsPerOne * 10 ^ d.exponent.toNat) * 10 ^ (-d'.exponent).toNat * 10 ^ a
      = d.digits * 10 ^ a * (4 * unitsPerOne) * 10 ^ (d.exponent.toNat + (-d'.exponent).toNat) := by ring
    _ = d'.digits * (4 * unitsPerOne) * 10 ^ (b + d.exponent.toNat + (-d'.exponent).toNat) := by rw [hd]; ring
    _ = d'.digits * (4 * unitsPerOne * 10 ^ d'.exponent.toNat) * 10 ^ (-d.exponent).toNat * 10 ^ a := by
        rw [hexp]; ring

/-- The shortest decimal of a number rounds to the number. -/
theorem shortest_holds (h : n.rank ≠ 0) (tie : Tie) : n.interval.HoldsDecimal (n.shortest tie) := by
  unfold shortest
  cases hfound : (List.range 17).findSome? fun (k : Nat) =>
      (nearestInside? tie n.interval (n.leadingExponent - k)).map fun d =>
        if d = 10 ^ (k + 1) then (⟨1, n.leadingExponent + 1⟩ : Decimal) else ⟨d, n.leadingExponent - k⟩ with
  | none =>
    have hlast := List.findSome?_eq_none_iff.1 hfound 16 (by decide)
    exact absurd (Option.map_eq_none_iff.1 hlast)
      (nearestInside?_ne_none (Nat.le_of_lt (low_lt_mid h)) n.mid_lt_high (interval_wide h rfl))
  | some d =>
    obtain ⟨k, -, hk⟩ := List.exists_of_findSome?_eq_some hfound
    obtain ⟨m, hm, rfl⟩ := Option.map_eq_some_iff.1 hk
    have hholds := holds_of_nearestInside? hm
    simp only [hfound, Option.getD_some]
    split
    case isTrue hpow => exact hholds.congr 0 (k + 1) (by simp [hpow]) (by push_cast; omega)
    case isFalse => exact hholds

theorem Interval.holdsDecimal_neg {k : Nat} : i.HoldsDecimal ⟨d, -k⟩ ↔ i.Holds (4 * (d * unitsPerOne)) (10 ^ k) := by
  have hnum : d * (4 * unitsPerOne * 10 ^ (-(k : Int)).toNat) = 4 * (d * unitsPerOne) := by
    rw [Int.toNat_neg_natCast]
    ring
  rw [HoldsDecimal, hnum, Int.neg_neg, Int.toNat_natCast]

/-- A decimal whose exponent is too small to be looked at lies in no interval but that of zero. -/
theorem exponent_le_of_holds {k : Nat} (h : n.rank ≠ 0) (hd : n.interval.HoldsDecimal ⟨d, -k⟩) :
    d ≠ 0 ∧ k ≤ d.log2 + 401 := by
  rw [Interval.holdsDecimal_neg] at hd
  have hlow : 10 ^ k ≤ 4 * (d * unitsPerOne) := Nat.le_trans (Nat.le_mul_of_pos_left _ (low_pos h)) hd.1
  constructor
  · rintro rfl
    have : 0 < 10 ^ k := Nat.pow_pos (by decide)
    omega
  · obtain ⟨u, hu, hunit⟩ := unitsPerOne_eq
    by_contra hk
    have hpow : 2 ^ (d.log2 + u + 3) ≤ 10 ^ k := two_pow_le_ten_pow (by omega)
    have htop := Nat.mul_lt_mul_of_pos_right (Nat.lt_log2_self (n := d)) unitsPerOne_pos
    have heq : 4 * (2 ^ (d.log2 + 1) * unitsPerOne) = 2 ^ (d.log2 + u + 3) := by rw [hunit]; ring
    omega

/-- A decimal in the interval of a number is read as the number. -/
theorem ofDecimal_of_holds (hn : n.isFinite = true) (hsign : n.negative = false) {k : Nat}
    (hd : n.interval.HoldsDecimal ⟨d, -k⟩) : ofDecimal false d (-k) = n := by
  have hrank := rankOfUnits_of_holds hn (Nat.pow_pos (by decide)) (Interval.holdsDecimal_neg.1 hd)
  have hzero (h : d = 0 ∨ d.log2 + 401 < k) : ⟨false, 0⟩ = n := by
    have hr : n.rank = 0 := by
      by_contra hr
      have := exponent_le_of_holds hr hd
      omega
    rw [← hsign, ← hr]
  unfold ofDecimal
  split
  case isTrue h => exact hzero (.inl h)
  rw [if_neg (by omega)]
  split
  case isTrue h => exact hzero (.inr (by omega))
  split
  case isTrue hk =>
    obtain rfl : k = 0 := by omega
    rw [Nat.pow_zero] at hrank
    simp [ofRatio, hrank, ← hsign]
  case isFalse => simp [ofRatio, hrank, ← hsign]

def numeral (whole fraction : List Char) : List Char :=
  whole ++ if fraction.isEmpty then [] else '.' :: fraction

section
variable {whole fraction : List Char} (hw : ∀ c ∈ whole, c.isDigit = true) (hf : ∀ c ∈ fraction, c.isDigit = true)
include hw hf

theorem ofUnsigned?_numeral (hne : whole ≠ []) (negative : Bool) : ofUnsigned? negative (numeral whole fraction) =
    some (ofDecimal negative (digitsValue (whole ++ fraction)) (-fraction.length)) := by
  have hpoint : ('.' : Char).isDigit = false := by decide
  cases fraction with
  | nil =>
    have htake : whole.takeWhile Char.isDigit = whole := List.takeWhile_eq_self_iff.2 hw
    have hdrop : whole.dropWhile Char.isDigit = [] := List.dropWhile_eq_nil_iff.2 hw
    simp [numeral, ofUnsigned?, htake, hdrop, hne]
  | cons c cs =>
    have htake : (whole ++ '.' :: c :: cs).takeWhile Char.isDigit = whole := by
      rw [List.takeWhile_append_of_pos hw, List.takeWhile_cons_of_neg (by simp), List.append_nil]
    have hdrop : (whole ++ '.' :: c :: cs).dropWhile Char.isDigit = '.' :: c :: cs := by
      rw [List.dropWhile_append_of_pos hw, List.dropWhile_cons_of_neg (by simp)]
    have htake' : (c :: cs).takeWhile Char.isDigit = c :: cs := List.takeWhile_eq_self_iff.2 hf
    have hdrop' : (c :: cs).dropWhile Char.isDigit = [] := List.dropWhile_eq_nil_iff.2 hf
    simp only [numeral, ofUnsigned?, List.isEmpty_cons, Bool.false_eq_true, if_false, htake, hdrop, htake', hdrop']
    simp

end

theorem digitsValue_eq (cs : List Char) : digitsValue cs = Nat.ofDigitChars 10 cs 0 :=
  Nat.ofDigitChars_eq_foldl.symm

theorem digitsValue_digitsText (k : Nat) : digitsValue (digitsText k) = k := by
  rw [digitsValue_eq]
  exact Nat.ofDigitChars_ten_toDigits

theorem isDigit_of_mem_digitsText {k : Nat} {c : Char} (hc : c ∈ digitsText k) : c.isDigit = true :=
  Nat.isDigit_of_mem_toDigits (by decide) (by decide) hc

/-- What the text of a number says: digits, perhaps with a point among them, that stand for a decimal in the
interval. -/
structure Written (i : Interval) (cs whole fraction : List Char) : Prop where
  text : cs = numeral whole fraction
  nonempty : whole ≠ []
  whole_digits : ∀ c ∈ whole, c.isDigit = true
  fraction_digits : ∀ c ∈ fraction, c.isDigit = true
  holds : i.HoldsDecimal ⟨digitsValue (whole ++ fraction), -fraction.length⟩

theorem Written.exists_digit {cs whole fraction : List Char} (h : Written i cs whole fraction) :
    ∃ c cs', cs = c :: cs' ∧ c.isDigit = true := by
  obtain ⟨w, ws, rfl⟩ := List.exists_cons_of_ne_nil h.nonempty
  exact ⟨w, _, h.text, h.whole_digits w List.mem_cons_self⟩

theorem exists_written_positional {d : Decimal} (h : i.HoldsDecimal d) :
    ∃ whole fraction, Written i (positional d) whole fraction := by
  have hne : digitsText d.digits ≠ [] := Nat.toDigits_ne_nil
  have hdigit {c : Char} (hc : c ∈ digitsText d.digits) : c.isDigit = true := isDigit_of_mem_digitsText hc
  have hzero {k : Nat} {c : Char} (hc : c ∈ List.replicate k '0') : c.isDigit = true := by
    rw [List.eq_of_mem_replicate hc]
    decide
  simp only [positional]
  split
  case isTrue he =>
    refine ⟨digitsText d.digits ++ List.replicate d.exponent.toNat '0', [], by simp [numeral], by simp [hne], ?_,
      nofun, h.congr d.exponent.toNat 0 ?_ ?_⟩
    · exact fun c hc => (List.mem_append.1 hc).elim hdigit hzero
    · simp [digitsValue_eq, Nat.ofDigitChars_append, Nat.ofDigitChars_replicate_zero, digitsText, Nat.mul_comm]
    · simp only [List.length_nil]
      omega
  case isFalse he =>
    split
    case isTrue hlt =>
      refine ⟨(digitsText d.digits).take ((digitsText d.digits).length - (-d.exponent).toNat),
        (digitsText d.digits).drop ((digitsText d.digits).length - (-d.exponent).toNat), ?_, ?_, ?_, ?_,
        h.congr 0 0 ?_ ?_⟩
      · have hfraction : (digitsText d.digits).drop ((digitsText d.digits).length - (-d.exponent).toNat) ≠ [] := by
          rw [Ne, List.drop_eq_nil_iff]
          omega
        rw [numeral, if_neg (by simpa using hfraction)]
      · rw [Ne, List.take_eq_nil_iff, not_or]
        exact ⟨by omega, hne⟩
      · exact fun c hc => hdigit (List.mem_of_mem_take hc)
      · exact fun c hc => hdigit (List.mem_of_mem_drop hc)
      · rw [List.take_append_drop, digitsValue_digitsText]
      · simp only [List.length_drop]
        omega
    case isFalse hge =>
      refine ⟨['0'], List.replicate ((-d.exponent).toNat - (digitsText d.digits).length) '0' ++ digitsText d.digits,
        by simp [numeral, hne], by simp, by simp, ?_, h.congr 0 0 ?_ ?_⟩
      · exact fun c hc => (List.mem_append.1 hc).elim hzero hdigit
      · simp [digitsValue_eq, Nat.ofDigitChars_append, Nat.ofDigitChars_replicate_zero, digitsText,
          Nat.ofDigitChars_cons]
      · simp only [List.length_append, List.length_replicate]
        omega

theorem holds_mid (n : Number) : n.interval.Holds (4 * n.units) 1 := by
  have hlow : n.interval.low ≤ 4 * n.units := Nat.sub_le _ _
  have hhigh : 4 * n.units < n.interval.high := n.mid_lt_high
  refine ⟨by omega, by omega, ?_⟩
  by_cases h : n.rank = 0
  · exact .inl (by simp [interval, significand, h])
  · have hlow : n.interval.low < 4 * n.units := low_lt_mid h
    exact .inr ⟨by omega, by omega⟩

theorem exists_written_plain (hn : n.isFinite = true) (hsign : n.negative = false) :
    ∃ whole fraction, Written n.interval n.plain.toList whole fraction := by
  unfold plain
  split
  case isTrue hwhole =>
    have hunits : n.units = n.wholePart * unitsPerOne := by
      simp only [isWhole, Bool.and_eq_true, beq_iff_eq] at hwhole
      exact (Nat.div_mul_cancel (Nat.dvd_of_mod_eq_zero hwhole.1.2)).symm
    refine ⟨digitsText n.wholePart, [], by simp [numeral, signed, hsign], Nat.toDigits_ne_nil,
      fun c hc => isDigit_of_mem_digitsText hc, nofun, ?_⟩
    rw [List.append_nil, digitsValue_digitsText, List.length_nil, Interval.holdsDecimal_neg, ← hunits]
    exact holds_mid n
  case isFalse hwhole =>
    have h : n.rank ≠ 0 := by
      intro h
      have hunits : n.units = 0 := by simp [units, significand, h]
      simp [isWhole, wholePart, hn, hunits] at hwhole
    have hnan : n.isNaN = false := by
      simp only [isFinite, isNaN, decide_eq_true_eq, decide_eq_false_iff_not] at hn ⊢
      omega
    have htext : n.display.toList = positional (n.shortest .up) := by
      simp [display, hnan, hn, isZero, h, signed, hsign]
    rw [htext]
    exact exists_written_positional (shortest_holds h .up)

/-- A finite number that is not negative is read back from its text. -/
theorem Written.ofText?_eq {whole fraction : List Char} (h : Written n.interval n.plain.toList whole fraction)
    (hn : n.isFinite = true) (hsign : n.negative = false) : ofText? n.plain = some n := by
  have hhead : ∀ c ∈ n.plain.toList.head?, c.isDigit = true ∨ c = '.' := by
    obtain ⟨c, cs, hcs, hc⟩ := h.exists_digit
    simp [hcs, hc]
  rw [ofText?_numeral hhead, h.text, ofUnsigned?_numeral h.whole_digits h.fraction_digits h.nonempty,
    ofDecimal_of_holds hn hsign h.holds]

end SheetQuery.Number
