import Mathlib.Tactic.Ring
import SheetQuery.Number.Shortest

/-! Rounding to the nearest number. A magnitude is its significand scaled by a power of two, and its rank follows
from the two. A ratio that lies in the interval of a number has the rank of the number: the ratio is scaled by the
same power of two, or by the one below if it lies just under a power of two. -/

namespace SheetQuery.Number

variable {n : Number} {num den x q a b : Nat}

def Interval.Holds (i : Interval) (num den : Nat) : Prop :=
  i.low * den ≤ num ∧ num ≤ i.high * den ∧ (i.closed = true ∨ i.low * den < num ∧ num < i.high * den)

theorem significand_lt (n : Number) : n.significand < 2 ^ 53 := by
  unfold significand
  split <;> omega

theorem le_significand (h : n.exponent ≠ 0) : 2 ^ 52 ≤ n.significand := by
  unfold exponent at h
  unfold significand
  split <;> omega

theorem rank_eq (n : Number) : n.rank = n.exponent * 2 ^ 52 + n.significand := by
  unfold exponent significand
  split <;> omega

theorem units_pos (h : n.rank ≠ 0) : 0 < n.units := by
  have hs : 0 < n.significand := by
    unfold significand
    split <;> omega
  exact Nat.mul_pos hs (Nat.two_pow_pos _)

theorem roundDiv_eq (hden : 0 < den) (hlow : 2 * (q * den) ≤ 2 * num + den) (hhigh : 2 * num ≤ 2 * (q * den) + den)
    (htie : q % 2 = 0 ∨ 2 * (q * den) < 2 * num + den ∧ 2 * num < 2 * (q * den) + den) : roundDiv num den = q := by
  have hdiv := Nat.div_add_mod num den
  have hr := Nat.mod_lt num hden
  -- the quotient is one of the two neighbours
  have hle : num / den ≤ q := by
    by_contra hlt
    have := Nat.mul_le_mul_left den (Nat.not_le.1 hlt)
    rw [Nat.mul_succ, Nat.mul_comm den q] at this
    omega
  have hge : q ≤ num / den + 1 := by
    by_contra hlt
    have := Nat.mul_le_mul_left den (Nat.not_le.1 hlt)
    rw [Nat.mul_succ, Nat.mul_succ, Nat.mul_comm den q] at this
    omega
  simp only [roundDiv]
  obtain rfl | rfl : q = num / den ∨ q = num / den + 1 := by omega
  · rw [Nat.mul_comm (num / den)] at hlow hhigh htie
    split_ifs <;> omega
  · rw [Nat.add_one_mul (num / den), Nat.mul_comm (num / den)] at hlow hhigh htie
    split_ifs <;> omega

theorem rankOfUnits_of_exponent (h : (if num / den < 2 ^ 53 then 0 else (num / den).log2 - 52) = x) :
    rankOfUnits num den = min infinityRank (x * 2 ^ 52 + roundDiv num (den * 2 ^ x)) := by
  subst h
  rfl

/-- The power of two that a ratio is scaled by, given its size. -/
theorem rankOfUnits_eq (hden : 0 < den) (hlow : x = 0 ∨ 2 ^ (52 + x) * den ≤ num) (hhigh : num < 2 ^ (53 + x) * den)
    (hround : roundDiv num (den * 2 ^ x) = q) (hfinite : x * 2 ^ 52 + q < infinityRank) :
    rankOfUnits num den = x * 2 ^ 52 + q := by
  have hlow' : x = 0 ∨ 2 ^ (52 + x) ≤ num / den := hlow.imp_right (Nat.le_div_iff_mul_le hden).2
  have hhigh' : num / den < 2 ^ (53 + x) := (Nat.div_lt_iff_lt_mul hden).2 hhigh
  have hexp : (if num / den < 2 ^ 53 then 0 else (num / den).log2 - 52) = x := by
    split
    case isTrue hlt =>
      rcases hlow' with rfl | hle
      · rfl
      · by_contra hx
        have := Nat.pow_le_pow_right (n := 2) (by decide) (show 53 ≤ 52 + x by omega)
        omega
    case isFalse hge =>
      rcases hlow' with rfl | hle
      · exact absurd hhigh' hge
      · have hlog : (num / den).log2 = 52 + x := by
          rw [Nat.log2_eq_iff (by omega)]
          exact ⟨hle, by rwa [Nat.add_right_comm]⟩
        omega
  rw [rankOfUnits_of_exponent hexp, hround]
  exact Nat.min_eq_right (Nat.le_of_lt hfinite)

/-- The interval at the scale of the number: half a step to both sides, and only a quarter below a power of two. -/
theorem Interval.Holds.bounds (h : n.interval.Holds (4 * num) den) :
    let k := den * 2 ^ n.exponent
    2 * (n.significand * k) ≤ 2 * num + k ∧ 2 * num ≤ 2 * (n.significand * k) + k ∧
      (n.significand % 2 = 0 ∨ 2 * (n.significand * k) < 2 * num + k ∧ 2 * num < 2 * (n.significand * k) + k) ∧
      (n.significand = 2 ^ 52 → 0 < n.exponent → 4 * (n.significand * k) ≤ 4 * num + k) := by
  intro k
  obtain ⟨hlow, hhigh, hclosed⟩ := h
  have hunits : 4 * n.units * den = 4 * (n.significand * k) := by simp only [units, k]; ring
  have hstep : 2 ^ n.exponent * den = k := Nat.mul_comm _ _
  have hbelow : (if n.significand = 2 ^ 52 ∧ 0 < n.exponent then 2 ^ n.exponent else 2 * 2 ^ n.exponent) * den =
      if n.significand = 2 ^ 52 ∧ 0 < n.exponent then k else 2 * k := by
    split
    · exact hstep
    · rw [Nat.mul_assoc, hstep]
  simp only [interval, Nat.sub_mul, Nat.add_mul, Nat.mul_assoc 2, hunits, hstep, hbelow, beq_iff_eq]
    at hlow hhigh hclosed
  generalize n.significand * k = m at *
  refine ⟨?_, by omega, ?_, fun hs hx => ?_⟩
  · split at hlow <;> omega
  · split at hclosed <;> omega
  · rw [if_pos ⟨hs, hx⟩] at hlow
    omega

/-- A ratio in the interval of a number rounds to it. -/
theorem rankOfUnits_of_holds (hn : n.isFinite = true) (hden : 0 < den) (h : n.interval.Holds (4 * num) den) :
    rankOfUnits num den = n.rank := by
  have hfinite : n.rank < infinityRank := of_decide_eq_true hn
  obtain ⟨hlow, hhigh, htie, hbelow⟩ := h.bounds
  rw [n.rank_eq] at hfinite ⊢
  have hlt := n.significand_lt
  have hle := n.le_significand
  generalize n.significand = s at *
  generalize n.exponent = x at *
  have hpos : 0 < den * 2 ^ x := Nat.mul_pos hden (Nat.two_pow_pos x)
  have hscale (c : Nat) : 2 ^ (c + x) * den = 2 ^ c * (den * 2 ^ x) := by ring
  have htop : s * (den * 2 ^ x) + den * 2 ^ x ≤ 2 ^ 53 * (den * 2 ^ x) := by
    rw [← Nat.succ_mul]
    exact Nat.mul_le_mul_right _ hlt
  by_cases hx : x = 0 ∨ 2 ^ (52 + x) * den ≤ num
  · refine rankOfUnits_eq hden hx ?_ (roundDiv_eq hpos hlow hhigh htie) hfinite
    rw [hscale]
    omega
  · obtain ⟨hx, hnum⟩ := not_or.1 hx
    rw [hscale] at hnum
    -- the ratio lies below the power of two that the number is
    obtain rfl : s = 2 ^ 52 := by
      by_contra hne
      have hmore := Nat.mul_le_mul_right (den * 2 ^ x) (show 2 ^ 52 + 1 ≤ s by have := hle hx; omega)
      omega
    obtain ⟨y, rfl⟩ := Nat.exists_eq_add_one_of_ne_zero hx
    have hbelow := hbelow rfl (Nat.succ_pos y)
    have hhalf : den * 2 ^ (y + 1) = 2 * (den * 2 ^ y) := by ring
    have hscale' (c : Nat) : 2 ^ (c + y) * den = 2 ^ c * (den * 2 ^ y) := by ring
    have hrank : (y + 1) * 2 ^ 52 + 2 ^ 52 = y * 2 ^ 52 + 2 ^ 53 := by ring
    rw [hrank] at hfinite ⊢
    refine rankOfUnits_eq hden ?_ ?_ (roundDiv_eq ?_ ?_ ?_ ?_) hfinite
    · rw [hscale']
      omega
    · rw [hscale']
      omega
    · omega
    · omega
    · omega
    · exact .inl (by decide)

end SheetQuery.Number
