import ClusterReconciliation.Decimal.Shortest
import Mathlib.Data.Rat.Floor
import Mathlib.Tactic

/-! Binary numbers and the decimals that are written for them. Every decimal in the interval of a number
rounds to the number, and the shortest one that is found is such a decimal. -/
namespace ClusterReconciliation.Decimal

theorem two_zpow_pos (e : ℤ) : (0 : ℚ) < 2 ^ e := zpow_pos (by norm_num) e

theorem ten_zpow_pos (p : ℤ) : (0 : ℚ) < 10 ^ p := zpow_pos (by norm_num) p

theorem zpow_toNat {b : ℚ} (hb : b ≠ 0) (e : ℤ) : b ^ e.toNat = b ^ e * b ^ (-e).toNat := by
  rw [← zpow_natCast, ← zpow_natCast, ← zpow_add₀ hb]
  congr 1
  omega

namespace Double

theorem scaled_spec (num den : ℕ) (e : ℤ) : ∃ D : ℚ, 0 < D ∧
    ((scaled num den e).1 : ℚ) = num * 2 ^ e * D ∧ ((scaled num den e).2 : ℚ) = den * D := by
  refine ⟨2 ^ (-e).toNat, by positivity, ?_, ?_⟩
  · simp only [scaled, Nat.pow_eq]
    push_cast
    rw [zpow_toNat (by norm_num) e]
    ring
  · simp [scaled]

theorem crossed_spec (c : ℕ) (p : ℤ) (b : ℕ) (q : ℤ) : ∃ D : ℚ, 0 < D ∧
    ((crossed c p b q).1 : ℚ) = c * 10 ^ p * D ∧ ((crossed c p b q).2 : ℚ) = b * 2 ^ q * D := by
  refine ⟨10 ^ (-p).toNat * 2 ^ (-q).toNat, by positivity, ?_, ?_⟩
  · simp only [crossed, Nat.pow_eq]
    push_cast
    rw [zpow_toNat (by norm_num) p]
    ring
  · simp only [crossed, Nat.pow_eq]
    push_cast
    rw [zpow_toNat (by norm_num) q]
    ring

section Crossed
variable (c : ℕ) (p : ℤ) (b : ℕ) (q : ℤ)

theorem crossed_le : (crossed c p b q).1 ≤ (crossed c p b q).2 ↔
    (c : ℚ) * 10 ^ p ≤ b * 2 ^ q := by
  obtain ⟨D, hD, h1, h2⟩ := crossed_spec c p b q
  rw [← @Nat.cast_le ℚ, h1, h2, mul_le_mul_iff_of_pos_right hD]

theorem crossed_ge : (crossed c p b q).2 ≤ (crossed c p b q).1 ↔
    (b : ℚ) * 2 ^ q ≤ c * 10 ^ p := by
  obtain ⟨D, hD, h1, h2⟩ := crossed_spec c p b q
  rw [← @Nat.cast_le ℚ, h1, h2, mul_le_mul_iff_of_pos_right hD]

theorem crossed_lt : (crossed c p b q).1 < (crossed c p b q).2 ↔
    (c : ℚ) * 10 ^ p < b * 2 ^ q := by
  rw [← not_le, crossed_ge, not_le]

theorem crossed_gt : (crossed c p b q).2 < (crossed c p b q).1 ↔
    (b : ℚ) * 2 ^ q < c * 10 ^ p := by
  rw [← not_le, crossed_le, not_le]

end Crossed

theorem two_zpow_log2_le {n : ℕ} (hn : n ≠ 0) : (2 : ℚ) ^ (n.log2 : ℤ) ≤ n := by
  exact_mod_cast Nat.log2_self_le hn

theorem lt_two_zpow_log2 (n : ℕ) : (n : ℚ) < 2 ^ ((n.log2 : ℤ) + 1) := by
  exact_mod_cast @Nat.lt_log2_self n

/-- The logarithms of both sides give that of a quotient, or one more. -/
theorem div_mem_binades {num den : ℕ} (hn : 0 < num) (hd : 0 < den) :
    (2 : ℚ) ^ ((num.log2 : ℤ) - den.log2 - 1) ≤ num / den ∧
      (num : ℚ) / den < 2 ^ ((num.log2 : ℤ) - den.log2 + 1) := by
  have h2 : (2 : ℚ) ≠ 0 := by norm_num
  have hden : (0 : ℚ) < den := by exact_mod_cast hd
  rw [le_div_iff₀ hden, div_lt_iff₀ hden]
  constructor
  · calc (2 : ℚ) ^ ((num.log2 : ℤ) - den.log2 - 1) * den
        ≤ 2 ^ ((num.log2 : ℤ) - den.log2 - 1) * 2 ^ ((den.log2 : ℤ) + 1) :=
          mul_le_mul_of_nonneg_left (lt_two_zpow_log2 den).le (two_zpow_pos _).le
      _ = 2 ^ (num.log2 : ℤ) := by
        rw [← zpow_add₀ h2]
        congr 1
        ring
      _ ≤ num := two_zpow_log2_le hn.ne'
  · calc (num : ℚ) < 2 ^ ((num.log2 : ℤ) + 1) := lt_two_zpow_log2 num
      _ = 2 ^ ((num.log2 : ℤ) - den.log2 + 1) * 2 ^ (den.log2 : ℤ) := by
        rw [← zpow_add₀ h2]
        congr 1
        ring
      _ ≤ 2 ^ ((num.log2 : ℤ) - den.log2 + 1) * den :=
        mul_le_mul_of_nonneg_left (two_zpow_log2_le hd.ne') (two_zpow_pos _).le

/-- The greatest power of two that is no more than a quotient. -/
theorem floorLog2_spec {num den : ℕ} (hn : 0 < num) (hd : 0 < den) :
    (2 : ℚ) ^ floorLog2 num den ≤ num / den ∧ (num : ℚ) / den < 2 ^ (floorLog2 num den + 1) := by
  obtain ⟨hlower, hupper⟩ := div_mem_binades hn hd
  have hden : (0 : ℚ) < den := by exact_mod_cast hd
  obtain ⟨D, hD, h1, h1'⟩ := scaled_spec num den (-((num.log2 : ℤ) - den.log2))
  rw [floorLog2]
  generalize scaled num den (-((num.log2 : ℤ) - den.log2)) = s at *
  obtain ⟨n, d⟩ := s
  simp only at h1 h1'
  have hle : d ≤ n ↔ (2 : ℚ) ^ ((num.log2 : ℤ) - den.log2) ≤ num / den := by
    rw [← @Nat.cast_le ℚ, h1, h1', mul_le_mul_iff_of_pos_right hD, le_div_iff₀ hden,
      zpow_neg, ← div_eq_mul_inv, le_div_iff₀ (two_zpow_pos _), mul_comm]
  by_cases h : d ≤ n
  · simp only [if_pos h]
    exact ⟨hle.1 h, hupper⟩
  · simp only [if_neg h]
    exact ⟨hlower, by simpa using not_le.1 fun hge => h (hle.2 hge)⟩

theorem roundDiv_eq {n d k : ℕ} (hd : 0 < d) (hlow : 2 * k * d ≤ 2 * n + d)
    (hhigh : 2 * n ≤ (2 * k + 1) * d)
    (htie : 2 * k * d = 2 * n + d ∨ 2 * n = (2 * k + 1) * d → k % 2 = 0) : roundDiv n d = k := by
  have hn := Nat.div_add_mod n d
  have hr := Nat.mod_lt n hd
  rw [roundDiv]
  generalize n / d = q at *
  generalize n % d = r at *
  subst hn
  have hq : q ≤ k := by
    by_contra hlt
    have : (k + 1) * d ≤ q * d := Nat.mul_le_mul_right d (by omega)
    nlinarith
  have hk : k ≤ q + 1 := by
    by_contra hlt
    have : (q + 2) * d ≤ k * d := Nat.mul_le_mul_right d (by omega)
    nlinarith
  rcases Nat.lt_or_eq_of_le hq with hlt | rfl
  · obtain rfl : k = q + 1 := by omega
    have hrem : d ≤ 2 * r := by nlinarith
    rcases Nat.lt_or_eq_of_le hrem with hlt | heq
    · rw [if_neg (by omega), if_pos hlt]
    · have heven := htie (.inl (by rw [heq]; ring))
      rw [if_neg (by omega), if_neg (by omega)]
      omega
  · have hrem : 2 * r ≤ d := by nlinarith
    rcases Nat.lt_or_eq_of_le hrem with hlt | heq
    · rw [if_pos hlt]
    · have heven := htie (.inr (by rw [← heq]; ring))
      rw [if_neg (by omega), if_neg (by omega)]
      omega

section Fields
variable (x : Double)

/-- The bits but for the sign. -/
def magnitude : ℕ := x.bits.toNat % signWeight

theorem ofMagnitude_magnitude : ofMagnitude x.isNegative x.magnitude = x := by
  obtain ⟨bits⟩ := x
  have hb := bits.toNat_lt
  simp only [ofMagnitude, magnitude, isNegative, signWeight, Double.mk.injEq]
  apply UInt64.toNat_inj.1
  rw [UInt64.toNat_ofNat']
  by_cases h : bits.toNat / 0x8000000000000000 = 1
  · simp only [h, beq_self_eq_true, if_true]
    omega
  · simp only [beq_eq_false_iff_ne.2 h, Bool.false_eq_true, if_false]
    omega

theorem significand_lt : x.significand < 2 ^ 53 := by
  simp only [significand, fractionField, fractionWeight]
  split <;> omega

theorem exponent_ge : -1074 ≤ x.exponent := by
  rw [exponent]
  split <;> omega

theorem le_significand (h : -1074 < x.exponent) : 2 ^ 52 ≤ x.significand := by
  simp only [exponent, significand, fractionWeight] at h ⊢
  split at h <;> simp_all

theorem magnitude_eq : x.magnitude = (x.exponent + 1074).toNat * fractionWeight + x.significand := by
  have hfields : x.magnitude = x.exponentField * fractionWeight + x.fractionField := by
    simp only [magnitude, exponentField, fractionField, fractionWeight, signWeight]
    omega
  rw [hfields, exponent, significand, fractionWeight]
  by_cases h : x.exponentField = 0
  · simp [h]
  · rw [if_neg h, if_neg h]
    omega

theorem interval_eq : x.interval =
    (if x.significand = 2 ^ 52 ∧ -1074 < x.exponent then 4 * x.significand - 1
      else 4 * x.significand - 2, 4 * x.significand + 2) := by
  have hcase : (x.fractionField = 0 && 1 < x.exponentField) =
      decide (x.significand = 2 ^ 52 ∧ -1074 < x.exponent) := by
    rw [← Bool.decide_and, decide_eq_decide]
    simp only [exponent, significand, fractionWeight]
    have : x.fractionField < 2 ^ 52 := Nat.mod_lt _ (by decide)
    split <;> omega
  rw [interval]
  simp only [hcase, decide_eq_true_eq]
  split <;> rfl

variable {x}

theorem magnitude_eq_zero (h0 : x.significand = 0) : x.magnitude = 0 := by
  have hsubnormal : ¬ -1074 < x.exponent := fun he => by
    have := x.le_significand he
    omega
  have hge := x.exponent_ge
  rw [magnitude_eq, h0, show x.exponent = -1074 by omega]
  rfl

theorem exponent_le (h : x.isFinite) : x.exponent ≤ 971 := by
  have hlt : x.exponentField < 2048 := Nat.mod_lt _ (by decide)
  have hne : x.exponentField ≠ 2047 := by simpa [isFinite] using h
  rw [exponent]
  split <;> omega

theorem magnitude_lt (h : x.isFinite) : x.magnitude < 2047 * fractionWeight := by
  have he := exponent_le h
  have hge := x.exponent_ge
  have hm := x.significand_lt
  rw [magnitude_eq]
  simp only [fractionWeight]
  omega

end Fields

/-- The value of a number but for its sign. -/
def value (x : Double) : ℚ := x.significand * 2 ^ x.exponent

/-- How far below `x` numbers round to it, in units of the last place: below a power of two the next
number is half as far. -/
def gap (x : Double) : ℚ := if x.significand = 2 ^ 52 ∧ -1074 < x.exponent then 1 / 4 else 1 / 2

/-- A value nearer to `x` than to any other number, or halfway to one while the significand of `x`
is even. -/
structure Near (x : Double) (q : ℚ) : Prop where
  low : x.significand - x.gap ≤ q / 2 ^ x.exponent
  high : q / 2 ^ x.exponent ≤ x.significand + 1 / 2
  tie : q / 2 ^ x.exponent = x.significand - x.gap ∨ q / 2 ^ x.exponent = x.significand + 1 / 2 →
    x.significand % 2 = 0

theorem interval_cast {x : Double} (h0 : x.significand ≠ 0) :
    (x.interval.1 : ℚ) = 4 * (x.significand - x.gap) ∧
      (x.interval.2 : ℚ) = 4 * (x.significand + 1 / 2) := by
  have hpos : 1 ≤ x.significand := Nat.one_le_iff_ne_zero.2 h0
  rw [interval_eq, gap]
  constructor
  · split
    · rw [Nat.cast_sub (by omega)]
      push_cast
      ring
    · rw [Nat.cast_sub (by omega)]
      push_cast
      ring
  · push_cast
    ring

theorem reaches_iff {x : Double} (h0 : x.significand ≠ 0) (c : ℕ) (p : ℤ) :
    x.reaches c p = true ↔ x.Near (c * 10 ^ p) := by
  obtain ⟨hlow, hhigh⟩ := interval_cast h0
  have hunit : (2 : ℚ) ^ (x.exponent - 2) = 2 ^ x.exponent / 4 := by
    rw [zpow_sub₀ (by norm_num)]
    norm_num
  have hpos := two_zpow_pos x.exponent
  -- Both ends of the interval in units of the last place.
  have hlow_eq : (x.interval.1 : ℚ) * 2 ^ (x.exponent - 2) =
      (x.significand - x.gap) * 2 ^ x.exponent := by
    rw [hlow, hunit]
    ring
  have hhigh_eq : (x.interval.2 : ℚ) * 2 ^ (x.exponent - 2) =
      (x.significand + 1 / 2) * 2 ^ x.exponent := by
    rw [hhigh, hunit]
    ring
  simp only [reaches]
  by_cases heven : x.significand % 2 = 0
  · simp only [if_pos heven, Bool.and_eq_true, decide_eq_true_eq]
    rw [crossed_ge, crossed_le, hlow_eq, hhigh_eq, ← le_div_iff₀ hpos, ← div_le_iff₀ hpos]
    exact ⟨fun h => ⟨h.1, h.2, fun _ => heven⟩, fun h => ⟨h.low, h.high⟩⟩
  · simp only [if_neg heven, Bool.and_eq_true, decide_eq_true_eq]
    rw [crossed_gt, crossed_lt, hlow_eq, hhigh_eq, ← lt_div_iff₀ hpos, ← div_lt_iff₀ hpos]
    refine ⟨fun h => ⟨h.1.le, h.2.le, fun ht => ?_⟩, fun h => ⟨?_, ?_⟩⟩
    · exact absurd ht (not_or.2 ⟨h.1.ne', h.2.ne⟩)
    · exact lt_of_le_of_ne h.low fun he => heven (h.tie (.inl he.symm))
    · exact lt_of_le_of_ne h.high fun he => heven (h.tie (.inr he))

theorem roundDiv_of_near {n d k : ℕ} (hd : 0 < d) {v : ℚ} (hv : (n : ℚ) = v * d)
    (hlow : (k : ℚ) - 1 / 2 ≤ v) (hhigh : v ≤ k + 1 / 2)
    (htie : v = k - 1 / 2 ∨ v = k + 1 / 2 → k % 2 = 0) : roundDiv n d = k := by
  have hdq : (0 : ℚ) < d := by exact_mod_cast hd
  refine roundDiv_eq hd ?_ ?_ fun h => htie ?_
  · have h := mul_le_mul_of_nonneg_right hlow hdq.le
    have hcast : (2 * k * d : ℚ) ≤ 2 * n + d := by rw [hv]; linarith
    exact_mod_cast hcast
  · have h := mul_le_mul_of_nonneg_right hhigh hdq.le
    have hcast : (2 * n : ℚ) ≤ (2 * k + 1) * d := by rw [hv]; linarith
    exact_mod_cast hcast
  · refine h.imp (fun h => ?_) fun h => ?_
    · have hcast : (2 * k * d : ℚ) = 2 * n + d := by exact_mod_cast h
      refine mul_right_cancel₀ hdq.ne' ?_
      linarith
    · have hcast : (2 * n : ℚ) = (2 * k + 1) * d := by exact_mod_cast h
      refine mul_right_cancel₀ hdq.ne' ?_
      linarith

theorem gap_le (x : Double) : x.gap ≤ 1 / 2 := by
  rw [gap]
  split <;> norm_num

theorem significand_cast_le (x : Double) : (x.significand : ℚ) + 1 ≤ 9007199254740992 := by
  exact_mod_cast Nat.succ_le_of_lt x.significand_lt

section Near
variable {x : Double} {q : ℚ} (h : x.Near q)
include h

theorem Near.pos (h0 : x.significand ≠ 0) : 0 < q := by
  have hm : (1 : ℚ) ≤ x.significand := by exact_mod_cast Nat.one_le_iff_ne_zero.2 h0
  have hu : 0 < q / 2 ^ x.exponent := by linarith [h.low, x.gap_le]
  exact (div_pos_iff_of_pos_right (two_zpow_pos _)).1 hu

theorem Near.lt_two_zpow : q < 2 ^ (x.exponent + 53) := by
  rw [zpow_add₀ (by norm_num), ← div_lt_iff₀' (two_zpow_pos _)]
  have hm := x.significand_cast_le
  have hpow : (2 : ℚ) ^ (53 : ℤ) = 9007199254740992 := by norm_num
  linarith [h.high]

/-- Below a power of two the values that are near it are in the binade below. -/
theorem Near.of_lt (hlt : q / 2 ^ x.exponent < 2 ^ 52) (he : -1074 < x.exponent) :
    x.significand = 2 ^ 52 ∧ 2 ^ 52 - 1 / 4 ≤ q / 2 ^ x.exponent := by
  have hge : (2 ^ 52 : ℚ) ≤ x.significand := by exact_mod_cast x.le_significand he
  have hlow := h.low
  have hm : x.significand = 2 ^ 52 := by
    by_contra hne
    have hgap : x.gap = 1 / 2 := by
      rw [gap, if_neg fun hc => hne hc.1]
    have hsucc : 2 ^ 52 + 1 ≤ x.significand :=
      Nat.succ_le_of_lt (lt_of_le_of_ne (x.le_significand he) (Ne.symm hne))
    have hcast : (2 ^ 52 + 1 : ℚ) ≤ x.significand := by exact_mod_cast hsucc
    rw [hgap] at hlow
    linarith
  have hgap : x.gap = 1 / 4 := by rw [gap, if_pos ⟨hm, he⟩]
  rw [hgap, hm] at hlow
  refine ⟨hm, ?_⟩
  push_cast at hlow
  exact hlow

end Near

theorem scaled_div (num : ℕ) {den : ℕ} (hd : 0 < den) (e : ℤ) : 0 < (scaled num den (-e)).2 ∧
    ((scaled num den (-e)).1 : ℚ) = num / den / 2 ^ e * (scaled num den (-e)).2 := by
  have hdq : (0 : ℚ) < den := by exact_mod_cast hd
  obtain ⟨D, hD, h1, h1'⟩ := scaled_spec num den (-e)
  constructor
  · have : (0 : ℚ) < (scaled num den (-e)).2 := by
      rw [h1']
      positivity
    exact_mod_cast this
  · rw [h1, h1', zpow_neg]
    field_simp

/-- A quotient near `x` is rounded in the binade of `x`, or in the one below. -/
theorem Near.binade {x : Double} {num den : ℕ} (h : x.Near (num / den)) (hnum : 0 < num)
    (hd : 0 < den) :
    max (-1074) (floorLog2 num den - 52) = x.exponent ∨
      max (-1074) (floorLog2 num den - 52) = x.exponent - 1 ∧ -1074 < x.exponent ∧
        (num / den : ℚ) / 2 ^ x.exponent < 2 ^ 52 := by
  obtain ⟨hfloor, hceil⟩ := floorLog2_spec hnum hd
  have hge := x.exponent_ge
  have h2 : (1 : ℚ) < 2 := by norm_num
  have hle : floorLog2 num den < x.exponent + 53 :=
    (zpow_lt_zpow_iff_right₀ h2).1 (hfloor.trans_lt h.lt_two_zpow)
  have hpow (k : ℕ) : (2 : ℚ) ^ (x.exponent + k) = 2 ^ k * 2 ^ x.exponent := by
    rw [zpow_add₀ (by norm_num), mul_comm, zpow_natCast]
  rcases le_or_gt ((2 : ℚ) ^ 52) (num / den / 2 ^ x.exponent) with hu | hu
  · have hq : (2 : ℚ) ^ (x.exponent + (52 : ℕ)) ≤ num / den := by
      rw [hpow]
      exact (le_div_iff₀ (two_zpow_pos _)).1 hu
    have hlog := (zpow_lt_zpow_iff_right₀ h2).1 (hq.trans_lt hceil)
    omega
  · rcases lt_or_eq_of_le hge with hx | hx
    · obtain ⟨-, hlow⟩ := h.of_lt hu hx
      have hhigh : (num / den : ℚ) < 2 ^ (x.exponent + (52 : ℕ)) := by
        rw [hpow]
        exact (div_lt_iff₀ (two_zpow_pos _)).1 hu
      have hlow : (2 : ℚ) ^ (x.exponent + (51 : ℕ)) ≤ num / den := by
        rw [hpow]
        refine (le_div_iff₀ (two_zpow_pos _)).1 (le_trans ?_ hlow)
        norm_num
      have hlt := (zpow_lt_zpow_iff_right₀ h2).1 (hfloor.trans_lt hhigh)
      have hgt := (zpow_lt_zpow_iff_right₀ h2).1 (hlow.trans_lt hceil)
      exact .inr ⟨by omega, hx, hu⟩
    · omega

/-- A value near `x` is rounded to `x`. -/
theorem ofRatio_of_near {x : Double} (hf : x.isFinite) (h0 : x.significand ≠ 0) {num den : ℕ}
    (hd : 0 < den) (h : x.Near (num / den)) (negative : Bool) :
    ofRatio negative num den = ofMagnitude negative x.magnitude := by
  have hdq : (0 : ℚ) < den := by exact_mod_cast hd
  have hnum : 0 < num := by
    have := h.pos h0
    rw [div_pos_iff_of_pos_right hdq] at this
    exact_mod_cast this
  have hge := x.exponent_ge
  suffices hmagnitude : ∀ e, e = max (-1074) (floorLog2 num den - 52) →
      (e + 1074).toNat * fractionWeight +
        roundDiv (scaled num den (-e)).1 (scaled num den (-e)).2 = x.magnitude by
    rw [ofRatio, if_neg hnum.ne']
    simp only [hmagnitude _ rfl, if_pos (magnitude_lt hf)]
  intro e he
  obtain ⟨hpos, hv⟩ := scaled_div num hd e
  rcases h.binade hnum hd with hx | ⟨hx, hlt, hu⟩
  · obtain rfl : e = x.exponent := he.trans hx
    have hgap := x.gap_le
    rw [magnitude_eq, roundDiv_of_near hpos hv (by linarith [h.low]) h.high fun ht => ?_]
    refine h.tie (ht.imp_left fun hl => ?_)
    linarith [h.low]
  · -- The last place is worth half as much there, and the value is rounded up to the power of two.
    obtain rfl : e = x.exponent - 1 := he.trans hx
    obtain ⟨hm, hlow⟩ := h.of_lt hu hlt
    have hdouble : (num / den : ℚ) / 2 ^ (x.exponent - 1) = num / den / 2 ^ x.exponent * 2 := by
      rw [zpow_sub_one₀ (by norm_num)]
      field_simp
    rw [hdouble] at hv
    have hround := roundDiv_of_near (k := 2 ^ 53) hpos hv
      (by push_cast; linarith) (by push_cast; linarith) fun _ => by decide
    rw [magnitude_eq, hround, hm, fractionWeight]
    omega

theorem zpow_le_zpow_of_nonpos {a b : ℚ} (hb : 0 < b) (hab : b ≤ a) {t : ℤ} (ht : t ≤ 0) :
    a ^ t ≤ b ^ t := by
  have h := zpow_le_zpow_left₀ (neg_nonneg.2 ht) hb.le hab
  rw [zpow_neg, zpow_neg] at h
  exact (inv_le_inv₀ (zpow_pos hb t) (zpow_pos (hb.trans_le hab) t)).1 h

theorem eight_zpow (p : ℤ) : (8 : ℚ) ^ p = 2 ^ (3 * p) := by
  rw [zpow_mul]
  norm_num

theorem two_zpow_le_ten_zpow {p : ℤ} (hp : 0 ≤ p) : (2 : ℚ) ^ (3 * p) ≤ 10 ^ p := by
  rw [← eight_zpow]
  exact zpow_le_zpow_left₀ hp (by norm_num) (by norm_num)

theorem ten_zpow_le_two_zpow {p : ℤ} (hp : p ≤ 0) : (10 : ℚ) ^ p ≤ 2 ^ (3 * p) := by
  rw [← eight_zpow]
  exact zpow_le_zpow_of_nonpos (by norm_num) (by norm_num) hp

section Decimals
variable {x : Double} {digits : ℕ} {e : ℤ} (h : x.Near (digits * 10 ^ e))
include h

/-- No decimal near a number is taken for too large. -/
theorem Near.exponent_le (hf : x.isFinite) (hdigits : digits ≠ 0) : e ≤ 400 := by
  have hexp := Double.exponent_le hf
  by_contra he
  have hone : (1 : ℚ) ≤ digits := by exact_mod_cast Nat.one_le_iff_ne_zero.2 hdigits
  have hlt : (2 : ℚ) ^ (3 * e) < 2 ^ (x.exponent + 53) :=
    calc (2 : ℚ) ^ (3 * e) ≤ 10 ^ e := two_zpow_le_ten_zpow (by omega)
      _ ≤ digits * 10 ^ e := le_mul_of_one_le_left (ten_zpow_pos e).le hone
      _ < _ := h.lt_two_zpow
  have := (zpow_lt_zpow_iff_right₀ (by norm_num : (1 : ℚ) < 2)).1 hlt
  omega

/-- No decimal near a number is taken for too small. -/
theorem Near.le_exponent (h0 : x.significand ≠ 0) : -1200 ≤ e + (digits.log2 : ℤ) := by
  have hge := x.exponent_ge
  by_contra he
  have hlow : (2 : ℚ) ^ (x.exponent - 1) ≤ digits * 10 ^ e := by
    have hm : (1 : ℚ) ≤ x.significand := by exact_mod_cast Nat.one_le_iff_ne_zero.2 h0
    have hu := h.low
    rw [le_div_iff₀ (two_zpow_pos _)] at hu
    refine le_trans ?_ hu
    rw [zpow_sub_one₀ (by norm_num), mul_comm]
    exact mul_le_mul_of_nonneg_right (by linarith [x.gap_le]) (two_zpow_pos _).le
  have hhigh : (digits * 10 ^ e : ℚ) < 2 ^ ((digits.log2 : ℤ) + 1 + 3 * e) := by
    rw [zpow_add₀ (by norm_num)]
    exact mul_lt_mul (lt_two_zpow_log2 digits) (ten_zpow_le_two_zpow (by omega)) (ten_zpow_pos e)
      (two_zpow_pos _).le
  have := (zpow_lt_zpow_iff_right₀ (by norm_num : (1 : ℚ) < 2)).1 (hlow.trans_lt hhigh)
  omega

/-- A decimal near `x` is read as `x`. -/
theorem ofDecimal_of_near (hf : x.isFinite) (h0 : x.significand ≠ 0) (negative : Bool) :
    ofDecimal negative digits e = ofMagnitude negative x.magnitude := by
  have hdigits : digits ≠ 0 := by
    rintro rfl
    have := h.pos h0
    simp at this
  rw [ofDecimal, if_neg hdigits, if_neg (h.exponent_le hf hdigits).not_gt,
    if_neg (h.le_exponent h0).not_gt]
  refine ofRatio_of_near hf h0 (Nat.pow_pos (by norm_num)) ?_ negative
  convert h using 1
  simp only [Nat.pow_eq]
  push_cast
  rw [zpow_toNat (by norm_num) e]
  field_simp

end Decimals

theorem onGrid_reaches {x : Double} {p : ℤ} {c : ℕ} (h : x.onGrid p = some c) :
    c ≠ 0 ∧ x.reaches c p = true := by
  rw [onGrid] at h
  simp only at h
  split at h
  · rename_i hdown hup
    rw [Bool.and_eq_true, bne_iff_ne] at hdown
    have hc := Option.some.inj h
    split_ifs at hc
    · exact hc ▸ ⟨hdown.2, hdown.1⟩
    · exact hc ▸ ⟨Nat.succ_ne_zero _, hup⟩
    · rcases Nat.mod_two_eq_zero_or_one _ with hmod | hmod <;> rw [hmod] at hc
      · exact hc ▸ ⟨hdown.2, hdown.1⟩
      · exact hc ▸ ⟨Nat.succ_ne_zero _, hup⟩
  · rename_i hdown _
    rw [Bool.and_eq_true, bne_iff_ne] at hdown
    exact Option.some.inj h ▸ ⟨hdown.2, hdown.1⟩
  · rename_i hup
    exact Option.some.inj h ▸ ⟨Nat.succ_ne_zero _, hup⟩
  · cases h

theorem decade_le {x : Double} {fuel : ℕ} {p : ℤ} (h : (10 : ℚ) ^ (p - fuel) ≤ x.value) :
    (10 : ℚ) ^ x.decade fuel p ≤ x.value := by
  induction fuel generalizing p with
  | zero => simpa [decade] using h
  | succ fuel ih =>
    rw [decade]
    simp only
    split
    · rename_i hle
      simpa [value] using (crossed_le 1 p x.significand x.exponent).1 hle
    · refine ih ?_
      convert h using 2
      push_cast
      ring

theorem search_near {x : Double} (h0 : x.significand ≠ 0) (top : ℤ) {l : List ℕ}
    (h : ∃ n ∈ l, ∃ c, x.onGrid (top + 1 - n) = some c) :
    (x.search top l).digits ≠ 0 ∧
      x.Near ((x.search top l).digits * 10 ^ (x.search top l).exponent) := by
  induction l with
  | nil => simp at h
  | cons n rest ih =>
    rw [search]
    cases hn : x.onGrid (top + 1 - n) with
    | none =>
      refine ih ?_
      obtain ⟨k, hk, c, hc⟩ := h
      rcases List.mem_cons.1 hk with rfl | hk
      · rw [hn] at hc
        cases hc
      · exact ⟨k, hk, c, hc⟩
    | some c =>
      obtain ⟨hne, hreach⟩ := onGrid_reaches hn
      have hnear := (reaches_iff h0 c _).1 hreach
      simp only
      split
      · rename_i hten
        have hc : c = 10 * (c / 10) := by omega
        have hvalue : ((c / 10 : ℕ) : ℚ) * 10 ^ (top + 2 - n) = c * 10 ^ (top + 1 - n) := by
          conv_rhs => rw [hc]
          rw [show top + 2 - (n : ℤ) = top + 1 - n + 1 by ring, zpow_add_one₀ (by norm_num)]
          push_cast
          ring
        exact ⟨show c / 10 ≠ 0 by omega, hvalue ▸ hnear⟩
      · exact ⟨hne, hnear⟩

/-- Of the multiples of a step on both sides of a number one is near it, if the step is no more than
the number in units of its seventeenth digit. -/
theorem exists_near {x : Double} (h0 : x.significand ≠ 0) {p : ℤ}
    (hp : (10 : ℚ) ^ (p + 16) ≤ x.value) {c : ℕ} (hlow : (c : ℚ) * 10 ^ p ≤ x.value)
    (hhigh : x.value < (c + 1 : ℕ) * 10 ^ p) :
    x.Near ((c + 1 : ℕ) * 10 ^ p) ∨ c ≠ 0 ∧ x.Near (c * 10 ^ p) := by
  have h2 := two_zpow_pos x.exponent
  have hgap := x.gap_le
  have hone : (1 : ℚ) ≤ x.significand := by exact_mod_cast Nat.one_le_iff_ne_zero.2 h0
  have hm := x.significand_cast_le
  -- All in units of the last place: the step is less than one of them.
  have hstep : (10 : ℚ) ^ p / 2 ^ x.exponent * 10 ^ 16 ≤ x.significand := by
    rw [div_mul_eq_mul_div, div_le_iff₀ h2]
    rw [zpow_add₀ (by norm_num)] at hp
    exact_mod_cast hp
  have hlow : (c : ℚ) * 10 ^ p / 2 ^ x.exponent ≤ x.significand := (div_le_iff₀ h2).2 hlow
  have hhigh : (x.significand : ℚ) < (c + 1 : ℕ) * 10 ^ p / 2 ^ x.exponent :=
    (lt_div_iff₀ h2).2 hhigh
  have hsucc : ((c + 1 : ℕ) : ℚ) * 10 ^ p / 2 ^ x.exponent =
      c * 10 ^ p / 2 ^ x.exponent + 10 ^ p / 2 ^ x.exponent := by
    push_cast
    ring
  have hgap0 : 0 < x.gap := by
    rw [gap]
    split <;> norm_num
  by_cases hup : ((c + 1 : ℕ) : ℚ) * 10 ^ p / 2 ^ x.exponent < x.significand + 1 / 2
  · refine .inl ⟨by linarith, hup.le, fun ht => ?_⟩
    rcases ht with ht | ht <;> linarith
  · have hhalf : x.gap = 1 / 2 := by
      rw [gap, if_neg]
      rintro ⟨hm, -⟩
      have hcast : (x.significand : ℚ) = 2 ^ 52 := by exact_mod_cast hm
      rw [hcast] at hstep
      exact hup (by linarith)
    have hdown : (x.significand : ℚ) - 1 / 2 < c * 10 ^ p / 2 ^ x.exponent := by linarith
    refine .inr ⟨?_, ⟨by linarith, by linarith, fun ht => ?_⟩⟩
    · rintro rfl
      simp at hdown
      linarith
    · rcases ht with ht | ht <;> linarith

theorem exists_onGrid {x : Double} (h0 : x.significand ≠ 0) {p : ℤ}
    (hp : (10 : ℚ) ^ (p + 16) ≤ x.value) : ∃ c, x.onGrid p = some c := by
  obtain ⟨D, hD, hunit, hv⟩ := crossed_spec 1 p x.significand x.exponent
  have hpos : 0 < (crossed 1 p x.significand x.exponent).1 := by
    have : (0 : ℚ) < (crossed 1 p x.significand x.exponent).1 := by
      rw [hunit]
      have := ten_zpow_pos p
      positivity
    exact_mod_cast this
  rw [onGrid]
  generalize crossed 1 p x.significand x.exponent = pair at *
  obtain ⟨unit, v⟩ := pair
  simp only at hunit hv hpos ⊢
  have hlow : ((v / unit : ℕ) : ℚ) * 10 ^ p ≤ x.value := by
    have h : ((v / unit * unit : ℕ) : ℚ) ≤ v := by exact_mod_cast Nat.div_mul_le_self v unit
    push_cast [hunit, hv] at h
    refine le_of_mul_le_mul_right ?_ hD
    rw [value]
    linarith
  have hhigh : x.value < (v / unit + 1 : ℕ) * 10 ^ p := by
    have h : (v : ℚ) < (unit * (v / unit + 1) : ℕ) := by
      exact_mod_cast Nat.lt_mul_div_succ v hpos
    push_cast [hunit, hv] at h
    refine lt_of_mul_lt_mul_right ?_ hD.le
    rw [value]
    push_cast
    linarith
  have hreach : x.reaches (v / unit + 1) p = true ∨
      (x.reaches (v / unit) p && v / unit != 0) = true := by
    rw [Bool.and_eq_true, bne_iff_ne, reaches_iff h0, reaches_iff h0, and_comm]
    exact exists_near h0 hp hlow hhigh
  cases hdown : x.reaches (v / unit) p && v / unit != 0 <;>
    cases hup : x.reaches (v / unit + 1) p <;> simp_all

theorem ten_zpow_le_two_zpow_of_le {t l : ℤ} (hpos : 10 * t ≤ 3 * l) (hneg : 93 * t ≤ 28 * l) :
    (10 : ℚ) ^ t ≤ 2 ^ l := by
  have h2 : (1 : ℚ) ≤ 2 := by norm_num
  rcases le_total 0 t with ht | ht
  · -- A thousand is less than two to the tenth.
    refine le_of_pow_le_pow_left₀ (n := 3) (by norm_num) (two_zpow_pos l).le ?_
    calc ((10 : ℚ) ^ t) ^ 3 = (10 ^ 3) ^ t := by rw [← zpow_natCast, ← zpow_natCast, zpow_comm]
      _ ≤ (2 ^ 10) ^ t := zpow_le_zpow_left₀ ht (by norm_num) (by norm_num)
      _ = 2 ^ (10 * t) := by rw [zpow_mul]; norm_cast
      _ ≤ 2 ^ (3 * l) := zpow_le_zpow_right₀ h2 hpos
      _ = (2 ^ l) ^ 3 := by rw [mul_comm, zpow_mul]; norm_cast
  · -- Ten to the twenty-eighth is more than two to the ninety-third.
    refine le_of_pow_le_pow_left₀ (n := 28) (by norm_num) (two_zpow_pos l).le ?_
    calc ((10 : ℚ) ^ t) ^ 28 = (10 ^ 28) ^ t := by rw [← zpow_natCast, ← zpow_natCast, zpow_comm]
      _ ≤ (2 ^ 93) ^ t := zpow_le_zpow_of_nonpos (by norm_num) (by norm_num) ht
      _ = 2 ^ (93 * t) := by rw [zpow_mul]; norm_cast
      _ ≤ 2 ^ (28 * l) := zpow_le_zpow_right₀ h2 hneg
      _ = (2 ^ l) ^ 28 := by rw [mul_comm, zpow_mul]; norm_cast

theorem ten_zpow_le_value {x : Double} (hf : x.isFinite) (h0 : x.significand ≠ 0) :
    (10 : ℚ) ^ (((x.significand.log2 : ℤ) + x.exponent) * 30103 / 100000 - 3) ≤ x.value := by
  have hexp := exponent_le hf
  have hge := x.exponent_ge
  have hlog : x.significand.log2 < 53 := (Nat.log2_lt h0).2 x.significand_lt
  have hvalue : (2 : ℚ) ^ ((x.significand.log2 : ℤ) + x.exponent) ≤ x.value := by
    rw [zpow_add₀ (by norm_num), value]
    exact mul_le_mul_of_nonneg_right (two_zpow_log2_le h0) (two_zpow_pos _).le
  exact (ten_zpow_le_two_zpow_of_le (by omega) (by omega)).trans hvalue

/-- The shortest decimal that is found for a number is near it. -/
theorem shortest_near {x : Double} (hf : x.isFinite) (h0 : x.significand ≠ 0) :
    x.shortest.digits ≠ 0 ∧ x.Near (x.shortest.digits * 10 ^ x.shortest.exponent) := by
  have hdecade : (10 : ℚ) ^ x.decade 4
      (((x.significand.log2 : ℤ) + x.exponent) * 30103 / 100000 + 1) ≤ x.value := by
    refine decade_le (le_of_eq_of_le ?_ (ten_zpow_le_value hf h0))
    congr 1
    push_cast
    ring
  rw [shortest, if_neg h0]
  refine search_near h0 _ ⟨17, by decide, exists_onGrid h0 (le_of_eq_of_le ?_ hdecade)⟩
  congr 1
  push_cast
  ring

/-- What is written for a finite number, in any notation of the same value, rounds back to it. -/
theorem ofDecimal_shortest {x : Double} (hf : x.isFinite) {digits : ℕ} {e : ℤ} {k : ℕ}
    (hdigits : digits = x.shortest.digits * 10 ^ k)
    (he : x.shortest.digits = 0 ∨ e = x.shortest.exponent - k) :
    ofDecimal x.isNegative digits e = x := by
  by_cases h0 : x.significand = 0
  · have hshortest : x.shortest = ⟨0, 0⟩ := by rw [shortest, if_pos h0]
    rw [hshortest, Nat.zero_mul] at hdigits
    rw [ofDecimal, if_pos hdigits, ← magnitude_eq_zero h0]
    exact x.ofMagnitude_magnitude
  · obtain ⟨hne, hnear⟩ := shortest_near hf h0
    have hvalue : (digits * 10 ^ e : ℚ) = x.shortest.digits * 10 ^ x.shortest.exponent := by
      rw [he.resolve_left hne, hdigits, zpow_sub₀ (by norm_num), zpow_natCast]
      push_cast
      field_simp
    rw [ofDecimal_of_near (hvalue ▸ hnear) hf h0]
    exact x.ofMagnitude_magnitude

end Double
end ClusterReconciliation.Decimal
