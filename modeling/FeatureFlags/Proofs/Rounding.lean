import FeatureFlags.Flag
import FeatureFlags.Proofs.Literals

/-! # How far rounding goes

A quotient is rounded to 53 binary digits. The result is off by half a unit of the last of them at
most, and it does not fall below a number of so many digits that the quotient reaches. -/

namespace FeatureFlags.Binary64

theorem div_le_roundHalfEven (num den : Nat) : num / den ≤ roundHalfEven num den := by
  unfold roundHalfEven
  dsimp only
  split <;> omega

theorem roundHalfEven_mul (n : Nat) {den : Nat} (h : 0 < den) : roundHalfEven (n * den) den = n := by
  unfold roundHalfEven
  dsimp only
  rw [Nat.mul_mod_left, Nat.mul_div_left n h, if_pos (Or.inl (by omega))]

theorem roundHalfEven_error (num : Nat) {den : Nat} (h : 0 < den) :
    2 * num ≤ 2 * (roundHalfEven num den * den) + den ∧
      2 * (roundHalfEven num den * den) ≤ 2 * num + den := by
  have hsplit := Nat.div_add_mod' num den
  have hrest := Nat.mod_lt num h
  unfold roundHalfEven
  dsimp only
  split
  · omega
  · rw [Nat.add_mul]
    omega

/-- A double that is put together of a place and of digits, all 53 of them unless the place is the
lowest. -/
theorem unitsAbs_ofMagnitude {negative : Bool} {place digits : Nat}
    (hdigits : digits ≤ 2 * leadingBit) (hplace : place = 0 ∨ leadingBit ≤ digits)
    (hfinite : place * leadingBit + digits < infiniteMagnitude) :
    (ofMagnitude negative (place * leadingBit + digits)).unitsAbs = digits <<< place := by
  have hmagnitude := magnitude_ofMagnitude negative
    (Nat.lt_trans hfinite (by decide : infiniteMagnitude < signBit))
  unfold unitsAbs significand shift
  rw [hmagnitude]
  unfold leadingBit at *
  by_cases hsmall : digits < 0x0010000000000000
  · have hlowest : place = 0 := by omega
    subst hlowest
    have hshift : (0 * 0x0010000000000000 + digits) / 0x0010000000000000 - 1 = 0 := by omega
    rw [if_pos (by omega), hshift, Nat.zero_mul, Nat.zero_add]
  · rw [if_neg (by omega)]
    by_cases hcarry : digits = 2 * 0x0010000000000000
    · -- The digits have been rounded up to the next power of two.
      have hshift : (place * 0x0010000000000000 + digits) / 0x0010000000000000 - 1 = 1 + place := by
        omega
      have hrest : (place * 0x0010000000000000 + digits) % 0x0010000000000000 = 0 := by omega
      rw [hshift, hrest, hcarry, Nat.shiftLeft_add]
      rfl
    · have hshift : (place * 0x0010000000000000 + digits) / 0x0010000000000000 - 1 = place := by
        omega
      have hrest : 0x0010000000000000 + (place * 0x0010000000000000 + digits) % 0x0010000000000000 =
          digits := by omega
      rw [hshift, hrest]

section

variable {num den : Nat}

theorem leadingBit_le_div (h : 52 ≤ Nat.log2 (num / den)) :
    leadingBit ≤ num / (den <<< (Nat.log2 (num / den) - 52)) := by
  have hne : num / den ≠ 0 := by
    intro hzero
    rw [hzero] at h
    contradiction
  rw [Nat.shiftLeft_eq, ← Nat.div_div_eq_div_mul, Nat.le_div_iff_mul_le (Nat.two_pow_pos _)]
  calc leadingBit * 2 ^ (Nat.log2 (num / den) - 52)
      = 2 ^ Nat.log2 (num / den) := by
        rw [show leadingBit = 2 ^ 52 from rfl, ← Nat.pow_add, Nat.add_sub_cancel' h]
    _ ≤ num / den := Nat.log2_self_le hne

theorem unitsAbs_nearest (negative : Bool) (h : Nat.log2 (num / den) < 2097) :
    (ofMagnitude negative (nearestMagnitude num den)).unitsAbs =
      roundHalfEven num (den <<< (Nat.log2 (num / den) - 52)) <<< (Nat.log2 (num / den) - 52) := by
  have hfinite := nearestMagnitude_lt h
  have hmagnitude : nearestMagnitude num den = (Nat.log2 (num / den) - 52) * leadingBit +
      roundHalfEven num (den <<< (Nat.log2 (num / den) - 52)) := by
    unfold nearestMagnitude at hfinite ⊢
    dsimp only at hfinite ⊢
    omega
  rw [hmagnitude] at hfinite ⊢
  refine unitsAbs_ofMagnitude ?_ ?_ hfinite
  · exact Nat.le_trans (roundHalfEven_le _ _) (div_shiftLeft_lt num den)
  · by_cases hnormal : 52 ≤ Nat.log2 (num / den)
    · exact Or.inr (Nat.le_trans (leadingBit_le_div hnormal) (div_le_roundHalfEven _ _))
    · exact Or.inl (by omega)

theorem le_unitsAbs_nearest (negative : Bool) (h : Nat.log2 (num / den) < 2097)
    {digits place : Nat} (hdigits : digits ≤ 2 * leadingBit) (hle : digits <<< place ≤ num / den) :
    digits <<< place ≤ (ofMagnitude negative (nearestMagnitude num den)).unitsAbs := by
  rw [unitsAbs_nearest negative h]
  generalize hlast : Nat.log2 (num / den) - 52 = last
  simp only [Nat.shiftLeft_eq] at hle ⊢
  by_cases hplace : last ≤ place
  · obtain ⟨more, rfl⟩ := Nat.exists_eq_add_of_le hplace
    rw [Nat.pow_add, Nat.mul_comm (2 ^ last), ← Nat.mul_assoc] at hle ⊢
    refine Nat.mul_le_mul_right _ (Nat.le_trans ?_ (div_le_roundHalfEven _ _))
    rwa [← Nat.div_div_eq_div_mul, Nat.le_div_iff_mul_le (Nat.two_pow_pos last)]
  · -- The last place lies above this number's, so the leading digit alone outweighs it.
    have hbit : leadingBit ≤ roundHalfEven num (den * 2 ^ last) := by
      have hnormal : leadingBit ≤ num / (den <<< (Nat.log2 (num / den) - 52)) :=
        leadingBit_le_div (by omega)
      rw [hlast, Nat.shiftLeft_eq] at hnormal
      exact Nat.le_trans hnormal (div_le_roundHalfEven _ _)
    calc digits * 2 ^ place ≤ 2 * leadingBit * 2 ^ place := Nat.mul_le_mul_right _ hdigits
      _ = leadingBit * 2 ^ (place + 1) := by
        rw [Nat.mul_comm 2, Nat.mul_assoc, Nat.pow_succ']
      _ ≤ roundHalfEven num (den * 2 ^ last) * 2 ^ last :=
        Nat.mul_le_mul hbit (Nat.pow_le_pow_right (by decide) (by omega))

/-- The relative error of rounding is at most one in `2 * leadingBit`. -/
theorem unitsAbs_nearest_error (negative : Bool) (hden : 0 < den)
    (hlow : 52 ≤ Nat.log2 (num / den)) (hhigh : Nat.log2 (num / den) < 2097) :
    2 * leadingBit * num ≤
        2 * leadingBit * ((ofMagnitude negative (nearestMagnitude num den)).unitsAbs * den) + num ∧
      2 * leadingBit * ((ofMagnitude negative (nearestMagnitude num den)).unitsAbs * den) ≤
        2 * leadingBit * num + num := by
  have hunit := leadingBit_le_div hlow
  rw [unitsAbs_nearest negative hhigh]
  generalize Nat.log2 (num / den) - 52 = last at hunit ⊢
  have hstep : 0 < den <<< last := by
    rw [Nat.shiftLeft_eq]
    exact Nat.mul_pos hden (Nat.two_pow_pos last)
  rw [Nat.le_div_iff_mul_le hstep] at hunit
  obtain ⟨hover, hunder⟩ := roundHalfEven_error num hstep
  have hvalue : roundHalfEven num (den <<< last) <<< last * den =
      roundHalfEven num (den <<< last) * (den <<< last) := by
    rw [Nat.shiftLeft_eq, Nat.shiftLeft_eq den, Nat.mul_assoc, Nat.mul_comm (2 ^ last)]
  rw [hvalue]
  unfold leadingBit at hunit ⊢
  omega

end

theorem unitsAbs_nearest_zero (negative : Bool) (den : Nat) :
    (ofMagnitude negative (nearestMagnitude 0 den)).unitsAbs = 0 := by
  have hzero : roundHalfEven 0 (den <<< (Nat.log2 (0 / den) - 52)) = 0 := by
    simp [roundHalfEven, eq_comm]
  rw [unitsAbs_nearest negative (by simp), hzero, Nat.zero_shiftLeft]

protected theorem one_pos : 0 < one := by decide +kernel

theorem two_mul_halves (n : Nat) : 2 * n <<< 1073 = n * one := by
  have hone : one = 2 * 1 <<< 1073 := by decide +kernel
  rw [hone, Nat.shiftLeft_eq n, Nat.one_shiftLeft, Nat.mul_left_comm]

theorem log2_lt_of_le_mul_one {x n place : Nat} (hx : x ≤ n * one) (hn : n < 1 <<< place) :
    Nat.log2 x < place + 1074 := by
  by_cases hzero : x = 0
  · rw [hzero]
    exact Nat.lt_of_lt_of_le (by decide : Nat.log2 0 < 1074) (Nat.le_add_left _ _)
  · rw [Nat.log2_lt hzero, Nat.pow_add]
    rw [Nat.one_shiftLeft] at hn
    rw [one, Nat.one_shiftLeft] at hx
    exact Nat.lt_of_le_of_lt hx (Nat.mul_lt_mul_of_pos_right hn (Nat.two_pow_pos 1074))

theorem unitsAbs_ofInt {n : Nat} (h : n < 2 * leadingBit) : (ofInt n).unitsAbs = n * one := by
  have hlog : Nat.log2 (n * one) < 53 + 1074 := log2_lt_of_le_mul_one (Nat.le_refl _) h
  unfold ofInt
  rw [Int.natAbs_natCast, unitsAbs_nearest _ (by rw [Nat.div_one]; omega), Nat.div_one]
  obtain ⟨more, hmore⟩ := Nat.exists_eq_add_of_le (show Nat.log2 (n * one) - 52 ≤ 1074 by omega)
  generalize Nat.log2 (n * one) - 52 = last at hmore ⊢
  have hone : one = 1 <<< last * 1 <<< more := by
    rw [one, hmore, Nat.one_shiftLeft, Nat.one_shiftLeft, Nat.one_shiftLeft, Nat.pow_add]
  have hlast : 0 < 1 <<< last := by
    rw [Nat.one_shiftLeft]
    exact Nat.two_pow_pos last
  rw [hone, Nat.mul_comm (1 <<< last), ← Nat.mul_assoc, roundHalfEven_mul _ hlast,
    Nat.shiftLeft_eq (n * _), Nat.one_shiftLeft last]

theorem le_unitsAbs_scale {factor digits place : Nat} {x : Binary64}
    (h : Nat.log2 (factor * x.unitsAbs) < 2097) (hdigits : digits ≤ 2 * leadingBit)
    (hle : digits <<< place ≤ factor * x.unitsAbs) :
    digits <<< place ≤ (x.scale factor).unitsAbs := by
  rw [← Nat.div_one (factor * x.unitsAbs)] at h hle
  exact le_unitsAbs_nearest x.isNegative h hdigits hle

theorem le_roundHalfUp {x : Binary64} {n : Nat} (h : 2 * n * one ≤ 2 * x.unitsAbs + one) :
    n ≤ x.roundHalfUp := by
  rw [roundHalfUp, Nat.le_div_iff_mul_le (Nat.mul_pos (by decide) Binary64.one_pos)]
  rwa [Nat.mul_left_comm, ← Nat.mul_assoc]

end FeatureFlags.Binary64
