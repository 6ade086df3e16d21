import FeatureFlags.Document.Reader

/-! # Numbers that a text can hold

A number that is read of a text is an integer of 64 bits or a finite double. Either way it is finite
as a double, and so it can be written again. -/

namespace FeatureFlags

namespace Binary64

theorem magnitude_ofMagnitude (negative : Bool) {magnitude : Nat} (h : magnitude < signBit) :
    (ofMagnitude negative magnitude).magnitude = magnitude := by
  unfold ofMagnitude Binary64.magnitude
  rw [UInt64.toNat_ofNat']
  unfold signBit at h ⊢
  cases negative with
  | false => simp; omega
  | true => simp; omega

theorem isFinite_ofMagnitude (negative : Bool) {magnitude : Nat} (h : magnitude < infiniteMagnitude) :
    (ofMagnitude negative magnitude).isFinite = true := by
  have hsign : magnitude < signBit := Nat.lt_trans h (by decide)
  rw [isFinite, magnitude_ofMagnitude negative hsign, decide_eq_true h]

theorem roundHalfEven_le (num den : Nat) : roundHalfEven num den ≤ num / den + 1 := by
  unfold roundHalfEven
  dsimp only
  split <;> omega

theorem div_shiftLeft_lt (num den : Nat) :
    num / (den <<< (Nat.log2 (num / den) - 52)) < 2 * leadingBit := by
  generalize hplace : Nat.log2 (num / den) - 52 = place
  rw [Nat.shiftLeft_eq, ← Nat.div_div_eq_div_mul, Nat.div_lt_iff_lt_mul (Nat.two_pow_pos place)]
  calc num / den < 2 ^ (Nat.log2 (num / den) + 1) := Nat.lt_log2_self
    _ ≤ 2 ^ (53 + place) := Nat.pow_le_pow_right (by decide) (by omega)
    _ = 2 * leadingBit * 2 ^ place := by rw [Nat.pow_add]; rfl

/-- A whole number of units rounds to a finite double unless its leading digit lies beyond that of
the largest one. -/
theorem nearestMagnitude_lt {num den : Nat} (h : Nat.log2 (num / den) < 2097) :
    nearestMagnitude num den < infiniteMagnitude := by
  have hdigits := div_shiftLeft_lt num den
  unfold nearestMagnitude
  dsimp only
  generalize hplace : Nat.log2 (num / den) - 52 = place at hdigits ⊢
  have hround := roundHalfEven_le num (den <<< place)
  have hsmall : place * leadingBit + roundHalfEven num (den <<< place) < infiniteMagnitude := by
    unfold leadingBit at *
    unfold infiniteMagnitude
    omega
  exact Nat.lt_of_le_of_lt (Nat.min_le_left _ _) hsmall

theorem isFinite_ofInt {n : Int} (h : n.natAbs ≤ UInt64.size) : (ofInt n).isFinite = true := by
  refine isFinite_ofMagnitude _ (nearestMagnitude_lt ?_)
  rw [Nat.div_one]
  by_cases hzero : n.natAbs * one = 0
  · rw [hzero]
    decide
  · rw [Nat.log2_lt hzero]
    calc n.natAbs * one ≤ UInt64.size * one := Nat.mul_le_mul_right one h
      _ < 2 ^ 2097 := by decide +kernel

end Binary64

def Number.IsLiteral : Number → Prop
  | .int n => -0x8000000000000000 ≤ n ∧ n < UInt64.size
  | .real x => x.isFinite = true

theorem Number.IsLiteral.isFinite {n : Number} (h : n.IsLiteral) : n.toBinary64.isFinite = true := by
  cases n with
  | int n =>
    obtain ⟨hlow, hhigh⟩ := h
    exact Binary64.isFinite_ofInt (by unfold UInt64.size at *; omega)
  | real x => exact h

namespace Document

theorem leadingDigits_lt {value : Nat} (h : value < UInt64.size) (digits : List Char) :
    (leadingDigits value digits).1 < UInt64.size := by
  induction digits generalizing value with
  | nil => exact h
  | cons c rest ih =>
    rw [leadingDigits]
    split
    · exact ih (by assumption)
    · exact h

theorem numberOf_cases (negative : Bool) (whole fraction : List Char) (exponent : Int)
    (plain : Bool) :
    numberOf negative whole fraction exponent plain = .unreadable ∨
      ∃ n, numberOf negative whole fraction exponent plain = .number n ∧ n.IsLiteral := by
  have hinteger := leadingDigits_lt (by decide : 0 < UInt64.size) whole
  unfold numberOf
  split
  rename_i integer dropped hdigits
  rw [hdigits] at hinteger
  split
  · refine Or.inr ⟨_, rfl, ?_⟩
    constructor <;> omega
  · split
    · rename_i hsmall
      refine Or.inr ⟨_, rfl, ?_⟩
      simp only [Bool.and_eq_true, decide_eq_true_eq] at hsmall
      unfold UInt64.size at hsmall
      constructor
      · omega
      · unfold UInt64.size; omega
    · dsimp only
      split
      · rename_i hfinite
        exact Or.inr ⟨_, rfl, Binary64.isFinite_ofMagnitude negative (of_decide_eq_true hfinite)⟩
      · exact Or.inl rfl

end Document

end FeatureFlags
