import Mathlib.Tactic.Ring
import FeatureFlags.Proofs.Partition
import FeatureFlags.Proofs.Rounding

/-! # Splits that add up to a hundred percent

Each percent is rounded to a whole number of buckets on its own, and so the widths of a table may
fall short of all buckets although the percents are complete. An entry loses less than half a
bucket. Percents of up to three decimals lose nothing. -/

namespace FeatureFlags

namespace Binary64

theorem units_eq_unitsAbs {x : Binary64} (h : 0 ≤ x.units) : x.units = x.unitsAbs := by
  unfold units at *
  split at h
  · rw [if_pos (by assumption)]
    omega
  · rw [if_neg (by assumption)]

theorem unitsAbs_le_of_isPercent {x : Binary64} (h : x.IsPercent) : x.unitsAbs ≤ 100 * one := by
  obtain ⟨-, hlow, hhigh⟩ := h
  rw [units_eq_unitsAbs hlow] at hhigh
  exact_mod_cast hhigh

def thousandths (k : Nat) : Binary64 := (ofInt k).div (tenTo 3)

theorem thousandths_error {k : Nat} (hk : k ≤ totalBuckets) :
    2 * leadingBit * (k * one) ≤ 2 * leadingBit * (1000 * (thousandths k).unitsAbs) + k * one ∧
      2 * leadingBit * (1000 * (thousandths k).unitsAbs) ≤ 2 * leadingBit * (k * one) + k * one := by
  have hwhole : (ofInt k).unitsAbs = k * one :=
    unitsAbs_ofInt (Nat.lt_of_le_of_lt hk (by decide))
  have hten : (tenTo 3).unitsAbs = 1000 * one := unitsAbs_ofInt (by decide)
  unfold thousandths div
  rw [hwhole, hten]
  rcases Nat.eq_zero_or_pos k with rfl | hpos
  · simp only [Nat.zero_mul, unitsAbs_nearest_zero]
    omega
  · have hdiv : k * one * one / (1000 * one) = k * one / 1000 := Nat.mul_div_mul_right _ _ Binary64.one_pos
    have hlow : 52 ≤ Nat.log2 (k * one / 1000) := by
      have hmany : 2 ^ 52 * 1000 ≤ one := by decide +kernel
      have hle : 2 ^ 52 ≤ k * one / 1000 := by
        rw [Nat.le_div_iff_mul_le (by decide)]
        exact Nat.le_trans hmany (Nat.le_mul_of_pos_left one hpos)
      have hne : k * one / 1000 ≠ 0 := by
        intro hzero
        rw [hzero] at hle
        omega
      exact (Nat.le_log2 hne).2 hle
    have hhigh : Nat.log2 (k * one / 1000) < 2097 := by
      have hbound : Nat.log2 (k * one / 1000) < 17 + 1074 :=
        log2_lt_of_le_mul_one (Nat.div_le_self _ _) (Nat.lt_of_le_of_lt hk (by decide))
      omega
    rw [← hdiv] at hlow hhigh
    obtain ⟨hover, hunder⟩ := unitsAbs_nearest_error
      ((ofInt k).isNegative != (tenTo 3).isNegative) (Nat.mul_pos (by decide) Binary64.one_pos) hlow hhigh
    generalize (ofMagnitude _ (nearestMagnitude (k * one * one) (1000 * one))).unitsAbs = units at *
    constructor
    · refine Nat.le_of_mul_le_mul_right ?_ Binary64.one_pos
      calc 2 * leadingBit * (k * one) * one = 2 * leadingBit * (k * one * one) := by ring
        _ ≤ 2 * leadingBit * (units * (1000 * one)) + k * one * one := hover
        _ = (2 * leadingBit * (1000 * units) + k * one) * one := by ring
    · refine Nat.le_of_mul_le_mul_right ?_ Binary64.one_pos
      calc 2 * leadingBit * (1000 * units) * one = 2 * leadingBit * (units * (1000 * one)) := by ring
        _ ≤ 2 * leadingBit * (k * one * one) + k * one * one := hunder
        _ = (2 * leadingBit * (k * one) + k * one) * one := by ring

end Binary64

open Binary64

/-- Rounding a percent to buckets loses less than half a bucket. -/
theorem lt_of_bucketsOf? {percent : Binary64} {buckets : Nat}
    (h : bucketsOf? percent = some buckets) :
    2000 * percent.unitsAbs < (2 * buckets + 1) * one := by
  obtain ⟨hpercent, hround⟩ := bucketsOf?_eq_some.1 h
  have hle := unitsAbs_le_of_isPercent hpercent
  by_contra hlost
  rw [Nat.not_lt] at hlost
  have hdigits : 2 * buckets + 1 ≤ 200000 :=
    Nat.le_of_mul_le_mul_right (Nat.le_trans hlost (by omega)) Binary64.one_pos
  have hhalves := two_mul_halves (2 * buckets + 1)
  -- Half a bucket more is a number of few digits, so the product does not round below it.
  have hkeeps : (2 * buckets + 1) <<< 1073 ≤ (percent.scale bucketsPerPercent).unitsAbs := by
    refine le_unitsAbs_scale ?_ (Nat.le_trans hdigits (by decide)) (by rw [bucketsPerPercent]; omega)
    refine Nat.lt_trans (log2_lt_of_le_mul_one (n := totalBuckets) ?_ (by decide : _ < 1 <<< 17))
      (by decide)
    rw [totalBuckets, bucketsPerPercent]
    omega
  have hmore : buckets + 1 ≤ (percent.scale bucketsPerPercent).roundHalfUp := by
    refine le_roundHalfUp ?_
    have hsplit : 2 * (buckets + 1) * one = (2 * buckets + 1) * one + one := by ring
    omega
  omega

theorem le_buckets_of_thousandths {k buckets : Nat} (hk : k ≤ totalBuckets)
    (h : bucketsOf? (thousandths k) = some buckets) : k ≤ buckets := by
  have hlost := lt_of_bucketsOf? h
  have hover := (thousandths_error hk).1
  by_contra hless
  have hstep : 2 * ((buckets + 1) * one) ≤ 2 * (k * one) :=
    Nat.mul_le_mul_left 2 (Nat.mul_le_mul_right one (by omega))
  have hbound : k * one ≤ 100000 * one := Nat.mul_le_mul_right one hk
  have hone := Binary64.one_pos
  have hsplit : (2 * buckets + 1) * one + one = 2 * ((buckets + 1) * one) := by ring
  unfold leadingBit at hover
  omega

theorem le_of_thousandths {k buckets : Nat} (hk : k ≤ totalBuckets)
    (h : bucketsOf? (thousandths k) = some buckets) :
    2 * leadingBit * 1000 * (thousandths k).unitsAbs ≤ (2 * leadingBit + 1) * one * buckets :=
  calc 2 * leadingBit * 1000 * (thousandths k).unitsAbs
      = 2 * leadingBit * (1000 * (thousandths k).unitsAbs) := Nat.mul_assoc _ _ _
    _ ≤ 2 * leadingBit * (k * one) + k * one := (thousandths_error hk).2
    _ = (2 * leadingBit + 1) * one * k := by ring
    _ ≤ (2 * leadingBit + 1) * one * buckets :=
      Nat.mul_le_mul_left _ (le_buckets_of_thousandths hk h)

namespace Table

section

variable {shares : List (Variant × Binary64)} {widths : List Nat}

theorem sum_units_le {a b c d : Nat}
    (h : List.Forall₂ (fun share width => a * share.2.unitsAbs + c ≤ b * width + d) shares widths) :
    a * (shares.map (·.2.unitsAbs)).sum + shares.length * c ≤
      b * widths.sum + shares.length * d := by
  induction h with
  | nil => simp
  | cons hentry _ ih =>
    simp only [List.map_cons, List.sum_cons, List.length_cons, Nat.mul_add, Nat.add_mul]
    omega

variable (hwidths : List.Forall₂ (fun share width => bucketsOf? share.2 = some width) shares widths)
include hwidths

theorem sum_units_eq :
    (shares.map (·.2.units)).sum = ((shares.map (·.2.unitsAbs)).sum : Nat) := by
  induction hwidths with
  | nil => rfl
  | cons hentry _ ih =>
    have hpercent := (bucketsOf?_eq_some.1 hentry).1
    simp only [List.map_cons, List.sum_cons, ih, units_eq_unitsAbs hpercent.2.1]
    omega

variable (hcomplete : (shares.map (·.2.units)).sum = 100 * Binary64.one)
include hcomplete

theorem sum_unitsAbs_of_complete : (shares.map (·.2.unitsAbs)).sum = 100 * one := by
  rw [sum_units_eq hwidths] at hcomplete
  exact_mod_cast hcomplete

/-- Together the widths fall short by less than half a bucket for each entry. -/
theorem lt_sum_of_complete : 2 * totalBuckets < 2 * widths.sum + shares.length := by
  have hentries := sum_units_le (a := 2000) (b := 2 * one) (c := 1) (d := one)
    (hwidths.imp fun share width h => by
      have hlost := lt_of_bucketsOf? h
      have hsplit : (2 * width + 1) * one = 2 * one * width + one := by ring
      omega)
  have hone := Binary64.one_pos
  rw [sum_unitsAbs_of_complete hwidths hcomplete] at hentries
  by_contra hshort
  have hle : (2 * widths.sum + shares.length) * one ≤ 2 * totalBuckets * one :=
    Nat.mul_le_mul_right one (Nat.not_lt.1 hshort)
  have hsplit : (2 * widths.sum + shares.length) * one =
      2 * one * widths.sum + shares.length * one := by ring
  have htotal : 2 * totalBuckets * one = 2000 * (100 * one) := by
    rw [totalBuckets, bucketsPerPercent]; ring
  have hnone : shares = [] := List.length_eq_zero_iff.1 (by omega)
  subst hnone
  simp only [List.map_nil, List.sum_nil] at hcomplete
  omega

theorem le_sum_of_thousandths
    (hdecimals : ∀ share ∈ shares, ∃ k, k ≤ totalBuckets ∧ share.2 = thousandths k) :
    totalBuckets ≤ widths.sum := by
  have hentries := sum_units_le (a := 2 * leadingBit * 1000) (b := (2 * leadingBit + 1) * one)
    (c := 0) (d := 0) (((List.forall₂_and_left _ _).2 ⟨hdecimals, hwidths⟩).imp (by
      rintro ⟨variant, percent⟩ width ⟨⟨k, hk, heq⟩, h⟩
      subst heq
      rw [Nat.add_zero, Nat.add_zero]
      exact le_of_thousandths hk h))
  rw [sum_unitsAbs_of_complete hwidths hcomplete, Nat.mul_zero, Nat.add_zero, Nat.add_zero]
    at hentries
  have hscaled : 2 * leadingBit * totalBuckets ≤ (2 * leadingBit + 1) * widths.sum := by
    refine Nat.le_of_mul_le_mul_right ?_ Binary64.one_pos
    calc 2 * leadingBit * totalBuckets * one = 2 * leadingBit * 1000 * (100 * one) := by
          rw [totalBuckets, bucketsPerPercent]; ring
      _ ≤ (2 * leadingBit + 1) * one * widths.sum := hentries
      _ = (2 * leadingBit + 1) * widths.sum * one := by ring
  unfold leadingBit totalBuckets bucketsPerPercent at *
  omega

end

/-- Where the percents add up to a hundred, every sample leads to a variant but for the last ones: of
`n` entries at most `(n - 1) / 2` samples are lost, so of two entries none. Nor is any lost if every
percent has no more than three decimals. -/
theorem complete_split_covers {segmentId : UInt64} {shares : List (Variant × Binary64)}
    {table : Table} (h : ofPercents segmentId shares = .ok table)
    (hcomplete : (shares.map (·.2.units)).sum = 100 * Binary64.one) :
    (∀ sample, sample + (shares.length - 1) / 2 < totalBuckets →
      ∃ variant, table.lookup sample = some variant) ∧
    ((∀ share ∈ shares, ∃ k, k ≤ totalBuckets ∧ share.2 = thousandths k) →
      ∀ sample, sample < totalBuckets → ∃ variant, table.lookup sample = some variant) := by
  obtain ⟨widths, hwidths, rfl⟩ := ofPercents_eq_ok.1 h
  have hsize : (shares.map (·.1)).length = widths.length := by
    rw [List.length_map, hwidths.length_eq]
  have hcovered : ∀ sample, sample < totalBuckets → sample < widths.sum →
      ∃ variant, (ofWidths widths (shares.map (·.1))).lookup sample = some variant := by
    intro sample hsample hreached
    have hbelow : sample < maxBoundary := Nat.lt_trans hsample (by decide)
    rw [← Option.isSome_iff_exists, ← Option.ne_none_iff_isSome, ne_eq,
      lookup_eq_none_iff hsize hbelow]
    omega
  constructor
  · intro sample hsample
    have hlost := lt_sum_of_complete hwidths hcomplete
    exact hcovered sample (by omega) (by omega)
  · intro hdecimals sample hsample
    have hreached := le_sum_of_thousandths hwidths hcomplete hdecimals
    exact hcovered sample hsample (by omega)

def thirds : List (Variant × Binary64) := [
  (⟨1, "a", none⟩, ⟨0x4040aa9fbe76c8b4⟩),
  (⟨2, "b", none⟩, ⟨0x4040aa9fbe76c8b4⟩),
  (⟨3, "c", none⟩, ⟨0x4040aac083126e98⟩)]

theorem complete_split_covers_thirds : ∃ table, ofPercents 1 thirds = .ok table ∧
    (thirds.map (·.2.units)).sum = 100 * Binary64.one ∧
    (∀ share ∈ thirds, ∃ k, k ≤ totalBuckets ∧ share.2 = thousandths k) ∧
    ∀ sample, sample < totalBuckets → ∃ variant, table.lookup sample = some variant := by
  have htable : ofPercents 1 thirds =
      .ok ⟨#[33333, 66666, 100000], (thirds.map (·.1)).toArray⟩ := by decide +kernel
  have hcomplete : (thirds.map (·.2.units)).sum = 100 * Binary64.one := by decide +kernel
  have hthird : (⟨0x4040aa9fbe76c8b4⟩ : Binary64) = thousandths 33333 := by decide +kernel
  have hlast : (⟨0x4040aac083126e98⟩ : Binary64) = thousandths 33334 := by decide +kernel
  have hdecimals : ∀ share ∈ thirds, ∃ k, k ≤ totalBuckets ∧ share.2 = thousandths k := by
    intro share hshare
    simp only [thirds, List.mem_cons, List.not_mem_nil, or_false] at hshare
    rcases hshare with rfl | rfl | rfl
    · exact ⟨33333, by decide, hthird⟩
    · exact ⟨33333, by decide, hthird⟩
    · exact ⟨33334, by decide, hlast⟩
  exact ⟨_, htable, hcomplete, hdecimals, (complete_split_covers htable hcomplete).2 hdecimals⟩

def shortSplit : List (Variant × Binary64) := [
  (⟨1, "a", none⟩, ⟨0x3fbc000000000000⟩),
  (⟨2, "b", none⟩, ⟨0x3fbc000000000000⟩),
  (⟨3, "c", none⟩, ⟨0x4058f20000000000⟩)]

/-- A complete split may leave out the last sample. -/
theorem complete_split_leaves_out_last :
    ¬ ∀ (segmentId : UInt64) (shares : List (Variant × Binary64)) (table : Table),
      shares ≠ [] → ofPercents segmentId shares = .ok table →
      (shares.map (·.2.units)).sum = 100 * Binary64.one →
      ∀ sample, sample < totalBuckets → ∃ variant, table.lookup sample = some variant := by
  intro hclaim
  have htable : ofPercents 1 shortSplit =
      .ok ⟨#[109, 218, 99999], (shortSplit.map (·.1)).toArray⟩ := by decide +kernel
  obtain ⟨variant, hfound⟩ := hclaim 1 shortSplit _ (by decide) htable (by decide +kernel) 99999
    (by decide)
  have hmissed : (⟨#[109, 218, 99999], (shortSplit.map (·.1)).toArray⟩ : Table).lookup 99999 = none := by
    decide +kernel
  rw [hmissed] at hfound
  cases hfound

end Table

end FeatureFlags
