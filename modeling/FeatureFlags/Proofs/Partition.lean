import Mathlib.Algebra.Order.BigOperators.Group.List
import Mathlib.Algebra.Order.Ring.Nat
import FeatureFlags.Proofs.Lookup

/-! # Every sample belongs to one entry

The widths of a table, laid one after the other, divide up the samples. Boundaries are cut off at a
largest number, but no sample below that number is affected by it. -/

namespace FeatureFlags

namespace Table

def reach (widths : List Nat) (i : Nat) : Nat := (widths.take i).sum

/-- The sample lies within the width at the position, where widths are laid one after the other. -/
def Claims (widths : List Nat) (i sample : Nat) : Prop :=
  reach widths i ≤ sample ∧ sample < reach widths (i + 1)

def scan (table : Table) (sample : Nat) : Option Variant :=
  ((table.boundaries.toList.zip table.variants.toList).find? fun entry =>
    decide (sample < entry.1)).map (·.2)

def ofWidths (widths : List Nat) (variants : List Variant) : Table :=
  ⟨(sums 0 widths).toArray, variants.toArray⟩

/-- The same table with boundaries that are not cut off anywhere. -/
def uncut (widths : List Nat) (variants : List Variant) : Table :=
  ⟨((List.range widths.length).map fun i => reach widths (i + 1)).toArray, variants.toArray⟩

theorem reach_mono (widths : List Nat) {i j : Nat} (h : i ≤ j) : reach widths i ≤ reach widths j :=
  List.monotone_sum_take widths h

theorem reach_of_length_le {widths : List Nat} {i : Nat} (h : widths.length ≤ i) :
    reach widths i = widths.sum := by
  rw [reach, List.take_of_length_le h]

theorem reach_succ {widths : List Nat} {i width : Nat} (h : widths[i]? = some width) :
    reach widths (i + 1) = reach widths i + width := by
  obtain ⟨hi, rfl⟩ := List.getElem?_eq_some_iff.1 h
  exact List.sum_take_succ widths i hi

theorem getElem?_sums {widths : List Nat} {total i : Nat} (htotal : total ≤ maxBoundary)
    (hi : i < widths.length) :
    (sums total widths)[i]? = some (min (total + reach widths (i + 1)) maxBoundary) := by
  induction widths generalizing total i with
  | nil => cases hi
  | cons width rest ih =>
    rw [sums]
    cases i with
    | zero => simp [reach]
    | succ i =>
      have hcons : reach (width :: rest) (i + 1 + 1) = width + reach rest (i + 1) := by
        simp [reach]
      have hcut : min (min (total + width) maxBoundary + reach rest (i + 1)) maxBoundary =
          min (total + (width + reach rest (i + 1))) maxBoundary := by omega
      rw [List.getElem?_cons_succ, ih (Nat.min_le_right _ _) (Nat.lt_of_succ_lt_succ hi), hcons, hcut]

namespace Claims

variable {widths : List Nat} {i j sample : Nat}

theorem lt_length (h : Claims widths i sample) : i < widths.length := by
  by_contra hi
  obtain ⟨hlow, hhigh⟩ := h
  rw [reach_of_length_le (by omega)] at hlow hhigh
  omega

theorem unique (hi : Claims widths i sample) (hj : Claims widths j sample) : i = j := by
  rcases Nat.lt_trichotomy i j with hlt | heq | hgt
  · have := reach_mono widths (show i + 1 ≤ j from hlt)
    have := hi.2
    have := hj.1
    omega
  · exact heq
  · have := reach_mono widths (show j + 1 ≤ i from hgt)
    have := hj.2
    have := hi.1
    omega

end Claims

/-- The search ends at the one place that has no boundary above the sample before it, and none up to
the sample behind it. -/
theorem Regular.position_eq {table : Table} (hr : table.Regular) {sample place : Nat}
    (hplace : place ≤ table.boundaries.size)
    (hbelow : ∀ i boundary : Nat, i < place → table.boundaries[i]? = some boundary →
      boundary ≤ sample)
    (habove : ∀ i boundary : Nat, place ≤ i → table.boundaries[i]? = some boundary →
      sample < boundary) : table.position sample = place := by
  obtain ⟨hle, hlow, hhigh⟩ := position_spec hr sample
  rcases Nat.lt_trichotomy (table.position sample) place with hlt | heq | hgt
  · have hget := Array.getElem?_eq_getElem (Nat.lt_of_lt_of_le hlt hplace)
    have := hbelow _ _ hlt hget
    have := hhigh _ _ (Nat.le_refl _) hget
    omega
  · exact heq
  · have hget := Array.getElem?_eq_getElem (Nat.lt_of_lt_of_le hgt hle)
    have := hlow _ _ hgt hget
    have := habove _ _ (Nat.le_refl _) hget
    omega

theorem Regular.lookup_eq_scan {table : Table} (hr : table.Regular) (sample : Nat) :
    table.lookup sample = table.scan sample := by
  have hentries : ∀ {i : Nat} {entry : Nat × Variant},
      (table.boundaries.toList.zip table.variants.toList)[i]? = some entry ↔
        table.boundaries[i]? = some entry.1 ∧ table.variants[i]? = some entry.2 := by
    intro i entry
    rw [List.getElem?_zip_eq_some, Array.getElem?_toList, Array.getElem?_toList]
  refine Option.ext fun variant => ?_
  rw [lookup_eq_some_iff hr, scan, Option.map_eq_some_iff]
  constructor
  · rintro ⟨i, boundary, hboundary, hsample, hfirst, hvariant⟩
    obtain ⟨hi, hget⟩ := List.getElem?_eq_some_iff.1
      (hentries.2 ⟨hboundary, hvariant⟩ : _ = some (boundary, variant))
    refine ⟨(boundary, variant), ?_, rfl⟩
    refine List.find?_eq_some_iff_getElem.2 ⟨decide_eq_true hsample, i, hi, hget, ?_⟩
    intro j hj
    have hearlier := hentries.1 (List.getElem?_eq_getElem (Nat.lt_trans hj hi))
    have := hfirst j _ hj hearlier.1
    simpa using this
  · rintro ⟨⟨boundary, _⟩, hfind, rfl⟩
    obtain ⟨hsample, i, hi, hget, hfirst⟩ := List.find?_eq_some_iff_getElem.1 hfind
    obtain ⟨hboundary, hvariant⟩ := hentries.1 (List.getElem?_eq_some_iff.2 ⟨hi, hget⟩)
    refine ⟨i, boundary, hboundary, of_decide_eq_true hsample, ?_, hvariant⟩
    intro j earlier hj hearlier
    have hjlt : j < (table.boundaries.toList.zip table.variants.toList).length :=
      Nat.lt_trans hj hi
    have hentry := hentries.1 (List.getElem?_eq_getElem hjlt)
    rw [hearlier] at hentry
    have hnot := hfirst j hj
    rw [← Option.some.inj hentry.1] at hnot
    simpa using hnot

section

variable {widths : List Nat} {variants : List Variant} {i boundary sample : Nat}

theorem boundary_ofWidths : (ofWidths widths variants).boundaries[i]? = some boundary ↔
    i < widths.length ∧ boundary = min (reach widths (i + 1)) maxBoundary := by
  rw [ofWidths, List.getElem?_toArray]
  by_cases hi : i < widths.length
  · rw [getElem?_sums (Nat.zero_le _) hi, Nat.zero_add, Option.some.injEq, eq_comm]
    simp [hi]
  · rw [List.getElem?_eq_none (by rw [length_sums]; omega)]
    simp [hi]

theorem boundary_uncut : (uncut widths variants).boundaries[i]? = some boundary ↔
    i < widths.length ∧ boundary = reach widths (i + 1) := by
  rw [uncut, List.getElem?_toArray, List.getElem?_map]
  by_cases hi : i < widths.length
  · rw [List.getElem?_range hi, Option.map_some, Option.some.injEq, eq_comm]
    simp [hi]
  · simp [hi]

variable (hsize : variants.length = widths.length)
include hsize

theorem regular_ofWidths : (ofWidths widths variants).Regular := regular_sums hsize

theorem regular_uncut : (uncut widths variants).Regular := by
  constructor
  · simp [uncut, hsize]
  · intro i j a b hij ha hb
    rw [(boundary_uncut.1 ha).2, (boundary_uncut.1 hb).2]
    exact reach_mono widths (Nat.succ_le_succ hij)

theorem lookup_uncut (hsample : sample < maxBoundary) :
    (ofWidths widths variants).lookup sample = (uncut widths variants).lookup sample := by
  obtain ⟨hle, hbelow, habove⟩ := position_spec (regular_ofWidths hsize) sample
  have hposition : (uncut widths variants).position sample =
      (ofWidths widths variants).position sample := by
    refine (regular_uncut hsize).position_eq ?_ ?_ ?_
    · simpa [uncut, ofWidths, length_sums] using hle
    · intro i boundary hi hget
      obtain ⟨hlt, rfl⟩ := boundary_uncut.1 hget
      have := hbelow i _ hi (boundary_ofWidths.2 ⟨hlt, rfl⟩)
      omega
    · intro i boundary hi hget
      obtain ⟨hlt, rfl⟩ := boundary_uncut.1 hget
      have := habove i _ hi (boundary_ofWidths.2 ⟨hlt, rfl⟩)
      omega
  rw [lookup, lookup, hposition]
  rfl

theorem claims_iff (hsample : sample < maxBoundary) :
    Claims widths i sample ↔
      i < widths.length ∧ (ofWidths widths variants).position sample = i := by
  obtain ⟨hle, hbelow, habove⟩ := position_spec (regular_ofWidths hsize) sample
  constructor
  · intro h
    refine ⟨h.lt_length, (regular_ofWidths hsize).position_eq ?_ ?_ ?_⟩
    · have := h.lt_length
      simp only [ofWidths, List.size_toArray, length_sums]
      omega
    · intro j boundary hj hget
      obtain ⟨hlt, rfl⟩ := boundary_ofWidths.1 hget
      have := reach_mono widths (show j + 1 ≤ i from hj)
      have := h.1
      omega
    · intro j boundary hj hget
      obtain ⟨hlt, rfl⟩ := boundary_ofWidths.1 hget
      have := reach_mono widths (show i + 1 ≤ j + 1 by omega)
      have := h.2
      omega
  · rintro ⟨hi, rfl⟩
    have hown := habove _ _ (Nat.le_refl _) (boundary_ofWidths.2 ⟨hi, rfl⟩)
    refine ⟨?_, Nat.lt_of_lt_of_le hown (Nat.min_le_left _ _)⟩
    -- The boundary before this entry is not above the sample, so it is not cut off.
    cases hplace : (ofWidths widths variants).position sample with
    | zero => exact Nat.zero_le _
    | succ before =>
      have hbefore : before < widths.length := by omega
      have := hbelow before _ (by omega) (boundary_ofWidths.2 ⟨hbefore, rfl⟩)
      omega

theorem lookup_of_claims (hsample : sample < maxBoundary) (h : Claims widths i sample) :
    (ofWidths widths variants).lookup sample = variants[i]? := by
  obtain ⟨-, hplace⟩ := (claims_iff hsize hsample).1 h
  rw [lookup, hplace, ofWidths, List.getElem?_toArray]

theorem lookup_eq_none_iff (hsample : sample < maxBoundary) :
    (ofWidths widths variants).lookup sample = none ↔ widths.sum ≤ sample := by
  rw [lookup_uncut hsize hsample, ← Option.not_isSome_iff_eq_none, Option.isSome_iff_exists,
    ← covers_iff (regular_uncut hsize), ← Nat.not_lt]
  refine not_congr ⟨?_, ?_⟩
  · rintro ⟨boundary, hmem, hlt⟩
    obtain ⟨i, hget⟩ := Array.getElem?_of_mem hmem
    obtain ⟨hi, rfl⟩ := boundary_uncut.1 hget
    calc sample < reach widths (i + 1) := hlt
      _ ≤ reach widths widths.length := reach_mono widths hi
      _ = widths.sum := reach_of_length_le (Nat.le_refl _)
  · intro hlt
    have hne : widths.length ≠ 0 := by
      intro hzero
      rw [List.length_eq_zero_iff.1 hzero] at hlt
      simp at hlt
    have hlast : widths.length - 1 + 1 = widths.length := by omega
    refine ⟨reach widths widths.length, Array.mem_of_getElem? (i := widths.length - 1)
      (boundary_uncut.2 ⟨by omega, by rw [hlast]⟩), ?_⟩
    rw [reach_of_length_le (Nat.le_refl _)]
    exact hlt

theorem position_ne_of_empty (hempty : widths[i]? = some 0) (sample : Nat) :
    (ofWidths widths variants).position sample ≠ i := by
  obtain ⟨hi, -⟩ := List.getElem?_eq_some_iff.1 hempty
  intro hplace
  by_cases hsample : sample < maxBoundary
  · have hclaims := (claims_iff hsize hsample).2 ⟨hi, hplace⟩
    have := reach_succ hempty
    have := hclaims.1
    have := hclaims.2
    omega
  · obtain ⟨-, -, habove⟩ := position_spec (regular_ofWidths hsize) sample
    have := habove i _ (Nat.le_of_eq hplace) (boundary_ofWidths.2 ⟨hi, rfl⟩)
    omega

end

structure Partitions (table : Table) (shares : List (Variant × Binary64)) (widths : List Nat) :
    Prop where
  measured : List.Forall₂ (fun share width => bucketsOf? share.2 = some width) shares widths
  variants : table.variants.toList = shares.map (·.1)
  size : table.boundaries.size = table.variants.size
  increasing : table.boundaries.toList.Pairwise (· ≤ ·)
  /-- The search finds what going from left to right finds, for every sample. -/
  scanned : ∀ sample, table.lookup sample = table.scan sample
  /-- Below the largest boundary it ends at the one entry that claims the sample. -/
  claimed : ∀ i sample, sample < maxBoundary →
    (Claims widths i sample ↔ i < shares.length ∧ table.position sample = i)
  found : ∀ i sample, sample < maxBoundary → Claims widths i sample →
    ∃ share, shares[i]? = some share ∧ table.lookup sample = some share.1
  missed : ∀ sample, sample < maxBoundary → (table.lookup sample = none ↔ widths.sum ≤ sample)
  disjoint : ∀ i j sample, Claims widths i sample → Claims widths j sample → i = j
  /-- Cutting boundaries off makes no difference to any of the samples that are drawn. -/
  unaffected : totalBuckets ≤ maxBoundary ∧ ∀ sample, sample < maxBoundary →
    table.lookup sample = (uncut widths (shares.map (·.1))).lookup sample
  empty : ∀ i, widths[i]? = some 0 → ∀ sample, table.position sample ≠ i

/-- Every table shares out the samples: by bisection each is led to the one entry whose widths reach
it, and to none exactly if all widths together do not reach it. -/
theorem shares_out_samples {segmentId : UInt64} {shares : List (Variant × Binary64)} {table : Table}
    (h : ofPercents segmentId shares = .ok table) : ∃ widths, table.Partitions shares widths := by
  obtain ⟨widths, hwidths, rfl⟩ := ofPercents_eq_ok.1 h
  have hlength : shares.length = widths.length := hwidths.length_eq
  have hsize : (shares.map (·.1)).length = widths.length := by rw [List.length_map, hlength]
  have hregular := regular_ofWidths hsize
  refine ⟨widths, ?_⟩
  constructor
  case measured => exact hwidths
  case variants => rfl
  case size => exact hregular.size_eq.symm
  case increasing => exact pairwise_sums 0 widths
  case scanned => exact hregular.lookup_eq_scan
  case claimed =>
    intro i sample hsample
    rw [hlength]
    exact claims_iff hsize hsample
  case found =>
    intro i sample hsample hclaims
    have hi : i < shares.length := hlength ▸ hclaims.lt_length
    refine ⟨shares[i], List.getElem?_eq_getElem hi, ?_⟩
    have hlookup := lookup_of_claims hsize hsample hclaims
    rwa [List.getElem?_map, List.getElem?_eq_getElem hi] at hlookup
  case missed => exact fun sample hsample => lookup_eq_none_iff hsize hsample
  case disjoint => exact fun i j sample hi hj => hi.unique hj
  case unaffected => exact ⟨by decide, fun sample hsample => lookup_uncut hsize hsample⟩
  case empty => exact fun i hempty => position_ne_of_empty hsize hempty

def overfull : List (Variant × Binary64) := [
  (⟨1, "off", none⟩, ⟨0⟩),
  (⟨2, "small", none⟩, ⟨0x404e000000000000⟩),
  (⟨3, "large", none⟩, ⟨0x404e000000000000⟩)]

theorem shares_out_samples_overfull : ∃ table, ofPercents 4 overfull = .ok table ∧
    table.boundaries = #[0, 60000, 120000] ∧ ∃ widths, table.Partitions overfull widths := by
  have h : ofPercents 4 overfull =
      .ok ⟨#[0, 60000, 120000], (overfull.map (·.1)).toArray⟩ := by decide +kernel
  exact ⟨_, h, rfl, shares_out_samples h⟩

end Table

end FeatureFlags
