import FeatureFlags.Proofs.Preparation

/-! # Looking up a sample in a table

A table is searched by bisection. Boundaries of a prepared table never decrease, so what is found
is the first boundary above the sample. -/

namespace FeatureFlags

namespace Table

/-- Bisection ends where the test turns false, if it never turns true again. -/
theorem partitionPoint_spec (test : Nat → Bool) (start stop : Nat) (hle : start ≤ stop)
    (htest : ∀ i j, i ≤ j → j < stop → test j = true → test i = true) :
    start ≤ partitionPoint test start stop ∧ partitionPoint test start stop ≤ stop ∧
    (∀ i, start ≤ i → i < partitionPoint test start stop → test i = true) ∧
    (∀ i, partitionPoint test start stop ≤ i → i < stop → test i = false) := by
  fun_induction partitionPoint test start stop with
  | case1 start stop hlt middle hm ih =>
    have hms : middle < stop := by omega
    obtain ⟨hlow, hhigh, hbelow, habove⟩ := ih (by omega) htest
    refine ⟨by omega, hhigh, ?_, habove⟩
    intro i hi hk
    by_cases hmi : i ≤ middle
    · exact htest i middle hmi hms hm
    · exact hbelow i (by omega) hk
  | case2 start stop hlt middle hm ih =>
    have hms : middle < stop := by omega
    obtain ⟨hlow, hhigh, hbelow, habove⟩ :=
      ih (by omega) fun i j hij hj => htest i j hij (by omega)
    refine ⟨hlow, by omega, hbelow, ?_⟩
    intro i hi hs
    by_cases hmi : i < middle
    · exact habove i hi hmi
    · rw [← Bool.not_eq_true]
      exact fun ht => hm (htest middle i (by omega) hs ht)
  | case3 start stop hge =>
    exact ⟨Nat.le_refl _, hle, fun i _ _ => by omega, fun i _ _ => by omega⟩

/-- Every boundary closes one variant, and boundaries never decrease. -/
structure Regular (table : Table) : Prop where
  size_eq : table.variants.size = table.boundaries.size
  mono : ∀ (i j a b : Nat), i ≤ j → table.boundaries[i]? = some a →
    table.boundaries[j]? = some b → a ≤ b

def Covers (table : Table) (sample : Nat) : Prop :=
  ∃ boundary ∈ table.boundaries, sample < boundary

def Selects (table : Table) (sample : Nat) (variant : Variant) : Prop :=
  ∃ i boundary : Nat, table.boundaries[i]? = some boundary ∧ sample < boundary ∧
    (∀ j earlier : Nat, j < i → table.boundaries[j]? = some earlier → earlier ≤ sample) ∧
    table.variants[i]? = some variant

theorem length_sums (total : Nat) (widths : List Nat) : (sums total widths).length = widths.length := by
  induction widths generalizing total with
  | nil => rfl
  | cons width rest ih => simp [sums, ih]

theorem le_of_mem_sums {total boundary : Nat} {widths : List Nat} (htotal : total ≤ maxBoundary)
    (h : boundary ∈ sums total widths) : total ≤ boundary := by
  induction widths generalizing total with
  | nil => cases h
  | cons width rest ih =>
    have hnext : total ≤ min (total + width) maxBoundary := by omega
    rcases List.mem_cons.1 h with rfl | h
    · exact hnext
    · exact Nat.le_trans hnext (ih (Nat.min_le_right _ _) h)

theorem pairwise_sums (total : Nat) (widths : List Nat) : (sums total widths).Pairwise (· ≤ ·) := by
  induction widths generalizing total with
  | nil => exact .nil
  | cons width rest ih =>
    exact List.pairwise_cons.2 ⟨fun b hb => le_of_mem_sums (Nat.min_le_right _ _) hb, ih _⟩

theorem regular_sums {widths : List Nat} {variants : List Variant}
    (h : variants.length = widths.length) :
    (⟨(sums 0 widths).toArray, variants.toArray⟩ : Table).Regular := by
  constructor
  · simp only [List.size_toArray, length_sums]
    exact h
  · intro i j a b hij ha hb
    rw [List.getElem?_toArray] at ha hb
    obtain ⟨hi, rfl⟩ := List.getElem?_eq_some_iff.1 ha
    obtain ⟨hj, rfl⟩ := List.getElem?_eq_some_iff.1 hb
    rcases Nat.lt_or_eq_of_le hij with hlt | rfl
    · exact List.pairwise_iff_getElem.1 (pairwise_sums 0 widths) i j hi hj hlt
    · exact Nat.le_refl _

theorem regular_of_compile {variant? : UInt64 → Option Variant} {segment : SegmentDefinition}
    {table : Table} (h : compile variant? segment = .ok table) : table.Regular := by
  obtain ⟨variants, widths, hv, hw, rfl⟩ := compile_eq_ok.1 h
  exact regular_sums (hv.length_eq.symm.trans hw.length_eq)

section

variable {table : Table} (hr : table.Regular) (sample : Nat)
include hr

theorem position_spec :
    table.position sample ≤ table.boundaries.size ∧
    (∀ i boundary : Nat, i < table.position sample → table.boundaries[i]? = some boundary →
      boundary ≤ sample) ∧
    (∀ i boundary : Nat, table.position sample ≤ i → table.boundaries[i]? = some boundary →
      sample < boundary) := by
  have hget : ∀ i boundary : Nat, table.boundaries[i]? = some boundary →
      table.boundaries.getD i 0 = boundary := by
    intro i boundary h
    rw [Array.getD_eq_getD_getElem?, h, Option.getD_some]
  obtain ⟨-, hle, hbelow, habove⟩ := partitionPoint_spec
    (fun i => decide (table.boundaries.getD i 0 ≤ sample)) 0 table.boundaries.size
    (Nat.zero_le _) (by
      intro i j hij hj h
      have hi : i < table.boundaries.size := by omega
      have hmono := hr.mono i j _ _ hij (Array.getElem?_eq_getElem hi)
        (Array.getElem?_eq_getElem hj)
      rw [decide_eq_true_eq] at h ⊢
      rw [hget _ _ (Array.getElem?_eq_getElem hj)] at h
      rw [hget _ _ (Array.getElem?_eq_getElem hi)]
      omega)
  refine ⟨hle, ?_, ?_⟩
  · intro i boundary hi hb
    have h := hbelow i (Nat.zero_le _) hi
    rwa [hget i boundary hb, decide_eq_true_eq] at h
  · intro i boundary hi hb
    have h := habove i hi (Array.getElem?_eq_some_iff.1 hb).1
    rw [hget i boundary hb, decide_eq_false_iff_not] at h
    omega

theorem lookup_eq_some_iff {variant : Variant} :
    table.lookup sample = some variant ↔ table.Selects sample variant := by
  obtain ⟨hle, hbelow, habove⟩ := position_spec hr sample
  constructor
  · intro h
    have hlt : table.position sample < table.boundaries.size := by
      rw [← hr.size_eq]
      exact (Array.getElem?_eq_some_iff.1 h).1
    have hb := Array.getElem?_eq_getElem hlt
    exact ⟨_, _, hb, habove _ _ (Nat.le_refl _) hb, fun j earlier hj he => hbelow j earlier hj he, h⟩
  · rintro ⟨i, boundary, hb, hs, hfirst, hv⟩
    have hi : i = table.position sample := by
      rcases Nat.lt_trichotomy i (table.position sample) with hlt | heq | hgt
      · have := hbelow i boundary hlt hb
        omega
      · exact heq
      · have hp : table.position sample < table.boundaries.size :=
          Nat.lt_trans hgt (Array.getElem?_eq_some_iff.1 hb).1
        have hq := Array.getElem?_eq_getElem hp
        have := hfirst _ _ hgt hq
        have := habove _ _ (Nat.le_refl _) hq
        omega
    rw [lookup, ← hi]
    exact hv

theorem covers_iff : table.Covers sample ↔ ∃ variant, table.lookup sample = some variant := by
  obtain ⟨hle, hbelow, habove⟩ := position_spec hr sample
  constructor
  · rintro ⟨boundary, hb, hs⟩
    obtain ⟨i, hi⟩ := Array.getElem?_of_mem hb
    have hpos : table.position sample < table.variants.size := by
      have hsize := (Array.getElem?_eq_some_iff.1 hi).1
      rw [hr.size_eq]
      by_contra hn
      have := hbelow i boundary (by omega) hi
      omega
    exact ⟨_, Array.getElem?_eq_getElem hpos⟩
  · rintro ⟨variant, hv⟩
    obtain ⟨i, boundary, hb, hs, -, -⟩ := (lookup_eq_some_iff hr sample).1 hv
    exact ⟨boundary, Array.mem_of_getElem? hb, hs⟩

end

end Table

end FeatureFlags
