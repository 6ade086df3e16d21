import Mathlib.Data.List.Sort
import FeatureFlags.Flag

/-! # The order of evaluation

Segments are put in order by an insertion sort, which is stable. Of the segments that satisfy a
condition, the one with the lowest rank comes first, and of several with that rank the one that is
defined first. -/

namespace FeatureFlags

theorem eq_or_rel_of_find? {α : Type} {r : α → α → Prop} {p : α → Bool} {xs : List α} {a b : α}
    (hsorted : xs.Pairwise r) (ha : xs.find? p = some a) (hb : b ∈ xs) (hp : p b = true) :
    b = a ∨ r a b := by
  obtain ⟨-, before, after, rfl, hbefore⟩ := List.find?_eq_some_iff_append.1 ha
  rw [List.pairwise_append] at hsorted
  rcases List.mem_append.1 hb with hb | hb
  · have hnot := hbefore b hb
    simp [hp] at hnot
  · rcases List.mem_cons.1 hb with rfl | hb
    · exact Or.inl rfl
    · exact Or.inr ((List.pairwise_cons.1 hsorted.2.1).1 b hb)

namespace Segment

theorem insertByRank_eq_orderedInsert (segment : Segment) (segments : List Segment) :
    segment.insertByRank segments =
      segments.orderedInsert (fun a b => a.rank ≤ b.rank) segment := by
  rw [List.orderedInsert_eq_take_drop]
  simp only [insertByRank, UInt32.not_le]

theorem ordered_eq_insertionSort (segments : List Segment) :
    ordered segments = segments.insertionSort fun a b => a.rank ≤ b.rank := by
  induction segments with
  | nil => rfl
  | cons segment rest ih =>
    rw [List.insertionSort_cons, ← ih, ← insertByRank_eq_orderedInsert]
    rfl

theorem ordered_perm (segments : List Segment) : (ordered segments).Perm segments := by
  rw [ordered_eq_insertionSort]
  exact List.perm_insertionSort _ segments

theorem pairwise_ordered (segments : List Segment) :
    (ordered segments).Pairwise fun a b => a.rank ≤ b.rank := by
  have htotal : Std.Total fun a b : Segment => a.rank ≤ b.rank :=
    ⟨fun a b => UInt32.le_total a.rank b.rank⟩
  have htrans : IsTrans Segment fun a b => a.rank ≤ b.rank := ⟨fun _ _ _ => UInt32.le_trans⟩
  rw [ordered_eq_insertionSort]
  exact List.pairwise_insertionSort _ segments

/-- Segments of one rank stay in the order in which they are defined. -/
theorem filter_ordered (rank : UInt32) (segments : List Segment) :
    (ordered segments).filter (·.rank == rank) = segments.filter (·.rank == rank) := by
  -- They are in order by rank as they stand, and sorting keeps every part that is.
  have hsorted : (segments.filter (·.rank == rank)).Pairwise fun a b => a.rank ≤ b.rank := by
    refine List.pairwise_of_forall_mem_list ?_
    intro a ha b hb
    have hranka : a.rank = rank := beq_iff_eq.1 (List.mem_filter.1 ha).2
    have hrankb : b.rank = rank := beq_iff_eq.1 (List.mem_filter.1 hb).2
    exact UInt32.le_of_eq (hranka.trans hrankb.symm)
  have hkept : (segments.filter (·.rank == rank)).Sublist (ordered segments) := by
    rw [ordered_eq_insertionSort]
    exact List.sublist_insertionSort hsorted List.filter_sublist
  have hpart := hkept.filter (·.rank == rank)
  rw [List.filter_filter] at hpart
  simp only [Bool.and_self] at hpart
  exact (hpart.eq_of_length ((ordered_perm segments).filter _).length_eq.symm).symm

theorem rank_le_of_find?_ordered {p : Segment → Bool} {segments : List Segment} {segment : Segment}
    (h : (ordered segments).find? p = some segment) {other : Segment} (hother : other ∈ segments)
    (hp : p other = true) : segment.rank ≤ other.rank := by
  have hmem : other ∈ ordered segments := (ordered_perm segments).mem_iff.2 hother
  rcases eq_or_rel_of_find? (pairwise_ordered segments) h hmem hp with rfl | hle
  · exact UInt32.le_refl _
  · exact hle

theorem find?_rank_of_find?_ordered {p : Segment → Bool} {segments : List Segment}
    {segment : Segment} (h : (ordered segments).find? p = some segment) :
    segments.find? (fun s => s.rank == segment.rank ∧ p s) = some segment := by
  have hfilter : ((ordered segments).filter (·.rank == segment.rank)).find? p = some segment := by
    obtain ⟨hp, before, after, heq, hbefore⟩ := List.find?_eq_some_iff_append.1 h
    refine List.find?_eq_some_iff_append.2 ⟨hp, before.filter (·.rank == segment.rank),
      after.filter (·.rank == segment.rank), ?_, ?_⟩
    · rw [heq, List.filter_append, List.filter_cons_of_pos (by simp)]
    · intro a ha
      exact hbefore a (List.mem_filter.1 ha).1
  rwa [filter_ordered, List.find?_filter] at hfilter

/-- The first one found in evaluation order is the least by rank and position. -/
theorem find?_ordered_eq_some {p : Segment → Bool} {segments : List Segment} {segment : Segment}
    (h : (ordered segments).find? p = some segment) :
    ∃ i, segments[i]? = some segment ∧ p segment = true ∧
      ∀ (j : Nat) (other : Segment), segments[j]? = some other → p other = true → j ≠ i →
        segment.rank < other.rank ∨ segment.rank = other.rank ∧ i < j := by
  obtain ⟨-, i, hi, heq, hfirst⟩ :=
    List.find?_eq_some_iff_getElem.1 (find?_rank_of_find?_ordered h)
  refine ⟨i, List.getElem?_eq_some_iff.2 ⟨hi, heq⟩, (List.find?_eq_some_iff_append.1 h).1, ?_⟩
  intro j other hj hother hne
  obtain ⟨hlt, rfl⟩ := List.getElem?_eq_some_iff.1 hj
  have hle := rank_le_of_find?_ordered h (List.getElem_mem hlt) hother
  by_cases hrank : segment.rank = segments[j].rank
  · refine Or.inr ⟨hrank, ?_⟩
    rcases Nat.lt_or_gt_of_ne hne with hji | hij
    · have := hfirst j hji
      simp [hrank, hother] at this
    · exact hij
  · exact Or.inl (UInt32.lt_of_le_of_ne hle hrank)

theorem find?_ordered_eq_none {p : Segment → Bool} {segments : List Segment} :
    (ordered segments).find? p = none ↔ ∀ segment ∈ segments, p segment = false := by
  simp [List.find?_eq_none, (ordered_perm segments).mem_iff]

end Segment

end FeatureFlags
