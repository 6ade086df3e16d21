import Mathlib.Data.List.Perm.Basic
import FeatureFlags.Proofs.FirstMatch

/-! # The order in which segments are defined

Of the order of the segments in a definition only that of segments with equal ranks counts. There is
one way only to put segments in order by rank and to keep those of a rank in the order in which they
are defined. -/

namespace FeatureFlags

/-- The same segments, of which those of a rank stand in the same order. -/
structure SegmentDefinition.Rearranged (segments rearranged : List SegmentDefinition) : Prop where
  perm : segments.Perm rearranged
  ties : ∀ rank : UInt32, rearranged.filter (·.rank == rank) = segments.filter (·.rank == rank)

/-- The segments are compiled one by one and put in order by rank, those of a rank in the order in
which they are defined. -/
structure FlagDefinition.Arranges (definition : FlagDefinition) (segments : List Segment) : Prop where
  compiled : ∃ compiled,
    List.Forall₂ (fun d segment =>
      Segment.compile definition.id definition.variant? d = .ok segment)
      definition.segments compiled ∧
    segments.Perm compiled ∧
    ∀ rank : UInt32, segments.filter (·.rank == rank) = compiled.filter (·.rank == rank)
  increasing : segments.Pairwise fun a b => a.rank ≤ b.rank

namespace Segment

variable {as bs : List Segment}

theorem filter_cons_of_rank {a : Segment} {rank : UInt32} (h : a.rank = rank) :
    (a :: as).filter (·.rank == rank) = a :: as.filter (·.rank == rank) :=
  List.filter_cons_of_pos (beq_iff_eq.2 h)

theorem filter_cons_of_rank_ne {a : Segment} {rank : UInt32} (h : a.rank ≠ rank) :
    (a :: as).filter (·.rank == rank) = as.filter (·.rank == rank) :=
  List.filter_cons_of_neg (mt beq_iff_eq.1 h)

theorem rank_le_head {b : Segment} (hb : (b :: bs).Pairwise fun a b => a.rank ≤ b.rank)
    {a : Segment} (ha : a ∈ b :: bs) : b.rank ≤ a.rank := by
  rcases List.mem_cons.1 ha with rfl | ha
  · exact UInt32.le_refl _
  · exact (List.pairwise_cons.1 hb).1 a ha

theorem mem_of_filter_eq
    (h : ∀ rank, as.filter (·.rank == rank) = bs.filter (·.rank == rank)) {a : Segment}
    (ha : a ∈ as) : a ∈ bs := by
  have hfilter : a ∈ as.filter (·.rank == a.rank) := List.mem_filter.2 ⟨ha, beq_self_eq_true _⟩
  rw [h] at hfilter
  exact (List.mem_filter.1 hfilter).1

/-- Segments in order by rank are told apart by what they have of each rank. -/
theorem eq_of_filter_eq (ha : as.Pairwise fun a b => a.rank ≤ b.rank)
    (hb : bs.Pairwise fun a b => a.rank ≤ b.rank)
    (h : ∀ rank, as.filter (·.rank == rank) = bs.filter (·.rank == rank)) : as = bs := by
  induction as generalizing bs with
  | nil =>
    rw [eq_comm, List.eq_nil_iff_forall_not_mem]
    intro b hmem
    have hnil := mem_of_filter_eq (fun rank => (h rank).symm) hmem
    cases hnil
  | cons a as ih =>
    cases bs with
    | nil =>
      have hnil := mem_of_filter_eq h List.mem_cons_self
      cases hnil
    | cons b bs =>
      -- Neither head ranks above the other, as each one stands in the other list as well.
      have hrank : a.rank = b.rank := by
        apply UInt32.le_antisymm
        · exact rank_le_head ha (mem_of_filter_eq (fun rank => (h rank).symm) List.mem_cons_self)
        · exact rank_le_head hb (mem_of_filter_eq h List.mem_cons_self)
      have hheads := h a.rank
      rw [filter_cons_of_rank rfl, filter_cons_of_rank hrank.symm] at hheads
      obtain ⟨rfl, -⟩ := List.cons.inj hheads
      have hrest : as = bs := by
        apply ih (List.pairwise_cons.1 ha).2 (List.pairwise_cons.1 hb).2
        intro rank
        have hcons := h rank
        by_cases heq : a.rank = rank
        · rw [filter_cons_of_rank heq, filter_cons_of_rank heq] at hcons
          exact (List.cons.inj hcons).2
        · rwa [filter_cons_of_rank_ne heq, filter_cons_of_rank_ne heq] at hcons
      rw [hrest]

theorem ordered_eq_of_filter_eq
    (h : ∀ rank, as.filter (·.rank == rank) = bs.filter (·.rank == rank)) :
    ordered as = ordered bs := by
  apply eq_of_filter_eq (pairwise_ordered as) (pairwise_ordered bs)
  intro rank
  rw [filter_ordered, filter_ordered, h]

end Segment

theorem SegmentDefinition.Rearranged.of_nodup {segments rearranged : List SegmentDefinition}
    (hnodup : (segments.map (·.rank)).Nodup) (hperm : segments.Perm rearranged) :
    Rearranged segments rearranged := by
  have hdistinct : ∀ {ds : List SegmentDefinition}, (ds.map (·.rank)).Nodup →
      ∀ rank : UInt32, (ds.filter (·.rank == rank)).Pairwise fun a b => a.rank ≠ b.rank :=
    fun hds rank => (List.pairwise_map.1 hds).filter _
  refine ⟨hperm, ?_⟩
  intro rank
  have hother := (hperm.map (·.rank)).nodup_iff.1 hnodup
  apply (hperm.symm.filter _).eq_of_pairwise _ (hdistinct hother rank) (hdistinct hnodup rank)
  intro a b ha hb hne _
  have hranka : a.rank = rank := beq_iff_eq.1 (List.mem_filter.1 ha).2
  have hrankb : b.rank = rank := beq_iff_eq.1 (List.mem_filter.1 hb).2
  exact absurd (hranka.trans hrankb.symm) hne

namespace FlagDefinition

variable {definition : FlagDefinition} {flag : Flag}

theorem filter_compiled {ds : List SegmentDefinition} {segments : List Segment}
    (h : List.Forall₂ (fun d segment =>
      Segment.compile definition.id definition.variant? d = .ok segment) ds segments)
    (rank : UInt32) :
    (ds.filter (·.rank == rank)).mapM (Segment.compile definition.id definition.variant?) =
      .ok (segments.filter (·.rank == rank)) := by
  rw [Result.mapM_eq_ok]
  refine List.rel_filter ?_ h
  intro d segment hcompile
  simp only [Segment.rank_of_compile hcompile]

theorem prepare_of_rearranged (hflag : definition.prepare = .ok flag)
    {rearranged : List SegmentDefinition}
    (h : SegmentDefinition.Rearranged definition.segments rearranged) :
    { definition with segments := rearranged }.prepare = .ok flag := by
  obtain ⟨segments, hcompiled, rfl⟩ := prepare_eq_ok.1 hflag
  obtain ⟨others, hothers, -⟩ := List.perm_comp_forall₂ h.perm.symm hcompiled
  refine prepare_eq_ok.2 ⟨others, hothers, ?_⟩
  have hsame : Segment.ordered segments = Segment.ordered others := by
    apply Segment.ordered_eq_of_filter_eq
    intro rank
    have hrank := filter_compiled hothers rank
    rw [h.ties, filter_compiled hcompiled] at hrank
    exact Except.ok.inj hrank
  rw [hsame]

theorem arranges_of_prepare (hflag : definition.prepare = .ok flag) :
    definition.Arranges flag.segments := by
  obtain ⟨segments, hcompiled, rfl⟩ := prepare_eq_ok.1 hflag
  constructor
  case compiled =>
    refine ⟨segments, hcompiled, Segment.ordered_perm segments, ?_⟩
    intro rank
    exact Segment.filter_ordered rank segments
  case increasing => exact Segment.pairwise_ordered segments

/-- A definition that can be prepared gives the same flag in every other order of its segments that
keeps those of equal ranks in theirs, and so in any order if no ranks are equal. The segments of the
flag are the compiled ones in order by rank, with those of a rank as they are defined. -/
theorem prepare_rearranged (hflag : definition.prepare = .ok flag) :
    (∀ rearranged, SegmentDefinition.Rearranged definition.segments rearranged →
      { definition with segments := rearranged }.prepare = .ok flag) ∧
    ((definition.segments.map (·.rank)).Nodup →
      ∀ rearranged, definition.segments.Perm rearranged →
        { definition with segments := rearranged }.prepare = .ok flag) ∧
    definition.Arranges flag.segments := by
  refine ⟨fun _ h => prepare_of_rearranged hflag h, ?_, arranges_of_prepare hflag⟩
  intro hnodup rearranged hperm
  exact prepare_of_rearranged hflag (.of_nodup hnodup hperm)

def tiers : FlagDefinition where
  id := 21
  key := "tiers"
  description := ""
  enabled := true
  segments := [
    ⟨7, "most", 2, ⟨0x4059000000000000⟩, [], []⟩, ⟨8, "few", 1, ⟨0x4024000000000000⟩, [], []⟩,
    ⟨7, "half", 2, ⟨0x4049000000000000⟩, [], []⟩, ⟨9, "none", 0, ⟨0⟩, [], []⟩]
  variants := []

theorem prepare_rearranged_tiers :
    let rearranged : List SegmentDefinition := [
      ⟨9, "none", 0, ⟨0⟩, [], []⟩, ⟨7, "most", 2, ⟨0x4059000000000000⟩, [], []⟩,
      ⟨7, "half", 2, ⟨0x4049000000000000⟩, [], []⟩, ⟨8, "few", 1, ⟨0x4024000000000000⟩, [], []⟩]
    ∃ flag, tiers.prepare = .ok flag ∧
      SegmentDefinition.Rearranged tiers.segments rearranged ∧
      { tiers with segments := rearranged }.prepare = .ok flag ∧
      flag.segments.map (fun segment => (segment.id, segment.rollout)) =
        [(9, 0), (8, 10000), (7, 100000), (7, 50000)] := by
  intro rearranged
  obtain ⟨flag, hflag⟩ := Result.exists_eq_ok.2 (by decide +kernel : tiers.prepare.isOk = true)
  have hrearranged : SegmentDefinition.Rearranged tiers.segments rearranged := by
    constructor
    case perm => decide
    case ties =>
      intro rank
      by_cases htwo : rank = 2
      · subst htwo
        rfl
      · have hne : ((2 : UInt32) == rank) = false := beq_false_of_ne (Ne.symm htwo)
        by_cases hone : rank = 1
        · subst hone
          rfl
        · have hother : ((1 : UInt32) == rank) = false := beq_false_of_ne (Ne.symm hone)
          simp [rearranged, tiers, List.filter_cons, hne, hother]
  have hsegments : flag.segments.map (fun segment => (segment.id, segment.rollout)) =
      [(9, 0), (8, 10000), (7, 100000), (7, 50000)] :=
    Result.eq_of_map_eq_some hflag
      (f := fun flag => flag.segments.map fun segment => (segment.id, segment.rollout))
      (by decide +kernel)
  exact ⟨flag, hflag, hrearranged, (prepare_rearranged hflag).1 _ hrearranged, hsegments⟩

end FlagDefinition

end FeatureFlags
