import FeatureFlags.Proofs.Lookup
import FeatureFlags.Proofs.Story

/-! # The gates of a segment as it is defined

A prepared segment passes its gates exactly if its definition does. -/

namespace FeatureFlags

namespace SegmentDefinition

section

variable (definition : FlagDefinition) (sharder : Sharder Id) (key : String) (context : Context)
  (segment : SegmentDefinition)

def draw (purpose : Purpose) : Nat :=
  Id.run (sharder (purpose.salt definition.id segment.id).toUTF8 key.toUTF8 totalBuckets)

/-- All three gates are open: the rollout sample lies below the buckets of the rollout, every
constraint matches the context, and the bucket sample is covered by the table. -/
structure Passes : Prop where
  rollout : ∃ buckets, bucketsOf? segment.rolloutPercent = some buckets ∧
    segment.draw definition sharder key .rollout < buckets
  constraints : ∀ c ∈ segment.constraints, ∃ constraint, Constraint.compile c = .ok constraint ∧
    constraint.eval context = true
  bucket : ∃ table, Table.compile definition.variant? segment = .ok table ∧
    table.Covers (segment.draw definition sharder key .bucket)

def Selects (variant : Variant) : Prop :=
  ∃ table, Table.compile definition.variant? segment = .ok table ∧
    table.Selects (segment.draw definition sharder key .bucket) variant

end

end SegmentDefinition

namespace Segment

theorem outcome_eq_ok_iff {sharder : Sharder Id} {key : String} {context : Context}
    {segment : Segment} {variant : Variant} :
    segment.outcome sharder key context = .ok variant ↔
      segment.draw sharder key .rollout < segment.rollout ∧
      (∀ constraint ∈ segment.constraints.constraints, constraint.eval context = true) ∧
      segment.table.lookup (segment.draw sharder key .bucket) = some variant := by
  rw [← List.all_eq_true]
  change _ ↔ _ ∧ segment.satisfied context = true ∧ _
  unfold outcome inRollout
  by_cases hr : segment.draw sharder key .rollout < segment.rollout
  · cases segment.satisfied context with
    | false => simp [hr]
    | true =>
      cases segment.table.lookup (segment.draw sharder key .bucket) with
      | none => simp [hr]
      | some found => simp [hr]
  · simp [hr]

section

variable {definition : FlagDefinition} {d : SegmentDefinition} {segment : Segment}
  (h : compile definition.id definition.variant? d = .ok segment)
include h

theorem id_of_compile : segment.id = d.id := by
  obtain ⟨rollout, set, table, -, -, -, rfl⟩ := compile_eq_ok.1 h
  rfl

theorem rank_of_compile : segment.rank = d.rank := by
  obtain ⟨rollout, set, table, -, -, -, rfl⟩ := compile_eq_ok.1 h
  rfl

theorem draw_of_compile (sharder : Sharder Id) (key : String) (purpose : Purpose) :
    segment.draw sharder key purpose = d.draw definition sharder key purpose := by
  obtain ⟨rollout, set, table, -, -, -, rfl⟩ := compile_eq_ok.1 h
  rfl

/-- A prepared segment selects what its definition selects, where the definition passes. -/
theorem outcome_eq_ok_iff_of_compile {sharder : Sharder Id} {key : String} {context : Context}
    {variant : Variant} :
    segment.outcome sharder key context = .ok variant ↔
      d.Passes definition sharder key context ∧ d.Selects definition sharder key variant := by
  rw [outcome_eq_ok_iff, draw_of_compile h, draw_of_compile h]
  obtain ⟨rollout, set, table, hr, hs, ht, rfl⟩ := compile_eq_ok.1 h
  have hset := ConstraintSet.compile_eq_ok.1 hs
  have hreg := Table.regular_of_compile ht
  simp only [Table.lookup_eq_some_iff hreg]
  constructor
  · rintro ⟨hdraw, hall, hsel⟩
    refine ⟨⟨⟨rollout, hr, hdraw⟩, ?_, table, ht, ?_⟩, table, ht, hsel⟩
    · intro c hc
      obtain ⟨constraint, hmem, hcompile⟩ := forall₂_mem hset hc
      exact ⟨constraint, hcompile, hall constraint hmem⟩
    · exact (Table.covers_iff hreg _).2 ⟨variant, (Table.lookup_eq_some_iff hreg _).2 hsel⟩
  · rintro ⟨⟨⟨buckets, hb, hdraw⟩, hall, -⟩, found, hf, hsel⟩
    rw [hr] at hb
    rw [ht] at hf
    cases hb
    cases hf
    refine ⟨hdraw, ?_, hsel⟩
    intro constraint hmem
    obtain ⟨c, hc, hcompile⟩ := forall₂_mem_right hset hmem
    obtain ⟨other, hother, heval⟩ := hall c hc
    rw [hcompile] at hother
    cases hother
    exact heval

theorem exists_outcome_iff_of_compile {sharder : Sharder Id} {key : String} {context : Context} :
    (∃ variant, segment.outcome sharder key context = .ok variant) ↔
      d.Passes definition sharder key context := by
  simp only [outcome_eq_ok_iff_of_compile h]
  constructor
  · rintro ⟨variant, hp, -⟩
    exact hp
  · intro hp
    obtain ⟨table, ht, hc⟩ := hp.bucket
    have hreg := Table.regular_of_compile ht
    obtain ⟨variant, hv⟩ := (Table.covers_iff hreg _).1 hc
    exact ⟨variant, hp, table, ht, (Table.lookup_eq_some_iff hreg _).1 hv⟩

end

end Segment

end FeatureFlags
