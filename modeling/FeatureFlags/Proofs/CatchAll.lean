import FeatureFlags.Proofs.FirstMatch

/-! # Segments that everyone passes and segments that no one does

Samples lie below the number of buckets whatever the digest is that they are taken from. So a segment
with a full rollout, no constraints and a table that reaches all buckets is passed by everyone, and no
later segment ever decides. Without any rollout or without any width a segment does not decide
itself. -/

namespace FeatureFlags

def Sharder.ofDigest (digest : List UInt8 → List UInt8) : Sharder Id :=
  fun salt key total => bigEndian ((digest (input salt key).toList).take 4) % total

namespace SegmentDefinition

structure CatchesAll (definition : FlagDefinition) (segment : SegmentDefinition) : Prop where
  rollout : bucketsOf? segment.rolloutPercent = some totalBuckets
  constraints : segment.constraints = []
  bucket : ∃ table last, Table.compile definition.variant? segment = .ok table ∧
    table.boundaries.back? = some last ∧ totalBuckets ≤ last

/-- One of the gates that samples have to pass keeps everyone out: the rollout is zero, or the last
boundary of the table is zero or there is none. -/
def Barren (definition : FlagDefinition) (segment : SegmentDefinition) : Prop :=
  bucketsOf? segment.rolloutPercent = some 0 ∨
    ∃ table, Table.compile definition.variant? segment = .ok table ∧
      ∀ last, table.boundaries.back? = some last → last = 0

end SegmentDefinition

theorem Sharder.ofDigest_lt (digest : List UInt8 → List UInt8) (salt key : ByteArray) {total : Nat}
    (h : 0 < total) : Id.run (ofDigest digest salt key total) < total :=
  Nat.mod_lt _ h

theorem Table.Regular.covers_iff_lt_last {table : Table} (hr : table.Regular) {sample : Nat} :
    table.Covers sample ↔ ∃ last, table.boundaries.back? = some last ∧ sample < last := by
  rw [Array.back?_eq_getElem?]
  constructor
  · rintro ⟨boundary, hmem, hlt⟩
    obtain ⟨i, hi⟩ := Array.getElem?_of_mem hmem
    have hsize : i < table.boundaries.size := (Array.getElem?_eq_some_iff.1 hi).1
    have hend : table.boundaries.size - 1 < table.boundaries.size := by omega
    have hlast := Array.getElem?_eq_getElem hend
    have hle := hr.mono i (table.boundaries.size - 1) _ _ (by omega) hi hlast
    exact ⟨_, hlast, Nat.lt_of_lt_of_le hlt hle⟩
  · rintro ⟨last, hlast, hlt⟩
    exact ⟨last, Array.mem_of_getElem? hlast, hlt⟩

namespace SegmentDefinition

variable {definition : FlagDefinition} {sharder : Sharder Id} {key : String} {context : Context}
  {segment : SegmentDefinition}

theorem CatchesAll.passes (h : segment.CatchesAll definition)
    (hsharder : ∀ salt key : ByteArray, Id.run (sharder salt key totalBuckets) < totalBuckets) :
    segment.Passes definition sharder key context := by
  constructor
  case rollout => exact ⟨totalBuckets, h.rollout, hsharder _ _⟩
  case constraints =>
    intro c hc
    rw [h.constraints] at hc
    cases hc
  case bucket =>
    obtain ⟨table, last, htable, hlast, hle⟩ := h.bucket
    have hdraw : segment.draw definition sharder key .bucket < totalBuckets := hsharder _ _
    have hcovers : table.Covers (segment.draw definition sharder key .bucket) :=
      (Table.regular_of_compile htable).covers_iff_lt_last.2
        ⟨last, hlast, Nat.lt_of_lt_of_le hdraw hle⟩
    exact ⟨table, htable, hcovers⟩

theorem Barren.not_passes (h : segment.Barren definition) :
    ¬ segment.Passes definition sharder key context := by
  intro hp
  rcases h with hzero | ⟨table, htable, hlast⟩
  · obtain ⟨buckets, hbuckets, hdraw⟩ := hp.rollout
    rw [hzero] at hbuckets
    cases hbuckets
    exact Nat.not_lt_zero _ hdraw
  · obtain ⟨other, hother, hcovers⟩ := hp.bucket
    rw [htable] at hother
    cases hother
    obtain ⟨last, hback, hlt⟩ := (Table.regular_of_compile htable).covers_iff_lt_last.1 hcovers
    rw [hlast last hback] at hlt
    exact Nat.not_lt_zero _ hlt

end SegmentDefinition

namespace Flag

/-- Where a segment passes its gates, it decides or one before it does. -/
theorem exists_decidedBy_of_passes {definition : FlagDefinition} {flag : Flag}
    (hflag : definition.prepare = .ok flag) {sharder : Sharder Id} {key : String}
    {context : Context} {position : Nat} {segment : SegmentDefinition}
    (hsegment : definition.segments[position]? = some segment)
    (hp : segment.Passes definition sharder key context) :
    ∃ other rival variant, definition.DecidedBy sharder key context other rival variant ∧
      (other = position ∨ SegmentDefinition.Precedes other rival position segment) ∧
      flag.decision sharder key context flag.segments =
        .matched (definition.assignment rival variant) := by
  obtain ⟨a, ha⟩ := (exists_decision_of_prepare hflag).2
    ⟨segment, List.mem_of_getElem? hsegment, hp⟩
  obtain ⟨other, rival, variant, hdecided, rfl⟩ := decidedBy_of_decision hflag ha
  refine ⟨other, rival, variant, hdecided, ?_, ha⟩
  by_cases hother : other = position
  · exact Or.inl hother
  · exact Or.inr (hdecided.first position segment hsegment hp (Ne.symm hother))

/-- Samples taken from a digest lie below the number of shards, and the default ones are taken from a
digest. So a segment that catches all leaves no entity with an object context without an assignment:
the segment decides, or one before it. A barren segment never decides, whatever the sharder is, so
that every assignment is due to a segment that is not barren. -/
theorem catch_all_decides {definition : FlagDefinition} {flag : Flag}
    (hflag : definition.prepare = .ok flag) :
    (Sharder.md5 (m := Id) = Sharder.ofDigest Md5.digest ∧
      ∀ (digest : List UInt8 → List UInt8) (salt key : ByteArray) (total : Nat), 0 < total →
        Id.run (Sharder.ofDigest digest salt key total) < total) ∧
    (definition.enabled = true → ∀ (position : Nat) (segment : SegmentDefinition),
      definition.segments[position]? = some segment → segment.CatchesAll definition →
      ∀ (digest : List UInt8 → List UInt8) (entity : Entity) (context : Context),
        entity.context = .object context →
        ∃ other rival variant,
          definition.DecidedBy (.ofDigest digest) entity.samplingKey context other rival variant ∧
          (other = position ∨ SegmentDefinition.Precedes other rival position segment) ∧
          Id.run (flag.evaluateWith .silent (.ofDigest digest) entity) =
            .ok (.matched (definition.assignment rival variant))) ∧
    (∀ segment : SegmentDefinition, segment.Barren definition →
      ∀ (sharder : Sharder Id) (key : String) (context : Context) (position : Nat)
        (variant : Variant),
        ¬ definition.DecidedBy sharder key context position segment variant) ∧
    ∀ (sharder : Sharder Id) (entity : Entity) (a : Assignment),
      Id.run (flag.evaluateWith .silent sharder entity) = .ok (.matched a) →
      ∃ context position segment variant, entity.context = .object context ∧
        definition.DecidedBy sharder entity.samplingKey context position segment variant ∧
        a = definition.assignment segment variant ∧ ¬ segment.Barren definition := by
  refine ⟨⟨rfl, fun digest salt key _ h => Sharder.ofDigest_lt digest salt key h⟩, ?_, ?_, ?_⟩
  · intro hon position segment hsegment hall digest entity context hcontext
    have hpasses : segment.Passes definition (.ofDigest digest) entity.samplingKey context :=
      hall.passes fun salt key => Sharder.ofDigest_lt digest salt key (by decide)
    obtain ⟨other, rival, variant, hdecided, hearly, hmatched⟩ :=
      exists_decidedBy_of_passes hflag hsegment hpasses
    refine ⟨other, rival, variant, hdecided, hearly, ?_⟩
    rw [evaluateWith_silent, verdict_of_object ((enabled_of_prepare hflag).trans hon)
      (Value.object?_eq_some.2 hcontext), hmatched]
  · intro segment hbarren sharder key context position variant hdecided
    exact hbarren.not_passes hdecided.passes
  · intro sharder entity a hmatched
    rw [evaluateWith_silent] at hmatched
    obtain ⟨-, context, hobject, hdecision⟩ := verdict_eq_matched hmatched
    obtain ⟨position, segment, variant, hdecided, rfl⟩ := decidedBy_of_decision hflag hdecision
    exact ⟨context, position, segment, variant, Value.object?_eq_some.1 hobject, hdecided, rfl,
      fun hbarren => hbarren.not_passes hdecided.passes⟩

def funnel : FlagDefinition where
  id := 12
  key := "funnel"
  description := ""
  enabled := true
  segments := [
    ⟨1, "behind", 3, ⟨0x4059000000000000⟩, [], [⟨0, 2, "", ⟨0x4059000000000000⟩⟩]⟩,
    ⟨2, "closed", 0, ⟨0⟩, [], [⟨0, 2, "", ⟨0x4059000000000000⟩⟩]⟩,
    ⟨3, "empty", 1, ⟨0x4059000000000000⟩, [], []⟩,
    ⟨4, "everyone", 2, ⟨0x4059000000000000⟩, [],
      [⟨0, 1, "", ⟨0x404e000000000000⟩⟩, ⟨0, 2, "", ⟨0x4044000000000000⟩⟩]⟩]
  variants := [⟨1, "control", none⟩, ⟨2, "treatment", none⟩]

theorem catch_all_decides_funnel : ∃ flag other rival variant,
    funnel.prepare = .ok flag ∧
    (funnel.segments.get ⟨3, by decide⟩).CatchesAll funnel ∧
    (funnel.segments.get ⟨1, by decide⟩).Barren funnel ∧
    (funnel.segments.get ⟨2, by decide⟩).Barren funnel ∧
    funnel.DecidedBy (.ofDigest Md5.digest) "ann" [("beta", .boolean true)] other rival variant ∧
    (other = 3 ∨ SegmentDefinition.Precedes other rival 3 (funnel.segments.get ⟨3, by decide⟩)) ∧
    ¬ rival.Barren funnel ∧
    flag.evaluate tester = .ok (.matched (funnel.assignment rival variant)) := by
  obtain ⟨flag, hflag⟩ := Result.exists_eq_ok.2 (by decide +kernel : funnel.prepare.isOk = true)
  have hall : (funnel.segments.get ⟨3, by decide⟩).CatchesAll funnel := by
    constructor
    case rollout => decide +kernel
    case constraints => rfl
    case bucket =>
      exact ⟨⟨#[60000, 100000], #[⟨1, "control", none⟩, ⟨2, "treatment", none⟩]⟩, 100000,
        by decide +kernel, rfl, Nat.le_refl _⟩
  have hclosed : (funnel.segments.get ⟨1, by decide⟩).Barren funnel := Or.inl (by decide +kernel)
  have hempty : (funnel.segments.get ⟨2, by decide⟩).Barren funnel :=
    Or.inr ⟨⟨#[], #[]⟩, by decide +kernel, fun last hlast => by cases hlast⟩
  obtain ⟨-, hdecides, hnever, -⟩ := catch_all_decides hflag
  obtain ⟨other, rival, variant, hdecided, hearly, hmatched⟩ :=
    hdecides rfl 3 _ rfl hall Md5.digest tester _ rfl
  have hrival : ¬ rival.Barren funnel := fun hbarren => hnever rival hbarren _ _ _ _ _ hdecided
  exact ⟨flag, other, rival, variant, hflag, hall, hclosed, hempty, hdecided, hearly, hrival,
    hmatched⟩

end Flag

end FeatureFlags
