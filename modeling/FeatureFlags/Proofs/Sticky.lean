import FeatureFlags.Proofs.DetailsAgree
import FeatureFlags.Proofs.FirstMatch

/-! # Samples are sticky

The samples that details record depend on nothing but the ids of flag and segment and on the key
by which the entity is sampled. However a flag is edited, an entity stays where it is within a
segment that keeps its id. -/

namespace FeatureFlags

def SegmentRecord.sample? (record : SegmentRecord) : Purpose → Option Nat
  | .rollout => record.rolloutSample
  | .bucket => record.bucketSample

theorem Segment.sample?_record {sharder : Sharder Id} {key : String} {context : Context}
    {segment : Segment} {position : Nat} {purpose : Purpose} {sample : Nat}
    (h : (segment.record sharder key context position).sample? purpose = some sample) :
    sample = segment.draw sharder key purpose := by
  cases purpose with
  | rollout => exact (Option.some.inj h).symm
  | bucket =>
    change segment.bucketSample? sharder key context = some sample at h
    unfold bucketSample? at h
    split at h
    · exact (Option.some.inj h).symm
    · contradiction

namespace Flag

theorem sample?_entry {flag : Flag} {entity : Entity} {i : Nat} {segment : Segment}
    {purpose : Purpose} {sample : Nat}
    (h : (flag.entry entity i segment).sample? purpose = some sample) :
    sample = segment.draw .md5 entity.samplingKey purpose := by
  rcases Nat.lt_or_ge i (flag.evaluated .md5 entity).length with hi | hi
  · obtain ⟨-, context, hobject⟩ := exists_object_of_evaluated hi
    rw [entry_of_lt hi hobject] at h
    exact Segment.sample?_record h
  · rw [entry_of_le hi] at h
    cases purpose <;> contradiction

/-- A recorded sample is the shard of the sampling key under the salt of its purpose. -/
theorem sample?_details {definition : FlagDefinition} {flag : Flag}
    (hflag : definition.prepare = .ok flag) {entity : Entity} {record : SegmentRecord}
    (hrecord : record ∈ (flag.evaluateDetails entity).2.segments) {purpose : Purpose} {sample : Nat}
    (hsample : record.sample? purpose = some sample) :
    sample = Sharder.shard (purpose.salt definition.id record.segmentId).toUTF8
      entity.samplingKey.toUTF8 totalBuckets := by
  rw [evaluateDetails_eq] at hrecord
  obtain ⟨i, hi⟩ := List.mem_iff_getElem?.1 hrecord
  obtain ⟨segment, hsegment, rfl⟩ := (getElem?_details_segments flag entity).1 hi
  have hid := FlagDefinition.flagId_of_mem hflag (List.mem_of_getElem? hsegment)
  rw [sample?_entry hsample, ← hid, (flag.entry_place entity i segment).1]
  rfl

/-- Of two flags of the same id, however they are defined, and two entities that are sampled by the
same key, the details record the same samples for segments of the same id, as far as they record
any. -/
theorem samples_sticky {before after : FlagDefinition} {old new : Flag}
    (hold : before.prepare = .ok old) (hnew : after.prepare = .ok new) (hflag : before.id = after.id)
    {entity other : Entity} (hkey : entity.samplingKey = other.samplingKey)
    {record amended : SegmentRecord}
    (hrecord : record ∈ (old.evaluateDetails entity).2.segments)
    (hamended : amended ∈ (new.evaluateDetails other).2.segments)
    (hsegment : record.segmentId = amended.segmentId) :
    (∀ sample later, record.rolloutSample = some sample → amended.rolloutSample = some later →
      sample = later) ∧
    (∀ sample later, record.bucketSample = some sample → amended.bucketSample = some later →
      sample = later) := by
  have hsame : ∀ (purpose : Purpose) (sample later : Nat), record.sample? purpose = some sample →
      amended.sample? purpose = some later → sample = later := by
    intro purpose sample later hsample hlater
    rw [sample?_details hold hrecord hsample, sample?_details hnew hamended hlater, hflag, hkey,
      hsegment]
  exact ⟨hsame .rollout, hsame .bucket⟩

def reopened : FlagDefinition where
  id := 7
  key := "checkout-for-all"
  description := ""
  enabled := true
  segments := [
    { id := 2, description := "", rank := 7, rolloutPercent := ⟨0x4059000000000000⟩,
      constraints := [], distributions := [⟨0, 3, "", ⟨0x4059000000000000⟩⟩] },
    { id := 4, description := "", rank := 1, rolloutPercent := ⟨0x4059000000000000⟩,
      constraints := [⟨0, "plan", "EQ", "\"silver\""⟩],
      distributions := [⟨0, 3, "", ⟨0x4059000000000000⟩⟩] }]
  variants := [⟨3, "gift", none⟩]

def guest : Entity := ⟨"guest", .object [("plan", .string "gold")], some "ann"⟩

theorem samples_sticky_reopened :
    let record : SegmentRecord :=
      ⟨2, 2, 1, .matched, some 25077, some 74371, [⟨"beta", .eq, some (.boolean true), true⟩]⟩
    let amended : SegmentRecord := ⟨2, 7, 2, .matched, some 25077, some 74371, []⟩
    ∃ old new, checkout.prepare = .ok old ∧ reopened.prepare = .ok new ∧
      record ∈ (old.evaluateDetails tester).2.segments ∧
      amended ∈ (new.evaluateDetails guest).2.segments ∧
      (∀ sample later, record.rolloutSample = some sample → amended.rolloutSample = some later →
        sample = later) ∧
      (∀ sample later, record.bucketSample = some sample → amended.bucketSample = some later →
        sample = later) := by
  intro record amended
  obtain ⟨old, hold⟩ := Result.exists_eq_ok.2
    (by decide +kernel : checkout.prepare.isOk = true)
  obtain ⟨new, hnew⟩ := Result.exists_eq_ok.2
    (by decide +kernel : reopened.prepare.isOk = true)
  have hrecord : decide (record ∈ (old.evaluateDetails tester).2.segments) = true :=
    Result.eq_of_map_eq_some hold
      (f := fun flag => decide (record ∈ (flag.evaluateDetails tester).2.segments))
      (by decide +kernel)
  have hamended : decide (amended ∈ (new.evaluateDetails guest).2.segments) = true :=
    Result.eq_of_map_eq_some hnew
      (f := fun flag => decide (amended ∈ (flag.evaluateDetails guest).2.segments))
      (by decide +kernel)
  have hkey : tester.samplingKey = guest.samplingKey := rfl
  have hsticky := samples_sticky hold hnew rfl hkey (of_decide_eq_true hrecord)
    (of_decide_eq_true hamended) rfl
  exact ⟨old, new, hold, hnew, of_decide_eq_true hrecord, of_decide_eq_true hamended, hsticky⟩

end Flag

end FeatureFlags
