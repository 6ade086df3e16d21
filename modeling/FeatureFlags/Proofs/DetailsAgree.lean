import FeatureFlags.Proofs.Account

/-! # Details agree with the result

The segments that were evaluated are the first ones of the list. Only the last of them may have
matched, and it has exactly if the result is an assignment, which then is its own. -/

namespace FeatureFlags

/-- The details tell how evaluating the flag for the entity came to the result, with the first `m`
segments evaluated. -/
structure Details.Agrees (details : Details) (flag : Flag) (entity : Entity)
    (result : Result Decision) (m : Nat) : Prop where
  length : details.segments.length = flag.segments.length
  place : ∀ i segment record, flag.segments[i]? = some segment →
    details.segments[i]? = some record →
    record.segmentId = segment.id ∧ record.rank = segment.rank ∧ record.orderPosition = i + 1
  within : m ≤ flag.segments.length
  evaluated : ∀ i record, details.segments[i]? = some record → i < m → record.result ≠ .unevaluated
  unevaluated : ∀ i record, details.segments[i]? = some record → m ≤ i →
    record.result = .unevaluated ∧ record.rolloutSample = none ∧ record.bucketSample = none ∧
      record.constraints = []
  matched : (∃ record ∈ details.segments, record.result = .matched) ↔
    ∃ assignment, result = .ok (.matched assignment)
  matched_last : ∀ i record, details.segments[i]? = some record → record.result = .matched →
    i + 1 = m ∧ details.segmentId = some record.segmentId
  assigned : ∀ assignment, result = .ok (.matched assignment) →
    details.segmentId = some assignment.segmentId ∧
    details.variantId = some assignment.variantId ∧
    details.variantKey = some assignment.variantKey
  exhausted : result = .ok .noSegmentMatched → flag.enabled = true →
    m = flag.segments.length ∧ details.segmentId = none ∧ details.variantId = none ∧
      details.variantKey = none
  untried : flag.enabled = false ∨ (∀ context, entity.context ≠ .object context) → m = 0
  reason_matched : details.reason = .matched ↔ ∃ assignment, result = .ok (.matched assignment)
  reason_flagDisabled : details.reason = .flagDisabled ↔
    result = .ok .noSegmentMatched ∧ flag.enabled = false
  reason_noSegmentMatched : details.reason = .noSegmentMatched ↔
    result = .ok .noSegmentMatched ∧ flag.enabled = true
  reason_error : details.reason = .error ↔ ∃ error, result = .error error

namespace SegmentResult

theorem ofOutcome_ne_unevaluated (outcome : Except Miss Variant) :
    ofOutcome outcome ≠ .unevaluated := by
  rcases outcome with ⟨⟨⟩⟩ | variant <;> simp [ofOutcome]

theorem ofOutcome_eq_matched {outcome : Except Miss Variant} :
    ofOutcome outcome = .matched ↔ ∃ variant, outcome = .ok variant := by
  rcases outcome with ⟨⟨⟩⟩ | variant <;> simp [ofOutcome]

end SegmentResult

namespace Flag

variable (flag : Flag) (entity : Entity)

theorem entry_place (i : Nat) (segment : Segment) :
    (flag.entry entity i segment).segmentId = segment.id ∧
      (flag.entry entity i segment).rank = segment.rank ∧
      (flag.entry entity i segment).orderPosition = i + 1 := by
  unfold entry
  split
  · exact ⟨rfl, rfl, rfl⟩
  · split
    · exact ⟨rfl, rfl, rfl⟩
    · exact ⟨rfl, rfl, rfl⟩

variable {flag entity}

theorem entry_of_le {i : Nat} (hi : (flag.evaluated .md5 entity).length ≤ i) (segment : Segment) :
    flag.entry entity i segment = .unevaluated (i + 1) segment.id segment.rank := by
  unfold entry
  split
  · rfl
  · rw [if_neg (Nat.not_lt.2 hi)]

theorem entry_of_lt {i : Nat} (hi : i < (flag.evaluated .md5 entity).length) {context : Context}
    (hobject : entity.context.object? = some context) (segment : Segment) :
    flag.entry entity i segment =
      segment.record .md5 entity.samplingKey context (i + 1) := by
  simp [entry, hobject, hi]

theorem exists_object_of_evaluated {i : Nat} (hi : i < (flag.evaluated .md5 entity).length) :
    flag.enabled = true ∧ ∃ context, entity.context.object? = some context := by
  unfold evaluated at hi
  split at hi
  · rename_i hon
    split at hi
    · simp at hi
    · exact ⟨hon, _, by assumption⟩
  · simp at hi

theorem entry_result_eq_matched {i : Nat} {segment : Segment} :
    (flag.entry entity i segment).result = .matched ↔
      i < (flag.evaluated .md5 entity).length ∧ ∃ context variant,
        entity.context.object? = some context ∧
        segment.outcome .md5 entity.samplingKey context = .ok variant := by
  by_cases hi : i < (flag.evaluated .md5 entity).length
  · obtain ⟨-, context, hobject⟩ := exists_object_of_evaluated hi
    rw [entry_of_lt hi hobject]
    simp [Segment.record, SegmentResult.ofOutcome_eq_matched, hobject, hi]
  · rw [entry_of_le (Nat.le_of_not_lt hi)]
    simp [SegmentRecord.unevaluated, hi]

theorem evaluated_of_noSegmentMatched (hon : flag.enabled = true)
    (h : flag.verdict .md5 entity = .ok .noSegmentMatched) :
    flag.evaluated .md5 entity = flag.segments := by
  cases hobject : entity.context.object? with
  | none => simp [verdict, hon, hobject] at h
  | some context =>
    rw [verdict_of_object hon hobject] at h
    rw [evaluated_of_object hon hobject]
    rcases flag.reached_cases .md5 entity.samplingKey context flag.segments with
      ⟨hreached, -, -⟩ | ⟨before, last, after, variant, -, -, -, -, hdecision⟩
    · exact hreached
    · rw [hdecision] at h
      simp at h

/-- An assignment comes from the last segment that is evaluated, and only that one has matched. -/
theorem entries_of_matched {assignment : Assignment}
    (h : flag.verdict .md5 entity = .ok (.matched assignment)) :
    ∃ n segment, (flag.evaluated .md5 entity).length = n + 1 ∧ flag.segments[n]? = some segment ∧
      assignment.segmentId = segment.id ∧
      ∀ i other, flag.segments[i]? = some other →
        ((flag.entry entity i other).result = .matched ↔ i = n) := by
  obtain ⟨hon, context, hobject, hmatched⟩ := verdict_eq_matched h
  have hevaluated : flag.evaluated .md5 entity = _ := evaluated_of_object hon hobject
  rcases flag.reached_cases .md5 entity.samplingKey context flag.segments with
    ⟨-, -, hdecision⟩ |
    ⟨before, last, after, variant, hsegments, hreached, hmiss, hlast, hdecision⟩
  · rw [hdecision] at hmatched
    contradiction
  · rw [hdecision] at hmatched
    cases hmatched
    rw [hreached] at hevaluated
    have hlength : (flag.evaluated .md5 entity).length = before.length + 1 := by
      simp [hevaluated]
    refine ⟨before.length, last, hlength, by simp [hsegments], rfl, ?_⟩
    intro i other hother
    rw [entry_result_eq_matched, hlength]
    constructor
    · rintro ⟨hi, _, gift, hcontext, hok⟩
      cases Option.some.inj (hobject.symm.trans hcontext)
      rcases Nat.lt_or_ge i before.length with hlt | hge
      · rw [hsegments, List.getElem?_append_left hlt] at hother
        obtain ⟨miss, herror⟩ := hmiss other (List.mem_of_getElem? hother)
        rw [herror] at hok
        contradiction
      · omega
    · rintro rfl
      have heq : other = last := by simpa [hsegments] using hother.symm
      subst heq
      exact ⟨Nat.lt_succ_self _, context, variant, hobject, hlast⟩

theorem assignment_of_entry {i : Nat} {segment : Segment}
    (hsegment : flag.segments[i]? = some segment)
    (hmatched : (flag.entry entity i segment).result = .matched) :
    ∃ assignment, flag.verdict .md5 entity = .ok (.matched assignment) ∧
      i + 1 = (flag.evaluated .md5 entity).length ∧ assignment.segmentId = segment.id := by
  obtain ⟨assignment, hverdict⟩ :
      ∃ assignment, flag.verdict .md5 entity = .ok (.matched assignment) := by
    obtain ⟨hi, context, variant, hobject, hok⟩ := entry_result_eq_matched.1 hmatched
    obtain ⟨hon, -⟩ := exists_object_of_evaluated hi
    rw [verdict_of_object hon hobject]
    rcases flag.reached_cases .md5 entity.samplingKey context flag.segments with
      ⟨-, hmiss, -⟩ | ⟨before, last, after, gift, -, -, -, -, hdecision⟩
    · obtain ⟨miss, herror⟩ := hmiss segment (List.mem_of_getElem? hsegment)
      rw [herror] at hok
      contradiction
    · exact ⟨_, congrArg Except.ok hdecision⟩
  obtain ⟨n, last, hlength, hlast, hid, honly⟩ := entries_of_matched hverdict
  obtain rfl := (honly i segment hsegment).1 hmatched
  cases Option.some.inj (hsegment.symm.trans hlast)
  exact ⟨assignment, hverdict, hlength.symm, hid⟩

theorem reason_recorded :
    (flag.recorded entity).reason =
      match flag.verdict .md5 entity with
      | .ok (.matched _) => .matched
      | .ok .noSegmentMatched => if flag.enabled then .noSegmentMatched else .flagDisabled
      | .error _ => .error := by
  unfold Recorder.reason recorded
  rcases flag.verdict .md5 entity with error | (assignment | _)
  · rfl
  · rfl
  · cases flag.enabled with
    | false => rfl
    | true => rfl

variable (flag entity)

theorem getElem?_details_segments {i : Nat} {record : SegmentRecord} :
    ((flag.recorded entity).details entity).segments[i]? = some record ↔
      ∃ segment, flag.segments[i]? = some segment ∧ flag.entry entity i segment = record := by
  change (flag.recorded entity).segments[i]? = some record ↔ _
  rw [recorded_segments, List.getElem?_mapIdx, Option.map_eq_some_iff]

variable {flag entity}

theorem details_of_matched {assignment : Assignment}
    (h : flag.verdict .md5 entity = .ok (.matched assignment)) :
    ((flag.recorded entity).details entity).segmentId = some assignment.segmentId ∧
      ((flag.recorded entity).details entity).variantId = some assignment.variantId ∧
      ((flag.recorded entity).details entity).variantKey = some assignment.variantKey := by
  simp [Recorder.details, Recorder.assignment?, recorded, h, Decision.assignment?]

theorem details_of_noSegmentMatched (h : flag.verdict .md5 entity = .ok .noSegmentMatched) :
    ((flag.recorded entity).details entity).segmentId = none ∧
      ((flag.recorded entity).details entity).variantId = none ∧
      ((flag.recorded entity).details entity).variantKey = none := by
  simp [Recorder.details, Recorder.assignment?, recorded, h, Decision.assignment?]

end Flag

/-- Whatever flag is evaluated for whatever entity, the details that come with the result agree with
it. -/
theorem Flag.details_agree (flag : Flag) (entity : Entity) :
    ∃ m, (flag.evaluateDetails entity).2.Agrees flag entity (flag.evaluateDetails entity).1 m := by
  refine ⟨(flag.evaluated .md5 entity).length, ?_⟩
  rw [evaluateDetails_eq]
  have hreason : ((flag.recorded entity).details entity).reason = _ := reason_recorded
  constructor
  case length =>
    change (flag.recorded entity).segments.length = _
    rw [recorded_segments, List.length_mapIdx]
  case place =>
    intro i segment record hsegment hrecord
    obtain ⟨other, hother, rfl⟩ := (getElem?_details_segments flag entity).1 hrecord
    cases Option.some.inj (hsegment.symm.trans hother)
    exact flag.entry_place entity i segment
  case within => exact (flag.evaluated_prefix .md5 entity).length_le
  case evaluated =>
    intro i record hrecord hi
    obtain ⟨segment, -, rfl⟩ := (getElem?_details_segments flag entity).1 hrecord
    obtain ⟨-, context, hobject⟩ := exists_object_of_evaluated hi
    rw [entry_of_lt hi hobject]
    exact SegmentResult.ofOutcome_ne_unevaluated _
  case unevaluated =>
    intro i record hrecord hi
    obtain ⟨segment, -, rfl⟩ := (getElem?_details_segments flag entity).1 hrecord
    rw [entry_of_le hi]
    exact ⟨rfl, rfl, rfl, rfl⟩
  case matched =>
    constructor
    · rintro ⟨record, hmem, hmatched⟩
      obtain ⟨i, hi⟩ := List.mem_iff_getElem?.1 hmem
      obtain ⟨segment, hsegment, rfl⟩ := (getElem?_details_segments flag entity).1 hi
      obtain ⟨assignment, h, -⟩ := assignment_of_entry hsegment hmatched
      exact ⟨assignment, h⟩
    · rintro ⟨assignment, h⟩
      obtain ⟨n, segment, -, hsegment, -, honly⟩ := entries_of_matched h
      have hlisted := (getElem?_details_segments flag entity).2 ⟨segment, hsegment, rfl⟩
      exact ⟨_, List.mem_of_getElem? hlisted, (honly n segment hsegment).2 rfl⟩
  case matched_last =>
    intro i record hrecord hmatched
    obtain ⟨segment, hsegment, rfl⟩ := (getElem?_details_segments flag entity).1 hrecord
    obtain ⟨assignment, h, hlast, hid⟩ := assignment_of_entry hsegment hmatched
    rw [(details_of_matched h).1, hid, (flag.entry_place entity i segment).1]
    exact ⟨hlast, rfl⟩
  case assigned => exact fun assignment h => details_of_matched h
  case exhausted =>
    intro h hon
    exact ⟨congrArg List.length (evaluated_of_noSegmentMatched hon h),
      details_of_noSegmentMatched h⟩
  case untried =>
    intro h
    rw [evaluated_eq_nil, List.length_nil]
    rcases h with hoff | hobject
    · exact Or.inl hoff
    · refine Or.inr (Option.eq_none_iff_forall_ne_some.2 fun context hcontext => ?_)
      exact hobject context (Value.object?_eq_some.1 hcontext)
  all_goals
    rw [hreason]
    rcases flag.verdict .md5 entity with error | (assignment | _)
    · simp
    · simp
    · cases flag.enabled <;> simp

end FeatureFlags
