import FeatureFlags.Proofs.DetailsAgree
import FeatureFlags.Proofs.Gates

/-! # Records tell of the gates

The record of a segment is put together piece by piece while the gates are tried. Which pieces it
has, and what it gives as the result, follows from the first gate that does not open. -/

namespace FeatureFlags

def ConstraintSet.UpToFirstMiss (context : Context) (constraints reached : List Constraint) : Prop :=
  (reached = constraints ∧ ∀ constraint ∈ constraints, constraint.eval context = true) ∨
  ∃ before last after, constraints = before ++ last :: after ∧ reached = before ++ [last] ∧
    (∀ earlier ∈ before, earlier.eval context = true) ∧ last.eval context = false

def SegmentRecord.EndsUnmatched (record : SegmentRecord) : Prop :=
  ∃ last, record.constraints.getLast? = some last ∧ last.matched = false

/-- The record of a segment that was evaluated in a context, with these samples drawn for it, agrees
with the gates of the segment. -/
structure SegmentRecord.TellsGates (record : SegmentRecord) (segment : Segment) (context : Context)
    (sample : Purpose → Nat) : Prop where
  rolloutSample : record.rolloutSample = some (sample .rollout)
  rolloutMiss : record.result = .rolloutMiss ↔ ¬ sample .rollout < segment.rollout
  rolloutMiss_rest : record.result = .rolloutMiss →
    record.constraints = [] ∧ record.bucketSample = none
  constraints : record.result ≠ .rolloutMiss → ∃ reached,
    ConstraintSet.UpToFirstMiss context segment.constraints.constraints reached ∧
    record.constraints = reached.map fun constraint =>
      ⟨constraint.property, constraint.operator, context.find? constraint.property,
        constraint.eval context⟩
  failing : record.result = .failingConstraints ↔ record.EndsUnmatched
  failing_rest : record.result = .failingConstraints → record.bucketSample = none
  bucketSample : record.result ≠ .rolloutMiss → record.result ≠ .failingConstraints →
    record.bucketSample = some (sample .bucket) ∧
    (segment.table.Covers (sample .bucket) → record.result = .matched) ∧
    (¬ segment.table.Covers (sample .bucket) → record.result = .distributionMiss)

namespace ConstraintSet

theorem upToFirstMiss_reached (context : Context) (constraints : List Constraint) :
    UpToFirstMiss context constraints (reached context constraints) := by
  induction constraints with
  | nil => exact Or.inl ⟨rfl, List.forall_mem_nil _⟩
  | cons constraint rest ih =>
    cases heval : constraint.eval context with
    | false =>
      refine Or.inr ⟨[], constraint, rest, rfl, ?_, List.forall_mem_nil _, heval⟩
      simp [reached, heval]
    | true =>
      have hreached : reached context (constraint :: rest) =
          constraint :: reached context rest := by simp [reached, heval]
      rw [hreached]
      rcases ih with ⟨hall, hmatch⟩ | ⟨before, last, after, hsplit, hlast, hbefore, hmiss⟩
      · exact Or.inl ⟨congrArg _ hall, List.forall_mem_cons.2 ⟨heval, hmatch⟩⟩
      · refine Or.inr ⟨constraint :: before, last, after, congrArg _ hsplit, congrArg _ hlast, ?_,
          hmiss⟩
        exact List.forall_mem_cons.2 ⟨heval, hbefore⟩

theorem getLast?_reached (context : Context) (constraints : List Constraint) :
    (∃ last, (reached context constraints).getLast? = some last ∧ last.eval context = false) ↔
      constraints.all (·.eval context) = false := by
  rcases upToFirstMiss_reached context constraints with
    ⟨hall, hmatch⟩ | ⟨before, last, after, hsplit, hlast, -, hmiss⟩
  · have hsatisfied : constraints.all (·.eval context) = true := List.all_eq_true.2 hmatch
    rw [hall, hsatisfied]
    constructor
    · rintro ⟨last, hget, hmiss⟩
      rw [hmatch last (List.mem_of_getLast? hget)] at hmiss
      contradiction
    · intro h
      contradiction
  · have hfails : constraints.all (·.eval context) = false := by
      rw [List.all_eq_false]
      exact ⟨last, by simp [hsplit], by simp [hmiss]⟩
    rw [hlast, List.getLast?_concat]
    exact ⟨fun _ => hfails, fun _ => ⟨last, rfl, hmiss⟩⟩

end ConstraintSet

namespace Segment

/-- Each gate comes with the outcome that it leads to if it is the first that does not open. -/
theorem outcome_cases (segment : Segment) (sharder : Sharder Id) (key : String)
    (context : Context) :
    (segment.inRollout sharder key = false ∧
      segment.outcome sharder key context = .error .rollout) ∨
    (segment.inRollout sharder key = true ∧ segment.satisfied context = false ∧
      segment.outcome sharder key context = .error .constraints) ∨
    (segment.inRollout sharder key = true ∧ segment.satisfied context = true ∧
      segment.table.lookup (segment.draw sharder key .bucket) = none ∧
      segment.outcome sharder key context = .error .distribution) ∨
    (segment.inRollout sharder key = true ∧ segment.satisfied context = true ∧
      ∃ variant, segment.table.lookup (segment.draw sharder key .bucket) = some variant ∧
        segment.outcome sharder key context = .ok variant) := by
  unfold outcome
  cases segment.inRollout sharder key with
  | false => simp
  | true =>
    cases segment.satisfied context with
    | false => simp
    | true =>
      cases segment.table.lookup (segment.draw sharder key .bucket) with
      | none => simp
      | some variant => simp

section

variable {sharder : Sharder Id} {key : String} {context : Context} {segment : Segment}
  {position : Nat}

theorem result_eq_rolloutMiss :
    (segment.record sharder key context position).result = .rolloutMiss ↔
      segment.inRollout sharder key = false := by
  change SegmentResult.ofOutcome (segment.outcome sharder key context) = .rolloutMiss ↔ _
  rcases segment.outcome_cases sharder key context with
    ⟨hin, hout⟩ | ⟨hin, -, hout⟩ | ⟨hin, -, -, hout⟩ | ⟨hin, -, variant, -, hout⟩
  all_goals simp [hin, hout, SegmentResult.ofOutcome]

theorem result_eq_failingConstraints :
    (segment.record sharder key context position).result = .failingConstraints ↔
      segment.inRollout sharder key = true ∧ segment.satisfied context = false := by
  change SegmentResult.ofOutcome (segment.outcome sharder key context) = .failingConstraints ↔ _
  rcases segment.outcome_cases sharder key context with
    ⟨hin, hout⟩ | ⟨hin, hall, hout⟩ | ⟨hin, hall, -, hout⟩ | ⟨hin, hall, variant, -, hout⟩
  · simp [hin, hout, SegmentResult.ofOutcome]
  all_goals simp [hin, hall, hout, SegmentResult.ofOutcome]

theorem result_of_satisfied (hreg : segment.table.Regular)
    (h : segment.inRollout sharder key = true) (hall : segment.satisfied context = true) :
    (segment.table.Covers (segment.draw sharder key .bucket) →
      (segment.record sharder key context position).result = .matched) ∧
    (¬ segment.table.Covers (segment.draw sharder key .bucket) →
      (segment.record sharder key context position).result = .distributionMiss) := by
  change (_ → SegmentResult.ofOutcome (segment.outcome sharder key context) = _) ∧
    (_ → SegmentResult.ofOutcome (segment.outcome sharder key context) = _)
  rw [Table.covers_iff hreg]
  cases hlookup : segment.table.lookup (segment.draw sharder key .bucket) with
  | none => simp [outcome, h, hall, hlookup, SegmentResult.ofOutcome]
  | some variant => simp [outcome, h, hall, hlookup, SegmentResult.ofOutcome]

theorem endsUnmatched_record :
    (segment.record sharder key context position).EndsUnmatched ↔
      segment.inRollout sharder key = true ∧ segment.satisfied context = false := by
  have hconstraints : (segment.record sharder key context position).constraints =
      (segment.reached sharder key context).map (·.record context) := rfl
  unfold SegmentRecord.EndsUnmatched
  rw [hconstraints]
  cases h : segment.inRollout sharder key with
  | false => simp [reached, h]
  | true =>
    have hlast := ConstraintSet.getLast?_reached context segment.constraints.constraints
    simpa [reached, h, List.getLast?_map, Constraint.record, satisfied] using hlast

end

theorem record_tellsGates {segment : Segment} (hreg : segment.table.Regular)
    (sharder : Sharder Id) (key : String) (context : Context) (position : Nat) :
    (segment.record sharder key context position).TellsGates segment context
      (segment.draw sharder key) := by
  have hbucket : (segment.record sharder key context position).bucketSample =
      segment.bucketSample? sharder key context := rfl
  have hconstraints : (segment.record sharder key context position).constraints =
      (segment.reached sharder key context).map (·.record context) := rfl
  constructor
  case rolloutSample => rfl
  case rolloutMiss =>
    rw [result_eq_rolloutMiss]
    simp [inRollout]
  case rolloutMiss_rest =>
    intro h
    have hout := result_eq_rolloutMiss.1 h
    rw [hconstraints, hbucket]
    exact ⟨by simp [reached, hout], by simp [bucketSample?, hout]⟩
  case constraints =>
    intro h
    have hin : segment.inRollout sharder key = true := by
      simpa using mt result_eq_rolloutMiss.2 h
    refine ⟨_, ConstraintSet.upToFirstMiss_reached context _, ?_⟩
    rw [hconstraints, reached, if_pos hin]
    rfl
  case failing => rw [result_eq_failingConstraints, endsUnmatched_record]
  case failing_rest =>
    intro h
    obtain ⟨-, hfails⟩ := result_eq_failingConstraints.1 h
    rw [hbucket]
    simp [bucketSample?, hfails]
  case bucketSample =>
    intro hrollout hfailing
    have hin : segment.inRollout sharder key = true := by
      simpa using mt result_eq_rolloutMiss.2 hrollout
    have hall : segment.satisfied context = true := by
      simpa [hin] using mt result_eq_failingConstraints.2 hfailing
    refine ⟨?_, result_of_satisfied hreg hin hall⟩
    rw [hbucket]
    simp [bucketSample?, hin, hall]

end Segment

namespace Flag

theorem entry_tellsGates {flag : Flag} {entity : Entity} {context : Context}
    (hcontext : entity.context = .object context) {i : Nat} {segment : Segment}
    (hreg : segment.table.Regular) (hevaluated : (flag.entry entity i segment).result ≠ .unevaluated) :
    (flag.entry entity i segment).TellsGates segment context
      (segment.draw .md5 entity.samplingKey) := by
  rcases Nat.lt_or_ge i (flag.evaluated .md5 entity).length with hi | hi
  · rw [entry_of_lt hi (Value.object?_eq_some.2 hcontext)]
    exact Segment.record_tellsGates hreg .md5 entity.samplingKey context (i + 1)
  · rw [entry_of_le hi] at hevaluated
    exact absurd rfl hevaluated

/-- In the details of a prepared flag, evaluated for an entity with an object as context, the record
of every segment that was evaluated tells what became of each of its gates. The samples on record
are the shards of the sampling key under the salts of the segment. -/
theorem records_tell_gates {definition : FlagDefinition} {flag : Flag}
    (hflag : definition.prepare = .ok flag) {entity : Entity} {context : Context}
    (hcontext : entity.context = .object context) {i : Nat} {record : SegmentRecord}
    (hrecord : (flag.evaluateDetails entity).2.segments[i]? = some record)
    (hevaluated : record.result ≠ .unevaluated) :
    ∃ segment, flag.segments[i]? = some segment ∧
      (∃ d ∈ definition.segments,
        Segment.compile definition.id definition.variant? d = .ok segment) ∧
      record.TellsGates segment context fun purpose =>
        Sharder.shard (purpose.salt definition.id segment.id).toUTF8 entity.samplingKey.toUTF8
          totalBuckets := by
  rw [evaluateDetails_eq] at hrecord
  obtain ⟨segment, hsegment, rfl⟩ := (getElem?_details_segments flag entity).1 hrecord
  obtain ⟨d, hd, hcompile⟩ :=
    FlagDefinition.exists_compile_of_mem hflag (List.mem_of_getElem? hsegment)
  obtain ⟨rollout, set, table, -, -, htable, rfl⟩ := Segment.compile_eq_ok.1 hcompile
  have htells := entry_tellsGates hcontext (Table.regular_of_compile htable) hevaluated
  exact ⟨_, hsegment, ⟨d, hd, hcompile⟩, htells⟩

def survey : FlagDefinition where
  id := 12
  key := "survey"
  description := ""
  enabled := true
  segments := [
    { id := 1, description := "", rank := 0, rolloutPercent := ⟨0x4059000000000000⟩,
      constraints := [
        ⟨0, "plan", "EQ", "\"gold\""⟩, ⟨0, "seats", "GT", "3"⟩, ⟨0, "beta", "EQ", "true"⟩],
      distributions := [⟨0, 1, "", ⟨0x4059000000000000⟩⟩] }]
  variants := [⟨1, "long", none⟩]

def member : Entity := ⟨"ann", .object [("plan", .string "gold")], none⟩

theorem records_tell_gates_survey :
    let record : SegmentRecord :=
      ⟨1, 0, 1, .failingConstraints, some 47526, none,
        [⟨"plan", .eq, some (.string "gold"), true⟩, ⟨"seats", .gt, none, false⟩]⟩
    ∃ flag segment, survey.prepare = .ok flag ∧
      (flag.evaluateDetails member).2.segments[0]? = some record ∧
      record.result ≠ .unevaluated ∧ flag.segments[0]? = some segment ∧
      record.TellsGates segment [("plan", .string "gold")] fun purpose =>
        Sharder.shard (purpose.salt survey.id segment.id).toUTF8 member.samplingKey.toUTF8
          totalBuckets := by
  intro record
  obtain ⟨flag, hflag⟩ := Result.exists_eq_ok.2
    (by decide +kernel : survey.prepare.isOk = true)
  have hrecord : (flag.evaluateDetails member).2.segments[0]? = some record :=
    Result.eq_of_map_eq_some hflag
      (f := fun flag => (flag.evaluateDetails member).2.segments[0]?) (by decide +kernel)
  have hevaluated : record.result ≠ .unevaluated := by decide
  obtain ⟨segment, hsegment, -, htells⟩ := records_tell_gates hflag rfl hrecord hevaluated
  exact ⟨flag, segment, hflag, hrecord, hevaluated, hsegment, htells⟩

end Flag

end FeatureFlags
