import FeatureFlags.Details.Recorder
import FeatureFlags.Proofs.Story

/-! # The account of an evaluation

A recorder that is told the story of an evaluation ends with a record of every segment that was
evaluated. The details list these and then the other segments, each in its place, and name the
decision that was made. -/

namespace FeatureFlags

def Constraint.record (context : Context) (constraint : Constraint) : ConstraintRecord :=
  ⟨constraint.property, constraint.operator, constraint.lookup context, constraint.eval context⟩

def Segment.record (sharder : Sharder Id) (key : String) (context : Context) (segment : Segment)
    (position : Nat) : SegmentRecord where
  segmentId := segment.id
  rank := segment.rank
  orderPosition := position
  result := .ofOutcome (segment.outcome sharder key context)
  rolloutSample := some (segment.draw sharder key .rollout)
  bucketSample := segment.bucketSample? sharder key context
  constraints := (segment.reached sharder key context).map (·.record context)

namespace Recorder

def note (recorder : Recorder) (event : Event) : Recorder :=
  ((observer.tell event).run recorder).2

theorem hear_observer (events : List Event) (recorder : Recorder) :
    (observer.hear events).run recorder = ((), events.foldl note recorder) := by
  induction events generalizing recorder with
  | nil => rfl
  | cons event rest ih => exact ih (recorder.note event)

def withVisited (recorder : Recorder) (visited : List SegmentRecord) : Recorder :=
  { recorder with visited := visited }

section

variable (recorder : Recorder) (record : SegmentRecord) (visited : List SegmentRecord)

theorem foldl_note_constraints (context : Context) (constraints : List Constraint) :
    (constraints.map (·.event context)).foldl note (recorder.withVisited (record :: visited)) =
      recorder.withVisited
        ({ record with constraints := record.constraints ++ constraints.map (·.record context) } ::
          visited) := by
  induction constraints generalizing record with
  | nil => simp
  | cons constraint rest ih =>
    rw [List.map_cons, List.foldl_cons, List.map_cons, List.append_cons]
    exact ih { record with constraints := record.constraints ++ [constraint.record context] }

theorem foldl_note_bucketSample (sample? : Option Nat) (hnone : record.bucketSample = none) :
    (sample?.toList.map Event.bucketSample).foldl note (recorder.withVisited (record :: visited)) =
      recorder.withVisited ({ record with bucketSample := sample? } :: visited) := by
  obtain ⟨id, rank, position, result, rolloutSample, bucketSample, constraints⟩ := record
  cases hnone
  cases sample? with
  | none => rfl
  | some sample => rfl

end

variable (sharder : Sharder Id) (key : String) (context : Context)

theorem foldl_note_events (recorder : Recorder) (segment : Segment) :
    (segment.events sharder key context).foldl note recorder =
      recorder.withVisited
        (segment.record sharder key context (recorder.visited.length + 1) :: recorder.visited) := by
  have hannounced : (recorder.note (.segment segment)).note
        (.rolloutSample (segment.draw sharder key .rollout)) =
      recorder.withVisited
        ({ SegmentRecord.unevaluated (recorder.visited.length + 1) segment.id segment.rank with
            rolloutSample := some (segment.draw sharder key .rollout) } :: recorder.visited) := rfl
  rw [Segment.events, List.foldl_cons, List.foldl_cons, hannounced, List.foldl_append,
    List.foldl_append, foldl_note_constraints, foldl_note_bucketSample _ _ _ _ rfl]
  rfl

theorem foldl_note_segments (recorder : Recorder) (segments : List Segment) :
    (segments.flatMap (·.events sharder key context)).foldl note recorder =
      recorder.withVisited
        ((segments.mapIdx fun i segment =>
            segment.record sharder key context (recorder.visited.length + i + 1)).reverse ++
          recorder.visited) := by
  induction segments generalizing recorder with
  | nil => rfl
  | cons segment rest ih =>
    have hposition : ∀ i, recorder.visited.length + 1 + i = recorder.visited.length + (i + 1) := by
      intro i
      omega
    rw [List.flatMap_cons, List.foldl_append, foldl_note_events, ih, List.mapIdx_cons,
      List.reverse_cons, List.append_assoc]
    simp only [withVisited, List.length_cons, hposition]
    rfl

end Recorder

namespace Flag

section

variable (flag : Flag) (entity : Entity)

def records : List SegmentRecord :=
  match entity.context.object? with
  | none => []
  | some context =>
    (flag.evaluated .md5 entity).mapIdx fun i segment =>
      segment.record .md5 entity.samplingKey context (i + 1)

def recorded : Recorder where
  flagKey := flag.key
  flagId := some flag.id
  flagEnabled := some flag.enabled
  order := flag.segments.map fun segment => (segment.id, segment.rank)
  visited := (flag.records entity).reverse
  result := some (flag.verdict .md5 entity)

theorem foldl_note_segmentEvents (recorder : Recorder) (hvisited : recorder.visited = []) :
    (flag.segmentEvents .md5 entity).foldl Recorder.note recorder =
      recorder.withVisited (flag.records entity).reverse := by
  unfold segmentEvents records
  cases entity.context.object? with
  | none =>
    obtain ⟨key, id, enabled, order, visited, result⟩ := recorder
    cases hvisited
    rfl
  | some context =>
    change List.foldl _ _ (List.flatMap _ _) = _
    rw [Recorder.foldl_note_segments]
    simp [hvisited]

theorem foldl_note_story :
    (flag.story .md5 entity).foldl Recorder.note (.start flag.key) = flag.recorded entity := by
  rw [story, List.foldl_cons, List.foldl_append, foldl_note_segmentEvents _ _ _ rfl]
  rfl

/-- An evaluation with details is one without them, and the details are those of its story. -/
theorem evaluateDetails_eq :
    flag.evaluateDetails entity =
      (flag.verdict .md5 entity, (flag.recorded entity).details entity) := by
  have htold := evaluateWith_eq Recorder.observer Sharder.md5 flag entity
  have hrun : (flag.evaluateWith Recorder.observer .md5 entity).run (Recorder.start flag.key) =
      (flag.verdict .md5 entity, flag.recorded entity) := by
    rw [← foldl_note_story]
    change (flag.evaluateWith Recorder.observer Sharder.md5.lift entity).run _ = _
    rw [htold, StateT.run_bind, Recorder.hear_observer]
    rfl
  rw [evaluateDetails, Recorder.record, hrun]

def entry (i : Nat) (segment : Segment) : SegmentRecord :=
  match entity.context.object? with
  | none => .unevaluated (i + 1) segment.id segment.rank
  | some context =>
    if i < (flag.evaluated .md5 entity).length then
      segment.record .md5 entity.samplingKey context (i + 1)
    else .unevaluated (i + 1) segment.id segment.rank

theorem recorded_segments :
    (flag.recorded entity).segments = flag.segments.mapIdx (flag.entry entity) := by
  refine List.ext_getElem? fun i => ?_
  simp only [Recorder.segments, recorded, List.reverse_reverse, List.length_reverse]
  unfold records entry
  cases entity.context.object? with
  | none => simp [Function.comp_def]
  | some context =>
    -- The tail skips as many segments as there are records, so positions go on without a gap.
    by_cases hi : i < (flag.evaluated .md5 entity).length
    · rw [List.getElem?_append_left (by simpa using hi), List.getElem?_mapIdx,
        flag.evaluated_getElem? _ _ hi]
      simp [hi]
    · have hle : (flag.evaluated .md5 entity).length ≤ i := Nat.le_of_not_lt hi
      rw [List.getElem?_append_right (by simpa using hle)]
      simp [Function.comp_def, hi, Nat.add_sub_cancel' hle]

end

end Flag

end FeatureFlags
