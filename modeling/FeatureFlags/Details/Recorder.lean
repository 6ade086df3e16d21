import FeatureFlags.Details

/-! # Recording an evaluation -/

namespace FeatureFlags

def SegmentRecord.unevaluated (position : Nat) (id : UInt64) (rank : UInt32) : SegmentRecord where
  segmentId := id
  rank := rank
  orderPosition := position
  result := .unevaluated
  rolloutSample := none
  bucketSample := none
  constraints := []

structure Recorder where
  /-- The key that was asked for, and then that of the flag. -/
  flagKey : String
  flagId : Option UInt64
  flagEnabled : Option Bool
  order : List (UInt64 × UInt32)
  /-- The segments that were evaluated, the last one first. -/
  visited : List SegmentRecord
  result : Option (Result Decision)

namespace Recorder

def start (flagKey : String) : Recorder where
  flagKey := flagKey
  flagId := none
  flagEnabled := none
  order := []
  visited := []
  result := none

def setFlag (flag : Flag) (recorder : Recorder) : Recorder :=
  { recorder with
    flagKey := flag.key
    flagId := some flag.id
    flagEnabled := some flag.enabled
    order := flag.segments.map fun segment => (segment.id, segment.rank) }

def addSegment (segment : Segment) (recorder : Recorder) : Recorder :=
  let position := recorder.visited.length + 1
  { recorder with
    visited := .unevaluated position segment.id segment.rank :: recorder.visited }

def amend (change : SegmentRecord → SegmentRecord) (recorder : Recorder) : Recorder :=
  { recorder with visited := recorder.visited.modifyHead change }

def observer : Observer (StateM Recorder) where
  flag flag := modify (setFlag flag)
  segment segment := modify (addSegment segment)
  rolloutSample sample := modify (amend fun record => { record with rolloutSample := some sample })
  constraint constraint value matched :=
    modify (amend fun record =>
      { record with
        constraints := record.constraints ++
          [⟨constraint.property, constraint.operator, value, matched⟩] })
  bucketSample sample := modify (amend fun record => { record with bucketSample := some sample })
  outcome outcome :=
    modify (amend fun record => { record with result := .ofOutcome outcome })
  result result := modify fun recorder => { recorder with result := some result }

def reason (recorder : Recorder) : Reason :=
  match recorder.result with
  | some (.ok (.matched _)) => .matched
  | some (.ok .noSegmentMatched) =>
    if recorder.flagEnabled = some false then .flagDisabled else .noSegmentMatched
  | some (.error _) => .error
  | none => .error

def description (recorder : Recorder) (entityId : String) : String :=
  let flagKey := Text.quote recorder.flagKey
  match recorder.result with
  | none => "Flag evaluation was not attempted"
  | some (.error .flagNotFound) => "Flag not found: " ++ flagKey
  | some (.error error) => "Error occurred while evaluating flag " ++ flagKey ++ ": " ++ error.message
  | some (.ok (.matched assignment)) =>
    entityId ++ " matched segment " ++ toString assignment.segmentId ++
      " and was assigned variant " ++ Text.quote assignment.variantKey ++ "."
  | some (.ok .noSegmentMatched) =>
    if recorder.flagEnabled = some false then "Flag " ++ flagKey ++ " is disabled."
    else "No segment matched " ++ entityId ++ "."

def segments (recorder : Recorder) : List SegmentRecord :=
  recorder.visited.reverse ++
    (recorder.order.mapIdx fun i (id, rank) => .unevaluated (i + 1) id rank).drop
      recorder.visited.length

def assignment? (recorder : Recorder) : Option Assignment :=
  match recorder.result with
  | some (.ok decision) => decision.assignment?
  | _ => none

def details (recorder : Recorder) (entity : Entity) : Details where
  flagId := recorder.flagId
  flagKey := recorder.flagKey
  entityId := entity.id
  entityContext := entity.context
  reason := recorder.reason
  description := recorder.description entity.id
  segmentId := recorder.assignment?.map (·.segmentId)
  variantId := recorder.assignment?.map (·.variantId)
  variantKey := recorder.assignment?.map (·.variantKey)
  segments := recorder.segments

def record (flagKey : String) (entity : Entity)
    (evaluation : StateM Recorder (Result Decision)) : Result Decision × Details :=
  let (result, recorder) := evaluation.run (start flagKey)
  (result, recorder.details entity)

end Recorder

def Flag.evaluateDetails (flag : Flag) (entity : Entity) : Result Decision × Details :=
  Recorder.record flag.key entity (flag.evaluateWith Recorder.observer .md5 entity)

end FeatureFlags
