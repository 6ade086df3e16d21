import FeatureFlags.Evaluation

/-! # Why a flag was decided as it was

Details are put together while a flag is evaluated. Segments that were not reached are listed as
well, after those that were. -/

namespace FeatureFlags

inductive Reason where
  | matched
  | flagDisabled
  | noSegmentMatched
  | error
  deriving DecidableEq, Repr

inductive SegmentResult where
  /-- An earlier segment matched, or no segment was evaluated at all. -/
  | unevaluated
  | matched
  | rolloutMiss
  | failingConstraints
  | distributionMiss
  deriving DecidableEq, Repr

structure ConstraintRecord where
  property : String
  operator : Operator
  value : Option Value
  matched : Bool
  deriving DecidableEq, Repr

structure SegmentRecord where
  segmentId : UInt64
  rank : UInt32
  /-- Counted from one. -/
  orderPosition : Nat
  result : SegmentResult
  rolloutSample : Option Nat
  bucketSample : Option Nat
  /-- Up to the first that does not match. -/
  constraints : List ConstraintRecord
  deriving DecidableEq, Repr

/-- The account of an evaluation, but for the time at which it took place. -/
structure Details where
  /-- Missing if there is no such flag. -/
  flagId : Option UInt64
  flagKey : String
  entityId : String
  entityContext : Value
  reason : Reason
  description : String
  segmentId : Option UInt64
  variantId : Option UInt64
  variantKey : Option String
  segments : List SegmentRecord
  deriving DecidableEq, Repr

namespace Reason

def all : List Reason := [.matched, .flagDisabled, .noSegmentMatched, .error]

def name : Reason → String
  | .matched => "MATCHED"
  | .flagDisabled => "FLAG_DISABLED"
  | .noSegmentMatched => "NO_SEGMENT_MATCHED"
  | .error => "ERROR"

def ofName? (name : String) : Option Reason :=
  all.find? fun reason => reason.name == name

def ofDocument? (document : Document) : Option Reason :=
  document.asName?.bind ofName?

theorem ofName?_name (reason : Reason) : ofName? reason.name = some reason := by
  cases reason <;> decide

end Reason

namespace SegmentResult

def all : List SegmentResult :=
  [.unevaluated, .matched, .rolloutMiss, .failingConstraints, .distributionMiss]

def name : SegmentResult → String
  | .unevaluated => "UNEVALUATED"
  | .matched => "MATCHED"
  | .rolloutMiss => "ROLLOUT_MISS"
  | .failingConstraints => "FAILING_CONSTRAINTS"
  | .distributionMiss => "DISTRIBUTION_MISS"

def ofName? (name : String) : Option SegmentResult :=
  all.find? fun result => result.name == name

def ofDocument? (document : Document) : Option SegmentResult :=
  document.asName?.bind ofName?

theorem ofName?_name (result : SegmentResult) : ofName? result.name = some result := by
  cases result <;> decide

def ofOutcome : Except Miss Variant → SegmentResult
  | .ok _ => .matched
  | .error .rollout => .rolloutMiss
  | .error .constraints => .failingConstraints
  | .error .distribution => .distributionMiss

end SegmentResult

def ConstraintRecord.toJson (record : ConstraintRecord) : Json :=
  .ofMembers [
    ("property", .string record.property),
    ("operator", .string record.operator.name),
    ("value", .ofOption Value.toJson record.value),
    ("matched", .bool record.matched)]

def SegmentRecord.toJson (record : SegmentRecord) : Json :=
  .ofMembers [
    ("segmentId", .ofNat record.segmentId.toNat),
    ("rank", .ofNat record.rank.toNat),
    ("orderPosition", .ofNat record.orderPosition),
    ("result", .string record.result.name),
    ("rolloutSample", .ofOption .ofNat record.rolloutSample),
    ("bucketSample", .ofOption .ofNat record.bucketSample),
    ("constraints", .array (record.constraints.map ConstraintRecord.toJson))]

def Details.toJson (details : Details) : Json :=
  let ofId (id : UInt64) : Json := .ofNat id.toNat
  .ofMembers [
    ("flagId", .ofOption ofId details.flagId),
    ("flagKey", .string details.flagKey),
    ("entityId", .string details.entityId),
    ("entityContext", details.entityContext.toJson),
    ("reason", .string details.reason.name),
    ("description", .string details.description),
    ("segmentId", .ofOption ofId details.segmentId),
    ("variantId", .ofOption ofId details.variantId),
    ("variantKey", .ofOption .string details.variantKey),
    ("segments", .array (details.segments.map SegmentRecord.toJson))]

end FeatureFlags
