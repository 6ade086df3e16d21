import FeatureFlags.Flag

/-! # Evaluation

The segments of a flag are tried in order and the first to select a variant decides. An observer
is told every step; it has no say in the decision. -/

namespace FeatureFlags

structure Assignment where
  flagId : UInt64
  flagKey : String
  segmentId : UInt64
  variantId : UInt64
  variantKey : String
  variantAttachment : Option Json
  deriving DecidableEq, Repr

inductive Decision where
  | matched (assignment : Assignment)
  /-- The flag is disabled, or no segment selects a variant. -/
  | noSegmentMatched
  deriving DecidableEq, Repr

def Assignment.toJson (assignment : Assignment) : Json :=
  .ofMembers ([
    ("flagId", .ofNat assignment.flagId.toNat),
    ("flagKey", .string assignment.flagKey),
    ("segmentId", .ofNat assignment.segmentId.toNat),
    ("variantId", .ofNat assignment.variantId.toNat),
    ("variantKey", .string assignment.variantKey)] ++
    (assignment.variantAttachment.map fun attachment => ("variantAttachment", attachment)).toList)

namespace Decision

def assignment? : Decision → Option Assignment
  | .matched assignment => some assignment
  | .noSegmentMatched => none

def toJson : Decision → Json
  | .matched assignment => .ofMembers [("matched", assignment.toJson)]
  | .noSegmentMatched => .string "noSegmentMatched"

end Decision

inductive Miss where
  | rollout
  | constraints
  | distribution
  deriving DecidableEq, Repr

/-- What is told during an evaluation. A flag comes first and a result last. In between each
segment is announced and followed by what happens in it, up to its outcome. -/
structure Observer (m : Type → Type) where
  flag : Flag → m Unit
  segment : Segment → m Unit
  rolloutSample : Nat → m Unit
  constraint : Constraint → Option Value → Bool → m Unit
  bucketSample : Nat → m Unit
  outcome : Except Miss Variant → m Unit
  result : Result Decision → m Unit

def Observer.silent {m : Type → Type} [Monad m] : Observer m where
  flag _ := return
  segment _ := return
  rolloutSample _ := return
  constraint _ _ _ := return
  bucketSample _ := return
  outcome _ := return
  result _ := return

section

variable {m : Type → Type} [Monad m] (observer : Observer m) (sharder : Sharder m)

namespace Segment

/-- The gates in their order. A gate that does not open leaves those behind it untried. -/
def passGates (segment : Segment) (key : String) (context : Context) :
    m (Except Miss Variant) := do
  let rolloutSample ← segment.sample sharder .rollout key
  observer.rolloutSample rolloutSample
  if rolloutSample < segment.rollout then
    if ← ConstraintSet.evalEach observer.constraint context segment.constraints.constraints then
      let bucketSample ← segment.sample sharder .bucket key
      observer.bucketSample bucketSample
      match segment.table.lookup bucketSample with
      | some variant => return .ok variant
      | none => return .error .distribution
    else return .error .constraints
  else return .error .rollout

def evaluate (segment : Segment) (key : String) (context : Context) :
    m (Except Miss Variant) := do
  observer.segment segment
  let outcome ← segment.passGates observer sharder key context
  observer.outcome outcome
  return outcome

end Segment

namespace Flag

def assignment (flag : Flag) (segment : Segment) (variant : Variant) : Assignment where
  flagId := flag.id
  flagKey := flag.key
  segmentId := segment.id
  variantId := variant.id
  variantKey := variant.key
  variantAttachment := variant.attachment

def firstMatch (flag : Flag) (key : String) (context : Context) : List Segment → m Decision
  | [] => return .noSegmentMatched
  | segment :: rest => do
    match ← segment.evaluate observer sharder key context with
    | .ok variant => return .matched (flag.assignment segment variant)
    | .error _ => firstMatch flag key context rest

/-- The context of a disabled flag does not matter; otherwise it has to be an object. -/
def evaluateSegments (flag : Flag) (entity : Entity) : m (Result Decision) :=
  if flag.enabled then
    match entity.context.object? with
    | none => return .error .invalidEntityContext
    | some context =>
      Except.ok <$> flag.firstMatch observer sharder entity.samplingKey context flag.segments
  else return .ok .noSegmentMatched

def evaluateWith (flag : Flag) (entity : Entity) : m (Result Decision) := do
  observer.flag flag
  let result ← flag.evaluateSegments observer sharder entity
  observer.result result
  return result

end Flag

end

def Flag.evaluate (flag : Flag) (entity : Entity) : Result Decision :=
  Id.run (flag.evaluateWith .silent .md5 entity)

end FeatureFlags
