import FeatureFlags.Constraint
import FeatureFlags.Sharder

/-! # Flags prepared for evaluation

Samples are drawn from 100000 buckets, so a percent is worth a thousand of them. A segment has three
gates: the rollout, its constraints, and the table that covers some of the buckets. Rollout and bucket
are sampled apart, under salts of their own. Segments are put into evaluation order once. The order
is by rank and, where ranks are equal, the one in which the segments are defined. -/

namespace FeatureFlags

def bucketsPerPercent : Nat := 1000

def totalBuckets : Nat := 100 * bucketsPerPercent

/-- The buckets of a percent from 0 to 100: a thousand times the percent, rounded to a double and
then to a whole number, a half going up. -/
def bucketsOf? (percent : Binary64) : Option Nat :=
  if percent.isFinite && decide (0 ≤ percent.units ∧ percent.units ≤ 100 * Binary64.one) then
    some (percent.scale bucketsPerPercent).roundHalfUp
  else none

def bucketsOf (segmentId : UInt64) (percent : Binary64) : Result Nat :=
  match bucketsOf? percent with
  | some buckets => .ok buckets
  | none => .error (.invalidPercent segmentId percent)

/-- Boundaries and the variants that they close, in the order of the distributions. The `i`-th
variant has the samples from the boundary before it up to but not including its own. -/
structure Table where
  boundaries : Array Nat
  variants : Array Variant
  deriving DecidableEq, Repr

namespace Table

def maxBoundary : Nat := UInt32.size - 1

/-- The running sums of some widths, each of them cut off at the largest boundary. -/
def sums (total : Nat) : List Nat → List Nat
  | [] => []
  | width :: rest =>
    let total := min (total + width) maxBoundary
    total :: sums total rest

def ofPercents (segmentId : UInt64) (shares : List (Variant × Binary64)) : Result Table := do
  let widths ← shares.mapM fun (_, percent) => bucketsOf segmentId percent
  return ⟨(sums 0 widths).toArray, (shares.map (·.1)).toArray⟩

/-- The table of a segment. All variants are looked up before any percent is read. -/
def compile (variant? : UInt64 → Option Variant) (segment : SegmentDefinition) : Result Table := do
  let shares ← segment.distributions.mapM fun distribution =>
    match variant? distribution.variantId with
    | some variant => .ok (variant, distribution.percent)
    | none => .error (.unknownVariant segment.id distribution.variantId)
  ofPercents segment.id shares

/-- The first position from `start` on, and before `stop`, at which the test fails, if it holds up
to some position and fails from there on. -/
def partitionPoint (test : Nat → Bool) (start stop : Nat) : Nat :=
  if _h : start < stop then
    let middle := start + (stop - start) / 2
    if test middle then partitionPoint test (middle + 1) stop
    else partitionPoint test start middle
  else start
termination_by stop - start
decreasing_by all_goals omega

def position (table : Table) (sample : Nat) : Nat :=
  partitionPoint (fun i => decide (table.boundaries.getD i 0 ≤ sample)) 0 table.boundaries.size

def lookup (table : Table) (sample : Nat) : Option Variant :=
  table.variants[table.position sample]?

end Table

inductive Purpose where
  | rollout
  | bucket
  deriving DecidableEq, Repr

def Purpose.salt (flagId segmentId : UInt64) : Purpose → String
  | .rollout => toString flagId ++ ":" ++ toString segmentId ++ ":rollout:"
  | .bucket => toString flagId ++ ":" ++ toString segmentId ++ ":"

structure Segment where
  flagId : UInt64
  id : UInt64
  rank : UInt32
  /-- Samples below it are in the rollout. -/
  rollout : Nat
  constraints : ConstraintSet
  table : Table
  deriving Repr

namespace Segment

/-- The segment of a definition. Its rollout is checked first, then its constraints, then the
variants it refers to and last the percents of those. -/
def compile (flagId : UInt64) (variant? : UInt64 → Option Variant)
    (definition : SegmentDefinition) : Result Segment := do
  let rollout ← bucketsOf definition.id definition.rolloutPercent
  let constraints ← ConstraintSet.compile definition.constraints
  let table ← Table.compile variant? definition
  return { flagId, id := definition.id, rank := definition.rank, rollout, constraints, table }

def salt (segment : Segment) (purpose : Purpose) : String :=
  purpose.salt segment.flagId segment.id

def sample {m : Type → Type} (segment : Segment) (sharder : Sharder m) (purpose : Purpose)
    (key : String) : m Nat :=
  sharder (segment.salt purpose).toUTF8 key.toUTF8 totalBuckets

end Segment

structure Flag where
  id : UInt64
  key : String
  enabled : Bool
  segments : List Segment
  deriving Repr

namespace Segment

/-- Put a segment in front of the first one whose rank is not lower. -/
def insertByRank (segment : Segment) (segments : List Segment) : List Segment :=
  segments.takeWhile (·.rank < segment.rank) ++
    segment :: segments.dropWhile (·.rank < segment.rank)

/-- The segments in evaluation order. Each is inserted after all that are defined behind it, so it
comes to stand before those of its own rank. -/
def ordered (segments : List Segment) : List Segment :=
  segments.foldr insertByRank []

end Segment

/-- The variant of an id. Of several with the same id the last one counts. -/
def FlagDefinition.variant? (definition : FlagDefinition) (id : UInt64) : Option Variant :=
  definition.variants.reverse.find? fun variant => variant.id == id

/-- The flag of a definition. A fault anywhere in it refuses the whole definition; the first one
counts, with segments taken as they are defined. -/
def FlagDefinition.prepare (definition : FlagDefinition) : Result Flag := do
  let segments ← definition.segments.mapM (Segment.compile definition.id definition.variant?)
  return {
    id := definition.id
    key := definition.key
    enabled := definition.enabled
    segments := Segment.ordered segments }

end FeatureFlags
