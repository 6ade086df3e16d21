import FeatureFlags.Document

/-! # Flags as they are defined

These are plain data. They are prepared before anything is evaluated. -/

namespace FeatureFlags

inductive Operator where
  | eq
  | neq
  | lt
  | lte
  | gt
  | gte
  | ereg
  | nereg
  | isIn
  | notIn
  | contains
  | notContains
  deriving DecidableEq, Repr

namespace Operator

def all : List Operator :=
  [.eq, .neq, .lt, .lte, .gt, .gte, .ereg, .nereg, .isIn, .notIn, .contains, .notContains]

def name : Operator → String
  | .eq => "EQ"
  | .neq => "NEQ"
  | .lt => "LT"
  | .lte => "LTE"
  | .gt => "GT"
  | .gte => "GTE"
  | .ereg => "EREG"
  | .nereg => "NEREG"
  | .isIn => "IN"
  | .notIn => "NOTIN"
  | .contains => "CONTAINS"
  | .notContains => "NOTCONTAINS"

/-- The operator of a name; upper and lower case differ. -/
def ofName? (name : String) : Option Operator :=
  all.find? fun operator => operator.name == name

def ofDocument? (document : Document) : Option Operator :=
  document.asName?.bind ofName?

theorem ofName?_name (operator : Operator) : ofName? operator.name = some operator := by
  cases operator <;> decide

end Operator

structure Variant where
  id : UInt64
  key : String
  attachment : Option Json
  deriving DecidableEq, Repr

structure Distribution where
  id : UInt64
  variantId : UInt64
  variantKey : String
  percent : Binary64
  deriving DecidableEq, Repr

/-- A condition on a property of the entity; the value is JSON text. -/
structure ConstraintDefinition where
  id : UInt64
  property : String
  operator : String
  value : String
  deriving DecidableEq, Repr

structure SegmentDefinition where
  id : UInt64
  description : String
  /-- Lower ranks are evaluated first. -/
  rank : UInt32
  rolloutPercent : Binary64
  constraints : List ConstraintDefinition
  distributions : List Distribution
  deriving DecidableEq, Repr

structure FlagDefinition where
  id : UInt64
  key : String
  description : String
  enabled : Bool
  segments : List SegmentDefinition
  variants : List Variant
  deriving DecidableEq, Repr

def SegmentDefinition.defaultRank : UInt32 := 999

open Document

def Variant.ofDocumentWithin? (limit : Option Nat) (document : Document) : Option Variant :=
  match document.fields? ["id", "key", "attachment"] with
  | some [id, key, attachment] => do
    some {
      id := ← required asUInt64? id
      key := ← required asString? key
      attachment := ← optional (value? limit) attachment }
  | _ => none

/-- An attachment stands three levels inside its flag. -/
def Variant.attachmentLevels : Nat := maxLevels - 3

def Variant.ofDocument? (document : Document) : Option Variant :=
  ofDocumentWithin? (some attachmentLevels) document

def Distribution.ofDocument? (document : Document) : Option Distribution :=
  match document.fields? ["id", "variantId", "variantKey", "percent"] with
  | some [id, variantId, variantKey, percent] => do
    some {
      id := ← orDefault 0 asUInt64? id
      variantId := ← required asUInt64? variantId
      variantKey := ← orDefault "" asString? variantKey
      percent := ← required asBinary64? percent }
  | _ => none

def ConstraintDefinition.ofDocument? (document : Document) : Option ConstraintDefinition :=
  match document.fields? ["id", "property", "operator", "value"] with
  | some [id, property, operator, value] => do
    some {
      id := ← orDefault 0 asUInt64? id
      property := ← required asString? property
      operator := ← required asString? operator
      value := ← required asString? value }
  | _ => none

def SegmentDefinition.ofDocument? (document : Document) : Option SegmentDefinition :=
  match document.fields?
      ["id", "description", "rank", "rolloutPercent", "constraints", "distributions"] with
  | some [id, description, rank, rolloutPercent, constraints, distributions] => do
    some {
      id := ← required asUInt64? id
      description := ← orDefault "" asString? description
      rank := ← orDefault defaultRank asUInt32? rank
      rolloutPercent := ← required asBinary64? rolloutPercent
      constraints := ← orDefault [] (asList? ConstraintDefinition.ofDocument?) constraints
      distributions := ← orDefault [] (asList? Distribution.ofDocument?) distributions }
  | _ => none

def FlagDefinition.ofDocumentWithin? (limit : Option Nat) (document : Document) :
    Option FlagDefinition :=
  match document.fields? ["id", "key", "description", "enabled", "segments", "variants"] with
  | some [id, key, description, enabled, segments, variants] => do
    some {
      id := ← required asUInt64? id
      key := ← orDefault "" asString? key
      description := ← orDefault "" asString? description
      enabled := ← required asBool? enabled
      segments := ← orDefault [] (asList? SegmentDefinition.ofDocument?) segments
      variants := ← orDefault [] (asList? (Variant.ofDocumentWithin? limit)) variants }
  | _ => none

def FlagDefinition.ofDocument? (document : Document) : Option FlagDefinition :=
  ofDocumentWithin? (some Variant.attachmentLevels) document

/-- The flag that a JSON value stands for. Values, unlike texts, are under no limit. -/
def FlagDefinition.ofJson? (json : Json) : Option FlagDefinition :=
  ofDocumentWithin? none (.ofJson json)

def Variant.toJson (variant : Variant) : Json :=
  .ofMembers (("id", .ofNat variant.id.toNat) :: ("key", .string variant.key) ::
    (variant.attachment.map fun attachment => ("attachment", attachment)).toList)

def Distribution.toJson (distribution : Distribution) : Json :=
  .ofMembers [
    ("id", .ofNat distribution.id.toNat),
    ("variantId", .ofNat distribution.variantId.toNat),
    ("variantKey", .string distribution.variantKey),
    ("percent", .ofBinary64 distribution.percent)]

def ConstraintDefinition.toJson (constraint : ConstraintDefinition) : Json :=
  .ofMembers [
    ("id", .ofNat constraint.id.toNat),
    ("property", .string constraint.property),
    ("operator", .string constraint.operator),
    ("value", .string constraint.value)]

def SegmentDefinition.toJson (segment : SegmentDefinition) : Json :=
  .ofMembers [
    ("id", .ofNat segment.id.toNat),
    ("description", .string segment.description),
    ("rank", .ofNat segment.rank.toNat),
    ("rolloutPercent", .ofBinary64 segment.rolloutPercent),
    ("constraints", .array (segment.constraints.map ConstraintDefinition.toJson)),
    ("distributions", .array (segment.distributions.map Distribution.toJson))]

def FlagDefinition.toJson (flag : FlagDefinition) : Json :=
  .ofMembers [
    ("id", .ofNat flag.id.toNat),
    ("key", .string flag.key),
    ("description", .string flag.description),
    ("enabled", .bool flag.enabled),
    ("segments", .array (flag.segments.map SegmentDefinition.toJson)),
    ("variants", .array (flag.variants.map Variant.toJson))]

end FeatureFlags
