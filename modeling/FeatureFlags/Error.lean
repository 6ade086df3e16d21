import FeatureFlags.Definition
import FeatureFlags.Text

/-! # What can go wrong -/

namespace FeatureFlags

inductive Error where
  /-- A constraint without property, operator or value. -/
  | invalidConstraint (property operator value : String)
  | unsupportedOperator (name : String)
  | invalidConstraintValue (property : String)
  /-- The operator does not take values of this kind. -/
  | unsupportedValueType (property : String) (operator : Operator) (value : String)
  | invalidPattern (property : String)
  | invalidPercent (segmentId : UInt64) (percent : Binary64)
  | unknownVariant (segmentId variantId : UInt64)
  | invalidEntityContext
  | flagNotFound
  deriving DecidableEq, Repr

abbrev Result := Except Error

instance {α : Type} [DecidableEq α] : DecidableEq (Result α)
  | .ok a, .ok b => if h : a = b then isTrue (by rw [h]) else isFalse (by simp [h])
  | .error a, .error b => if h : a = b then isTrue (by rw [h]) else isFalse (by simp [h])
  | .ok _, .error _ => isFalse (by simp)
  | .error _, .ok _ => isFalse (by simp)

namespace Error

/-- Whether the fault lies in a definition, so that it must not be published. -/
def isPrepareError : Error → Bool
  | .invalidEntityContext => false
  | .flagNotFound => false
  | _ => true

def message : Error → String
  | .invalidConstraint property operator value =>
    s!"empty Property/Operator/Value: {property}/{operator}/{value}"
  | .unsupportedOperator name => s!"not supported operator: {name}"
  | .invalidConstraintValue property =>
    "invalid constraint value for " ++ Text.quote property ++
      ", note: strings must be wrapped with quotes \"...\""
  | .unsupportedValueType property operator value =>
    "unsupported value type for " ++ operator.name ++ " on " ++ Text.quote property ++ ": " ++ value
  | .invalidPattern property => "invalid constraint regex for " ++ Text.quote property
  | .invalidPercent segmentId percent =>
    "invalid percent " ++ percent.text ++ " in segment " ++ toString segmentId
  | .unknownVariant segmentId variantId =>
    s!"distribution in segment {segmentId} references unknown variant {variantId}"
  | .invalidEntityContext => "invalid entity_context, expected an object"
  | .flagNotFound => "flag not found"

end Error

end FeatureFlags
