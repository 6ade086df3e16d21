import FeatureFlags.Document.Reader
import FeatureFlags.Predicate

/-! # Constraints and conjunctions of them -/

namespace FeatureFlags

structure Constraint where
  property : String
  predicate : Predicate
  deriving Repr

namespace Constraint

/-- The constraint that a definition states. A missing part is found first, then an unknown
operator, then a value that is no JSON text, and last one that the operator does not take. -/
def compile (definition : ConstraintDefinition) : Result Constraint :=
  let value := Text.trim definition.value
  if definition.property.isEmpty || definition.operator.isEmpty || value.isEmpty then
    .error (.invalidConstraint definition.property definition.operator definition.value)
  else
    match Operator.ofName? definition.operator with
    | none => .error (.unsupportedOperator definition.operator)
    | some operator =>
      match Json.ofText? value with
      | none => .error (.invalidConstraintValue definition.property)
      | some target => do
        return ⟨definition.property, ← Predicate.compile definition operator target⟩

def operator (constraint : Constraint) : Operator := constraint.predicate.operator

def lookup (constraint : Constraint) (context : Context) : Option Value :=
  context.find? constraint.property

/-- A property that is missing satisfies no constraint. -/
def evalValue (constraint : Constraint) (value : Option Value) : Bool :=
  value.any constraint.predicate.eval

def eval (constraint : Constraint) (context : Context) : Bool :=
  constraint.evalValue (constraint.lookup context)

def matchesContext (constraint : Constraint) (context : Value) : Result Bool :=
  match context.object? with
  | none => .error .invalidEntityContext
  | some context => .ok (constraint.eval context)

end Constraint

structure ConstraintSet where
  constraints : List Constraint
  deriving Repr

namespace ConstraintSet

/-- The set that definitions state; the first that does not compile decides on the error. -/
def compile (definitions : List ConstraintDefinition) : Result ConstraintSet := do
  return ⟨← definitions.mapM Constraint.compile⟩

def size (set : ConstraintSet) : Nat := set.constraints.length

def isEmpty (set : ConstraintSet) : Bool := set.constraints.isEmpty

def evalEach {m : Type → Type} [Monad m] (report : Constraint → Option Value → Bool → m Unit)
    (context : Context) : List Constraint → m Bool
  | [] => return true
  | constraint :: rest => do
    let value := constraint.lookup context
    let satisfied := constraint.evalValue value
    report constraint value satisfied
    if satisfied then evalEach report context rest else return false

/-- Whether every constraint is satisfied. The context has to be an object unless there is nothing
to satisfy. -/
def matchesContext (set : ConstraintSet) (context : Value) : Result Bool :=
  if set.isEmpty then .ok true
  else
    match context.object? with
    | none => .error .invalidEntityContext
    | some context => .ok (Id.run (evalEach (fun _ _ _ => return) context set.constraints))

end ConstraintSet

end FeatureFlags
