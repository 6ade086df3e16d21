import FeatureFlags.Context
import FeatureFlags.Error
import FeatureFlags.Pattern

/-! # Predicates over values

Values of different types are never equal and numbers are not read from strings. Where the type
does not fit, an operator does not match and its negation does; the ordering operators match
numbers only. -/

namespace FeatureFlags

inductive Scalar where
  | number (target : Binary64)
  | string (target : String)
  | boolean (target : Bool)
  deriving DecidableEq, Repr

namespace Scalar

def ofJson? : Json → Option Scalar
  | .number n => some (.number n.toBinary64)
  | .string s => some (.string s)
  | .bool b => some (.boolean b)
  | _ => none

def matchesValue : Scalar → Value → Bool
  | .number target, .number x => x.eq target
  | .string target, .string s => s == target
  | .boolean target, .boolean b => b == target
  | _, _ => false

end Scalar

inductive ScalarSet where
  /-- In written order, with repetitions. -/
  | numbers (targets : List Binary64)
  /-- Each once, in increasing order. -/
  | strings (targets : List String)
  deriving DecidableEq, Repr

namespace ScalarSet

def insertString (s : String) : List String → List String
  | [] => [s]
  | t :: rest =>
    if s < t then s :: t :: rest else if s = t then t :: rest else t :: insertString s rest

def number? : Json → Option Binary64
  | .number n => some n.toBinary64
  | _ => none

def string? : Json → Option String
  | .string s => some s
  | _ => none

/-- The first item decides on the type, and all others have to be of it. No items are a set of
strings. -/
def ofItems? (items : List Json) : Option ScalarSet :=
  match items with
  | [] => some (.strings [])
  | .number _ :: _ => (items.mapM number?).map .numbers
  | .string _ :: _ => (items.mapM string?).map fun strings =>
      .strings (strings.foldr insertString [])
  | _ => none

def containsValue : ScalarSet → Value → Bool
  | .numbers targets, .number x => targets.any fun target => x.eq target
  | .strings targets, .string s => targets.contains s
  | _, _ => false

end ScalarSet

inductive Predicate where
  | eq (target : Scalar)
  | neq (target : Scalar)
  | lt (target : Binary64)
  | lte (target : Binary64)
  | gt (target : Binary64)
  | gte (target : Binary64)
  | ereg (pattern : Pattern)
  | nereg (pattern : Pattern)
  | isIn (targets : ScalarSet)
  | notIn (targets : ScalarSet)
  | contains (target : Scalar)
  | notContains (target : Scalar)
  deriving Repr

namespace Predicate

def operator : Predicate → Operator
  | .eq _ => .eq
  | .neq _ => .neq
  | .lt _ => .lt
  | .lte _ => .lte
  | .gt _ => .gt
  | .gte _ => .gte
  | .ereg _ => .ereg
  | .nereg _ => .nereg
  | .isIn _ => .isIn
  | .notIn _ => .notIn
  | .contains _ => .contains
  | .notContains _ => .notContains

def scalar? : Json → Option Scalar := Scalar.ofJson?

def number? : Json → Option Binary64 := ScalarSet.number?

def set? : Json → Option ScalarSet
  | .array items => ScalarSet.ofItems? items
  | _ => none

/-- A boolean is no target for the members of an array. -/
def member? (target : Json) : Option Scalar :=
  match Scalar.ofJson? target with
  | some (.boolean _) => none
  | scalar => scalar

def compile (definition : ConstraintDefinition) (operator : Operator) (target : Json) :
    Result Predicate :=
  let unsupported :=
    Error.unsupportedValueType definition.property operator definition.value
  let decode {α : Type} (read : Json → Option α) (make : α → Predicate) : Result Predicate :=
    match read target with
    | some a => .ok (make a)
    | none => .error unsupported
  let search (make : Pattern → Predicate) : Result Predicate :=
    match target with
    | .string source =>
      match Pattern.compile source with
      | .ok pattern => .ok (make pattern)
      | .error _ => .error (.invalidPattern definition.property)
    | _ => .error unsupported
  match operator with
  | .eq => decode scalar? .eq
  | .neq => decode scalar? .neq
  | .lt => decode number? .lt
  | .lte => decode number? .lte
  | .gt => decode number? .gt
  | .gte => decode number? .gte
  | .ereg => search .ereg
  | .nereg => search .nereg
  | .isIn => decode set? .isIn
  | .notIn => decode set? .notIn
  | .contains => decode member? .contains
  | .notContains => decode member? .notContains

def compareNumber (holds : Binary64 → Bool) (value : Value) : Bool :=
  value.number?.any holds

def findIn (pattern : Pattern) (value : Value) : Bool :=
  value.string?.any pattern.isFoundIn

def arrayContains (target : Scalar) (value : Value) : Bool :=
  value.array?.any fun items => items.any target.matchesValue

def eval (predicate : Predicate) (value : Value) : Bool :=
  match predicate with
  | .eq target => target.matchesValue value
  | .neq target => !target.matchesValue value
  | .lt target => compareNumber (fun x => x.lt target) value
  | .lte target => compareNumber (fun x => x.le target) value
  | .gt target => compareNumber (fun x => target.lt x) value
  | .gte target => compareNumber (fun x => target.le x) value
  | .ereg pattern => findIn pattern value
  | .nereg pattern => !findIn pattern value
  | .isIn targets => targets.containsValue value
  | .notIn targets => !targets.containsValue value
  | .contains target => arrayContains target value
  | .notContains target => !arrayContains target value

end Predicate

end FeatureFlags
