import FeatureFlags.Proofs.Acceptance
import FeatureFlags.Proofs.ConstraintLanguage

/-! # Operators and their negations

An operator and its negation take the same values. Of the two constraints that they make of a
definition exactly one matches wherever the property is present, and none where it is missing. A
value that cannot be compared with the target is matched by the negation, and by no operator that
orders numbers. -/

namespace FeatureFlags

inductive Error.Kind where
  | invalidConstraint
  | unsupportedOperator
  | invalidConstraintValue
  | unsupportedValueType
  | invalidPattern
  | invalidPercent
  | unknownVariant
  | invalidEntityContext
  | flagNotFound
  deriving DecidableEq, Repr

def Error.kind : Error → Error.Kind
  | .invalidConstraint .. => .invalidConstraint
  | .unsupportedOperator .. => .unsupportedOperator
  | .invalidConstraintValue .. => .invalidConstraintValue
  | .unsupportedValueType .. => .unsupportedValueType
  | .invalidPattern .. => .invalidPattern
  | .invalidPercent .. => .invalidPercent
  | .unknownVariant .. => .unknownVariant
  | .invalidEntityContext => .invalidEntityContext
  | .flagNotFound => .flagNotFound

inductive JsonType where
  | null
  | boolean
  | number
  | string
  | array
  | object
  deriving DecidableEq, Repr

def Json.type : Json → JsonType
  | .null => .null
  | .bool _ => .boolean
  | .number _ => .number
  | .string _ => .string
  | .array _ => .array
  | .object _ => .object

def Value.type : Value → JsonType
  | .null => .null
  | .boolean _ => .boolean
  | .number _ => .number
  | .string _ => .string
  | .array _ => .array
  | .object _ => .object

namespace Operator

/-- The operator that matches where this one does not. -/
def negation? : Operator → Option Operator
  | .eq => some .neq
  | .ereg => some .nereg
  | .isIn => some .notIn
  | .contains => some .notContains
  | _ => none

def isNegation : Operator → Bool
  | .neq | .nereg | .notIn | .notContains => true
  | _ => false

def Orders (operator : Operator) : Prop :=
  operator = .lt ∨ operator = .lte ∨ operator = .gt ∨ operator = .gte

/-- The operator cannot compare a value with the target, because its type is not the one of the
target, or of any item of it, or the only one that the operator looks into. -/
def Incomparable (target : Json) (value : Value) : Operator → Prop
  | .eq | .neq => value.type ≠ target.type
  | .lt | .lte | .gt | .gte => value.type ≠ .number
  | .ereg | .nereg => value.type ≠ .string
  | .isIn | .notIn => ∀ items, target = .array items → ∀ item ∈ items, value.type ≠ item.type
  | .contains | .notContains => value.type ≠ .array

end Operator

/-- Where the property is present exactly one of the constraints matches, whatever its value is, and
where it is missing none does. -/
structure Constraint.Complementary (property : String) (constraint negated : Constraint) : Prop where
  present : ∀ (context : Context) (value : Value), context.find? property = some value →
    ∃ answer, constraint.matchesContext (.object context) = .ok answer ∧
      negated.matchesContext (.object context) = .ok (!answer)
  missing : ∀ context : Context, context.find? property = none →
    constraint.matchesContext (.object context) = .ok false ∧
      negated.matchesContext (.object context) = .ok false

def ConstraintDefinition.withOperator (c : ConstraintDefinition) (operator : Operator) :
    ConstraintDefinition :=
  { c with operator := operator.name }

namespace Operator

variable {operator negation : Operator}

theorem name_inj {other : Operator} (h : operator.name = other.name) : operator = other := by
  have hsame := ofName?_name operator
  rw [h, ofName?_name] at hsame
  exact (Option.some.inj hsame).symm

theorem isNegation_of_negation? (h : operator.negation? = some negation) :
    operator.isNegation = false ∧ negation.isNegation = true := by
  cases operator <;> cases h <;> exact ⟨rfl, rfl⟩

theorem Orders.isNegation (h : operator.Orders) : operator.isNegation = false := by
  rcases h with rfl | rfl | rfl | rfl <;> rfl

theorem Orders.incomparable (h : operator.Orders) {target : Json} {value : Value}
    (htype : value.type ≠ .number) : operator.Incomparable target value := by
  rcases h with rfl | rfl | rfl | rfl <;> exact htype

theorem takes_negation (h : operator.negation? = some negation) {target : Json} :
    negation.Takes target ↔ operator.Takes target := by
  cases operator <;> cases h <;> exact Iff.rfl

theorem searches_negation (h : operator.negation? = some negation) (hsearches : operator.Searches) :
    negation.Searches := by
  rcases hsearches with rfl | rfl
  · cases h
    exact .inr rfl
  · cases h

end Operator

namespace Json

variable {target : Json} {value : Value}

theorem not_equals_of_type_ne (h : value.type ≠ target.type) : ¬ target.Equals value := by
  rintro (_ | _ | _) <;> exact h rfl

theorem not_isFoundIn_of_type_ne (h : value.type ≠ .string) : ¬ target.IsFoundIn value := by
  rintro ⟨source, pattern, s, -, -, rfl, -⟩
  exact h rfl

theorem not_hasItem_of_type_ne
    (h : ∀ items, target = .array items → ∀ item ∈ items, value.type ≠ item.type) :
    ¬ target.HasItem value := by
  rintro ⟨items, hitems, item, hitem, hequals⟩
  exact not_equals_of_type_ne (h items hitems item hitem) hequals

theorem not_isElement_of_type_ne (h : value.type ≠ .array) : ¬ target.IsElement value := by
  rintro ⟨elements, rfl, -⟩
  exact h rfl

end Json

theorem Operator.accepts_of_incomparable {operator : Operator} {target : Json} {value : Value}
    (h : operator.Incomparable target value) :
    operator.Accepts target value ↔ operator.isNegation = true := by
  cases operator with
  | eq => exact iff_of_false (Json.not_equals_of_type_ne h) Bool.false_ne_true
  | neq => exact iff_of_true (Json.not_equals_of_type_ne h) rfl
  | lt | lte | gt | gte =>
    refine iff_of_false ?_ Bool.false_ne_true
    rintro ⟨n, x, -, rfl, -⟩
    exact h rfl
  | ereg => exact iff_of_false (Json.not_isFoundIn_of_type_ne h) Bool.false_ne_true
  | nereg => exact iff_of_true (Json.not_isFoundIn_of_type_ne h) rfl
  | isIn => exact iff_of_false (Json.not_hasItem_of_type_ne h) Bool.false_ne_true
  | notIn => exact iff_of_true (Json.not_hasItem_of_type_ne h) rfl
  | contains => exact iff_of_false (Json.not_isElement_of_type_ne h) Bool.false_ne_true
  | notContains => exact iff_of_true (Json.not_isElement_of_type_ne h) rfl

namespace Predicate

theorem exists_negation {predicate : Predicate} {negation : Operator} {json : Json}
    (h : predicate.operator.negation? = some negation) (hdecodes : predicate.Decodes json) :
    ∃ negated : Predicate, negated.operator = negation ∧ negated.Decodes json ∧
      ∀ value, negated.eval value = !predicate.eval value := by
  cases predicate with
  | eq target =>
    cases h
    exact ⟨.neq target, rfl, hdecodes, fun _ => rfl⟩
  | ereg pattern =>
    cases h
    exact ⟨.nereg pattern, rfl, hdecodes, fun _ => rfl⟩
  | isIn targets =>
    cases h
    exact ⟨.notIn targets, rfl, hdecodes, fun _ => rfl⟩
  | contains target =>
    cases h
    exact ⟨.notContains target, rfl, hdecodes, fun _ => rfl⟩
  | neq _ | lt _ | lte _ | gt _ | gte _ | nereg _ | notIn _ | notContains _ => cases h

theorem eval_of_incomparable {predicate : Predicate} {json : Json} {value : Value}
    (hdecodes : predicate.Decodes json) (h : predicate.operator.Incomparable json value) :
    predicate.eval value = predicate.operator.isNegation := by
  rw [Bool.eq_iff_iff, eval_eq_true hdecodes, Operator.accepts_of_incomparable h]

end Predicate

namespace Constraint

variable {constraint : Constraint} {context : Context}

theorem matchesContext_object (constraint : Constraint) (context : Context) :
    constraint.matchesContext (.object context) =
      .ok ((context.find? constraint.property).any constraint.predicate.eval) :=
  rfl

theorem matchesContext_of_present {value : Value}
    (h : context.find? constraint.property = some value) :
    constraint.matchesContext (.object context) = .ok (constraint.predicate.eval value) := by
  rw [matchesContext_object, h, Option.any_some]

theorem matchesContext_of_missing (h : context.find? constraint.property = none) :
    constraint.matchesContext (.object context) = .ok false := by
  rw [matchesContext_object, h, Option.any_none]

theorem complementary_of_eval {property : String} {predicate negated : Predicate}
    (h : ∀ value, negated.eval value = !predicate.eval value) :
    Complementary property ⟨property, predicate⟩ ⟨property, negated⟩ := by
  constructor
  · intro context value hvalue
    refine ⟨predicate.eval value, matchesContext_of_present hvalue, ?_⟩
    rw [matchesContext_of_present hvalue]
    exact congrArg _ (h value)
  · intro context hmissing
    exact ⟨matchesContext_of_missing hmissing, matchesContext_of_missing hmissing⟩

end Constraint

namespace ConstraintDefinition

variable {c : ConstraintDefinition} {operator other : Operator} {target : Json}

theorem incomplete_withOperator (operator other : Operator) :
    (c.withOperator operator).Incomplete ↔ (c.withOperator other).Incomplete := by
  unfold Incomplete withOperator
  simp only [Operator.name_ne_empty, false_or]

theorem States.operator_eq (h : (c.withOperator operator).States other target) :
    other = operator :=
  Operator.name_inj h.names

theorem States.withOperator (h : (c.withOperator operator).States operator target)
    (other : Operator) : (c.withOperator other).States other target :=
  ⟨mt (incomplete_withOperator other operator).1 h.complete, rfl, h.writes⟩

/-- An operator and its negation fail for the same reason, or what they compile to has one target and
disagrees on every value. -/
theorem compile_withOperator_negation {negation : Operator}
    (h : operator.negation? = some negation) :
    (∃ error failure, Constraint.compile (c.withOperator operator) = .error error ∧
      Constraint.compile (c.withOperator negation) = .error failure ∧ error.kind = failure.kind) ∨
    ∃ target predicate negated, Json.ofText? (Text.trim c.value) = some target ∧
      Constraint.compile (c.withOperator operator) = .ok ⟨c.property, predicate⟩ ∧
      Constraint.compile (c.withOperator negation) = .ok ⟨c.property, negated⟩ ∧
      predicate.operator = operator ∧ predicate.Decodes target ∧
      negated.operator = negation ∧ negated.Decodes target ∧
      ∀ value, negated.eval value = !predicate.eval value := by
  have hspec := (c.withOperator operator).compilesTo_compile
  generalize Constraint.compile (c.withOperator operator) = result at hspec
  cases hspec with
  | incomplete missing =>
    have hother := compile_of_incomplete ((incomplete_withOperator operator negation).1 missing)
    exact .inl ⟨_, _, rfl, hother, rfl⟩
  | unknownOperator complete unknown => exact absurd rfl (unknown operator)
  | unreadable complete names unread =>
    have hother := compile_of_unread (mt (incomplete_withOperator negation operator).1 complete)
      (rfl : negation.name = (c.withOperator negation).operator) unread
    exact .inl ⟨_, _, rfl, hother, rfl⟩
  | otherType states refuses =>
    obtain rfl := states.operator_eq
    have hother := (states.withOperator negation).compile
    rw [Predicate.compile_of_not_takes (mt (Operator.takes_negation h).1 refuses)] at hother
    exact .inl ⟨_, _, rfl, hother, rfl⟩
  | malformedPattern states searches malformed =>
    obtain rfl := states.operator_eq
    have hother := (states.withOperator negation).compile
    rw [Predicate.compile_of_malformed (Operator.searches_negation h searches) malformed] at hother
    exact .inl ⟨_, _, rfl, hother, rfl⟩
  | @constraint _ target predicate states takes same decodes =>
    obtain rfl := states.operator_eq
    have hnegation := h
    rw [← same] at hnegation
    obtain ⟨negated, hsame, hdecodes, heval⟩ := Predicate.exists_negation hnegation decodes
    have hother := (states.withOperator negation).compile
    rw [Predicate.compile_eq_ok.2 ⟨hsame, (Operator.takes_negation h).2 takes, hdecodes⟩] at hother
    exact .inr ⟨target, predicate, negated, states.writes, rfl, hother, same, decodes, hsame,
      hdecodes, heval⟩

theorem compile_withOperator_eq_ok {constraint : Constraint}
    (h : Constraint.compile (c.withOperator operator) = .ok constraint) :
    ∃ target predicate, Json.ofText? (Text.trim c.value) = some target ∧
      constraint = ⟨c.property, predicate⟩ ∧ predicate.operator = operator ∧
      predicate.Decodes target := by
  obtain ⟨property, predicate⟩ := constraint
  obtain ⟨-, rfl, hnames, target, hwrites, -, hdecodes⟩ := compile_eq_ok_iff.1 h
  exact ⟨target, predicate, hwrites, rfl, Operator.name_inj hnames, hdecodes⟩

end ConstraintDefinition

/-- Whatever the property and the value of a definition, an operator and its negation compile together
or fail with errors of the same kind. In a context that is an object the two constraints then
complement each other, and a value that cannot be compared with the target is matched by the
negation. An operator that orders numbers matches nothing but numbers. -/
theorem Constraint.negation_complements (c : ConstraintDefinition) :
    (∀ operator negation : Operator, operator.negation? = some negation →
      (∃ error failure, compile (c.withOperator operator) = .error error ∧
        compile (c.withOperator negation) = .error failure ∧ error.kind = failure.kind) ∨
      ∃ target constraint negated, Json.ofText? (Text.trim c.value) = some target ∧
        compile (c.withOperator operator) = .ok constraint ∧
        compile (c.withOperator negation) = .ok negated ∧
        Complementary c.property constraint negated ∧
        ∀ (context : Context) (value : Value), context.find? c.property = some value →
          operator.Incomparable target value →
          constraint.matchesContext (.object context) = .ok false ∧
          negated.matchesContext (.object context) = .ok true) ∧
    ∀ (operator : Operator) (constraint : Constraint), operator.Orders →
      compile (c.withOperator operator) = .ok constraint →
      ∀ (context : Context) (value : Value), context.find? c.property = some value →
        value.type ≠ .number → constraint.matchesContext (.object context) = .ok false := by
  constructor
  · intro operator negation h
    rcases ConstraintDefinition.compile_withOperator_negation h with
      hfail | ⟨target, predicate, negated, hwrites, hcompile, hnegated, rfl, hdecodes, -, -, heval⟩
    · exact .inl hfail
    · refine .inr ⟨target, _, _, hwrites, hcompile, hnegated, complementary_of_eval heval, ?_⟩
      intro context value hvalue hincomparable
      have hfalse : predicate.eval value = false := by
        rw [Predicate.eval_of_incomparable hdecodes hincomparable]
        exact (Operator.isNegation_of_negation? h).1
      constructor
      · rw [matchesContext_of_present hvalue]
        exact congrArg _ hfalse
      · rw [matchesContext_of_present hvalue]
        exact congrArg _ ((heval value).trans (congrArg not hfalse))
  · intro operator constraint horders hcompile context value hvalue htype
    obtain ⟨target, predicate, -, rfl, rfl, hdecodes⟩ :=
      ConstraintDefinition.compile_withOperator_eq_ok hcompile
    rw [matchesContext_of_present hvalue,
      Predicate.eval_of_incomparable hdecodes (horders.incomparable htype), horders.isNegation]

example : (Constraint.compile ⟨1, "score", "NEQ", "1"⟩).map (fun constraint =>
    constraint.matchesContext (.object [("score", .number ⟨0x7ff8000000000000⟩)])) =
    .ok (.ok true) := by decide +kernel

end FeatureFlags
