import FeatureFlags.Proofs.Targets
import FeatureFlags.Proofs.WhiteSpace

/-! # The language of constraints

Which definitions state a constraint, what constraint it is, and what is wrong with the others. -/

namespace FeatureFlags

namespace ConstraintDefinition

/-- A part is missing. Blanks alone are no value. -/
def Incomplete (c : ConstraintDefinition) : Prop :=
  c.property = "" ∨ c.operator = "" ∨ ∀ char ∈ c.value.toList, Text.isBlank char = true

structure States (c : ConstraintDefinition) (operator : Operator) (target : Json) : Prop where
  complete : ¬ c.Incomplete
  names : operator.name = c.operator
  writes : Json.ofText? (Text.trim c.value) = some target

/-- Every constructor but the last is a kind of error, in the order in which they take precedence. -/
inductive CompilesTo (c : ConstraintDefinition) : Result Constraint → Prop
  | incomplete (missing : c.Incomplete) :
      CompilesTo c (.error (.invalidConstraint c.property c.operator c.value))
  | unknownOperator (complete : ¬ c.Incomplete)
      (unknown : ∀ operator : Operator, operator.name ≠ c.operator) :
      CompilesTo c (.error (.unsupportedOperator c.operator))
  | unreadable {operator : Operator} (complete : ¬ c.Incomplete)
      (names : operator.name = c.operator) (unread : Json.ofText? (Text.trim c.value) = none) :
      CompilesTo c (.error (.invalidConstraintValue c.property))
  | otherType {operator : Operator} {target : Json} (states : c.States operator target)
      (refuses : ¬ operator.Takes target) :
      CompilesTo c (.error (.unsupportedValueType c.property operator c.value))
  | malformedPattern {operator : Operator} {source : String} {fault : Pattern.Error}
      (states : c.States operator (.string source)) (searches : operator.Searches)
      (malformed : Pattern.compile source = .error fault) :
      CompilesTo c (.error (.invalidPattern c.property))
  | constraint {operator : Operator} {target : Json} {predicate : Predicate}
      (states : c.States operator target) (takes : operator.Takes target)
      (same : predicate.operator = operator) (decodes : predicate.Decodes target) :
      CompilesTo c (.ok ⟨c.property, predicate⟩)

end ConstraintDefinition

namespace Operator

variable {operator : Operator} {name : String}

theorem name_ne_empty (operator : Operator) : operator.name ≠ "" := by
  cases operator <;> decide

theorem ofName?_eq_some : ofName? name = some operator ↔ operator.name = name := by
  constructor
  · intro h
    have hsame := List.find?_some h
    exact eq_of_beq hsame
  · rintro rfl
    exact ofName?_name operator

theorem ofName?_eq_none : ofName? name = none ↔ ∀ operator : Operator, operator.name ≠ name := by
  simp only [Option.eq_none_iff_forall_ne_some, ne_eq, ofName?_eq_some]

end Operator

theorem Json.ne_empty_of_ofText? {text : String} {json : Json} (h : ofText? text = some json) :
    text ≠ "" := by
  rintro rfl
  have hnone : ofText? "" = none := by decide +kernel
  rw [hnone] at h
  contradiction

namespace ConstraintDefinition

variable {c : ConstraintDefinition} {operator : Operator} {target : Json}

theorem incomplete_iff :
    c.Incomplete ↔ (c.property.isEmpty || c.operator.isEmpty ||
      (Text.trim c.value).isEmpty) = true := by
  simp only [Incomplete, Bool.or_eq_true, String.isEmpty_iff, Text.trim_eq_empty, or_assoc]

theorem compile_of_incomplete (h : c.Incomplete) :
    Constraint.compile c = .error (.invalidConstraint c.property c.operator c.value) :=
  if_pos (incomplete_iff.1 h)

theorem compile_of_unknown (h : ¬ c.Incomplete)
    (hunknown : ∀ operator : Operator, operator.name ≠ c.operator) :
    Constraint.compile c = .error (.unsupportedOperator c.operator) := by
  rw [incomplete_iff] at h
  simp only [Constraint.compile, if_neg h, Operator.ofName?_eq_none.2 hunknown]

theorem compile_of_unread (h : ¬ c.Incomplete) (hnames : operator.name = c.operator)
    (hunread : Json.ofText? (Text.trim c.value) = none) :
    Constraint.compile c = .error (.invalidConstraintValue c.property) := by
  rw [incomplete_iff] at h
  simp only [Constraint.compile, if_neg h, Operator.ofName?_eq_some.2 hnames, hunread]

theorem States.compile (h : c.States operator target) :
    Constraint.compile c =
      (Predicate.compile c operator target).map fun predicate => ⟨c.property, predicate⟩ := by
  have hcomplete := incomplete_iff.not.1 h.complete
  simp only [Constraint.compile, if_neg hcomplete, Operator.ofName?_eq_some.2 h.names, h.writes]
  cases Predicate.compile c operator target <;> rfl

theorem states_of_writes (hproperty : c.property ≠ "") (hnames : operator.name = c.operator)
    (hwrites : Json.ofText? (Text.trim c.value) = some target) : c.States operator target := by
  have hcomplete : ¬ c.Incomplete := by
    rintro (hempty | hempty | hblank)
    · exact hproperty hempty
    · exact operator.name_ne_empty (hnames.trans hempty)
    · exact Json.ne_empty_of_ofText? hwrites (Text.trim_eq_empty.2 hblank)
  exact ⟨hcomplete, hnames, hwrites⟩

theorem compilesTo_compile (c : ConstraintDefinition) : c.CompilesTo (Constraint.compile c) := by
  -- The cases are those of `CompilesTo`, in its order, so each one may use that none before it holds.
  by_cases hincomplete : c.Incomplete
  · rw [compile_of_incomplete hincomplete]
    exact .incomplete hincomplete
  by_cases hunknown : ∀ operator : Operator, operator.name ≠ c.operator
  · rw [compile_of_unknown hincomplete hunknown]
    exact .unknownOperator hincomplete hunknown
  obtain ⟨operator, hnames⟩ := not_forall_not.1 hunknown
  cases hwrites : Json.ofText? (Text.trim c.value) with
  | none =>
    rw [compile_of_unread hincomplete hnames hwrites]
    exact .unreadable hincomplete hnames hwrites
  | some target =>
    have hstates : c.States operator target := ⟨hincomplete, hnames, hwrites⟩
    rw [hstates.compile]
    by_cases htakes : operator.Takes target
    · rcases Predicate.compile_of_takes c htakes with ⟨predicate, hcompile⟩ | ⟨hsearches, hmalformed⟩
      · obtain ⟨hsame, -, hdecodes⟩ := Predicate.compile_eq_ok.1 hcompile
        rw [hcompile]
        exact .constraint hstates htakes hsame hdecodes
      · obtain ⟨source, fault, rfl, hfault⟩ := hmalformed
        rw [Predicate.compile_of_malformed hsearches hfault]
        exact .malformedPattern hstates hsearches hfault
    · rw [Predicate.compile_of_not_takes htakes]
      exact .otherType hstates htakes

theorem compile_eq_ok_iff {constraint : Constraint} : Constraint.compile c = .ok constraint ↔
    c.property ≠ "" ∧ constraint.property = c.property ∧ constraint.operator.name = c.operator ∧
      ∃ target, Json.ofText? (Text.trim c.value) = some target ∧
        constraint.operator.Takes target ∧ constraint.predicate.Decodes target := by
  constructor
  · intro h
    have hspec := c.compilesTo_compile
    rw [h] at hspec
    cases hspec with
    | @constraint operator target predicate states takes same decodes =>
      have hproperty : c.property ≠ "" := fun hempty => states.complete (.inl hempty)
      subst same
      exact ⟨hproperty, rfl, states.names, target, states.writes, takes, decodes⟩
  · obtain ⟨property, predicate⟩ := constraint
    rintro ⟨hproperty, rfl, hnames, target, hwrites, htakes, hdecodes⟩
    have hstates : c.States predicate.operator target := states_of_writes hproperty hnames hwrites
    rw [hstates.compile, Predicate.compile_eq_ok.2 ⟨rfl, htakes, hdecodes⟩]
    rfl

end ConstraintDefinition

/-- A definition compiles to a result exactly if the specification says so: to the first error that
applies, in the order incomplete, unknown operator, no JSON text, a value of another type, a malformed
pattern, and otherwise to the constraint of the same operator whose target is the decoded value. -/
theorem Constraint.compiles_exactly (c : ConstraintDefinition) (result : Result Constraint) :
    compile c = result ↔ c.CompilesTo result := by
  constructor
  · rintro rfl
    exact c.compilesTo_compile
  · intro h
    cases h with
    | incomplete missing => exact ConstraintDefinition.compile_of_incomplete missing
    | unknownOperator complete unknown =>
      exact ConstraintDefinition.compile_of_unknown complete unknown
    | unreadable complete names unread =>
      exact ConstraintDefinition.compile_of_unread complete names unread
    | otherType states refuses =>
      rw [states.compile, Predicate.compile_of_not_takes refuses]
      rfl
    | malformedPattern states searches malformed =>
      rw [states.compile, Predicate.compile_of_malformed searches malformed]
      rfl
    | constraint states takes same decodes =>
      rw [states.compile, Predicate.compile_eq_ok.2 ⟨same, takes, decodes⟩]
      rfl

example : (Constraint.compile ⟨1, "plan", "IN", "[\"pro\", 1]"⟩).map Constraint.operator =
    .error (.unsupportedValueType "plan" .isIn "[\"pro\", 1]") := by decide +kernel

end FeatureFlags
