import FeatureFlags.Proofs.Excerpts
import FeatureFlags.Proofs.Negation

/-! # Membership and equality

The operators that look into a set of targets, or into an array of values, compare as the one for
equality does, so that a constraint with any of them can be told from constraints of equality and
inequality. -/

namespace FeatureFlags

def Constraint.Matches (constraint : Constraint) (context : Context) : Prop :=
  constraint.matchesContext (.object context) = .ok true

/-- The constraint is what some definition compiles to, one on the property that has the operator and
whose value decodes to the target. -/
def Constraint.Stated (property : String) (operator : Operator) (target : Json)
    (constraint : Constraint) : Prop :=
  ∃ c : ConstraintDefinition, c.property = property ∧ c.States operator target ∧
    compile c = .ok constraint

/-- Two constraints on a property compare with the items one by one. The first matches where equality
with some item does. The second matches where the property is present and inequality with every
item matches. -/
structure Constraint.CompareItems (property : String) (items : List Json)
    (membership exclusion : Constraint) : Prop where
  stated : ∀ item ∈ items, (∃ equality, Stated property .eq item equality) ∧
    ∃ inequality, Stated property .neq item inequality
  membership : ∀ context : Context, membership.Matches context ↔
    ∃ item ∈ items, ∃ equality, Stated property .eq item equality ∧ equality.Matches context
  exclusion : ∀ (context : Context) (value : Value), context.find? property = some value →
    (exclusion.Matches context ↔
      ∀ item ∈ items, ∀ inequality, Stated property .neq item inequality →
        inequality.Matches context)

/-- A constraint on a property that is an array compares with its elements one by one. It matches where
equality would match with one of the elements in place of the array. -/
structure Constraint.ComparesElements (property : String) (target : Json)
    (containment : Constraint) : Prop where
  stated : ∃ equality, Stated property .eq target equality
  containment : ∀ (context : Context) (equality : Constraint), Stated property .eq target equality →
    (containment.Matches context ↔
      ∃ elements, context.find? property = some (.array elements) ∧
        ∃ element ∈ elements, ∃ other : Context, other.find? property = some element ∧
          equality.Matches other)

instance (operator : Operator) : Decidable operator.Searches :=
  inferInstanceAs (Decidable (operator = .ereg ∨ operator = .nereg))

namespace ConstraintDefinition

variable {c : ConstraintDefinition} {operator : Operator} {target : Json}

theorem states_withOperator (hproperty : c.property ≠ "")
    (hwrites : Json.ofText? (Text.trim c.value) = some target) (operator : Operator) :
    (c.withOperator operator).States operator target :=
  states_of_writes (c := c.withOperator operator) hproperty rfl hwrites

theorem States.exists_compile (h : c.States operator target) (htakes : operator.Takes target)
    (hsearches : ¬ operator.Searches) : ∃ constraint, Constraint.compile c = .ok constraint := by
  rw [h.compile]
  rcases Predicate.compile_of_takes c htakes with ⟨predicate, hpredicate⟩ | ⟨hpattern, -⟩
  · rw [hpredicate]
    exact ⟨_, rfl⟩
  · exact absurd hpattern hsearches

theorem States.exists_stated (h : c.States operator target) (htakes : operator.Takes target)
    (hsearches : ¬ operator.Searches) :
    ∃ constraint, Constraint.compile c = .ok constraint ∧
      Constraint.Stated c.property operator target constraint := by
  obtain ⟨constraint, hcompile⟩ := h.exists_compile htakes hsearches
  exact ⟨constraint, hcompile, c, rfl, h, hcompile⟩

end ConstraintDefinition

namespace Constraint

variable {property : String} {operator : Operator} {target : Json} {constraint : Constraint}

theorem Stated.exists_predicate (h : Stated property operator target constraint) :
    ∃ predicate : Predicate, constraint = ⟨property, predicate⟩ ∧ predicate.operator = operator ∧
      predicate.Decodes target := by
  obtain ⟨c, rfl, hstates, hcompile⟩ := h
  obtain ⟨property, predicate⟩ := constraint
  obtain ⟨-, rfl, hnames, other, hwrites, -, hdecodes⟩ :=
    ConstraintDefinition.compile_eq_ok_iff.1 hcompile
  obtain rfl := Option.some.inj (hstates.writes.symm.trans hwrites)
  exact ⟨predicate, rfl, Operator.name_inj (hnames.trans hstates.names.symm), hdecodes⟩

theorem Stated.matches_iff (h : Stated property operator target constraint) {context : Context} :
    constraint.Matches context ↔
      ∃ value, context.find? property = some value ∧ operator.Accepts target value := by
  obtain ⟨predicate, rfl, rfl, hdecodes⟩ := h.exists_predicate
  rw [Matches, matchesContext_object, Except.ok.injEq, Option.any_eq_true]
  simp only [Predicate.eval_eq_true hdecodes]

theorem Stated.matches_of_present (h : Stated property operator target constraint)
    {context : Context} {value : Value} (hvalue : context.find? property = some value) :
    constraint.Matches context ↔ operator.Accepts target value := by
  rw [h.matches_iff, hvalue]
  simp only [Option.some.injEq, exists_eq_left']

theorem exists_stated_of_mem {text : String} {items : List Json} {item : Json}
    (hproperty : property ≠ "") (htext : Json.ofText? text = some (.array items))
    (hitem : item ∈ items) (hscalar : item.IsNumber ∨ item.IsString)
    (htakes : operator.Takes item) (hsearches : ¬ operator.Searches) :
    ∃ constraint, Stated property operator item constraint := by
  obtain ⟨written, htrim, hwritten⟩ := Json.exists_text_of_mem htext hitem hscalar
  have hstates : (⟨0, property, operator.name, written⟩ : ConstraintDefinition).States operator
      item := by
    apply ConstraintDefinition.states_of_writes hproperty rfl
    rw [htrim]
    exact hwritten
  obtain ⟨constraint, -, hstated⟩ := hstates.exists_stated htakes hsearches
  exact ⟨constraint, hstated⟩

end Constraint

theorem Json.IsUniform.scalar_of_mem {items : List Json} (h : (Json.array items).IsUniform)
    {item : Json} (hitem : item ∈ items) : item.IsNumber ∨ item.IsString := by
  rcases h with ⟨ns, hns⟩ | ⟨ss, hss⟩
  · obtain rfl := Json.array.inj hns
    obtain ⟨n, -, rfl⟩ := List.mem_map.1 hitem
    exact .inl ⟨n, rfl⟩
  · obtain rfl := Json.array.inj hss
    obtain ⟨s, -, rfl⟩ := List.mem_map.1 hitem
    exact .inr ⟨s, rfl⟩

namespace Constraint

variable {property : String} {items : List Json} {target : Json}

theorem compareItems_of_stated {membership exclusion : Constraint}
    (hstated : ∀ item ∈ items, (∃ equality, Stated property .eq item equality) ∧
      ∃ inequality, Stated property .neq item inequality)
    (hmembership : Stated property .isIn (.array items) membership)
    (hexclusion : Stated property .notIn (.array items) exclusion) :
    CompareItems property items membership exclusion := by
  constructor
  case stated => exact hstated
  case membership =>
    intro context
    rw [hmembership.matches_iff]
    constructor
    · rintro ⟨value, hvalue, _, ⟨⟩, item, hitem, hequals⟩
      obtain ⟨equality, hequality⟩ := (hstated item hitem).1
      exact ⟨item, hitem, equality, hequality, (hequality.matches_of_present hvalue).2 hequals⟩
    · rintro ⟨item, hitem, equality, hequality, hmatches⟩
      obtain ⟨value, hvalue, hequals⟩ := hequality.matches_iff.1 hmatches
      exact ⟨value, hvalue, items, rfl, item, hitem, hequals⟩
  case exclusion =>
    intro context value hvalue
    rw [hexclusion.matches_of_present hvalue]
    constructor
    · intro hnone item hitem inequality hinequality
      rw [hinequality.matches_of_present hvalue]
      intro hequals
      exact hnone ⟨items, rfl, item, hitem, hequals⟩
    · rintro hall ⟨_, ⟨⟩, item, hitem, hequals⟩
      obtain ⟨inequality, hinequality⟩ := (hstated item hitem).2
      have hmatches := hall item hitem inequality hinequality
      exact (hinequality.matches_of_present hvalue).1 hmatches hequals

theorem comparesElements_of_stated {containment : Constraint}
    (hstated : ∃ equality, Stated property .eq target equality)
    (hcontainment : Stated property .contains target containment) :
    ComparesElements property target containment := by
  constructor
  case stated => exact hstated
  case containment =>
    intro context equality hequality
    rw [hcontainment.matches_iff]
    constructor
    · rintro ⟨_, hvalue, elements, rfl, element, helement, hequals⟩
      have hfind : Members.find? property [(property, element)] = some element := if_pos rfl
      refine ⟨elements, hvalue, element, helement, [(property, element)], hfind, ?_⟩
      exact (hequality.matches_of_present hfind).2 hequals
    · rintro ⟨elements, hvalue, element, helement, other, hfind, hmatches⟩
      have hequals := (hequality.matches_of_present hfind).1 hmatches
      exact ⟨_, hvalue, elements, rfl, element, helement, hequals⟩

/-- With a value that decodes to an array of numbers only or of strings only, a definition compiles to
a membership and to an exclusion that compare with the items of the array one by one. With a value that
decodes to a number or to a string, it compiles to a containment that compares with the elements of the
property. Without a property nothing compiles. -/
theorem membership_follows_equality {c : ConstraintDefinition} (hproperty : c.property ≠ "") :
    (∀ items, Json.ofText? (Text.trim c.value) = some (.array items) →
      (Json.array items).IsUniform →
      ∃ membership exclusion, compile (c.withOperator .isIn) = .ok membership ∧
        compile (c.withOperator .notIn) = .ok exclusion ∧
        CompareItems c.property items membership exclusion) ∧
    ∀ target, Json.ofText? (Text.trim c.value) = some target →
      target.IsNumber ∨ target.IsString →
      ∃ containment, compile (c.withOperator .contains) = .ok containment ∧
        ComparesElements c.property target containment := by
  constructor
  · intro items hwrites huniform
    have hstates := ConstraintDefinition.states_withOperator hproperty hwrites
    obtain ⟨membership, hin, hmembership⟩ := (hstates .isIn).exists_stated huniform (by decide)
    obtain ⟨exclusion, hnotIn, hexclusion⟩ := (hstates .notIn).exists_stated huniform (by decide)
    have hstated : ∀ item ∈ items, (∃ equality, Stated c.property .eq item equality) ∧
        ∃ inequality, Stated c.property .neq item inequality := by
      intro item hitem
      have hscalar := huniform.scalar_of_mem hitem
      have htakes : Operator.eq.Takes item := or_assoc.1 (.inl hscalar)
      exact ⟨exists_stated_of_mem hproperty hwrites hitem hscalar htakes
          (by decide),
        exists_stated_of_mem hproperty hwrites hitem hscalar htakes (by decide)⟩
    exact ⟨membership, exclusion, hin, hnotIn,
      compareItems_of_stated hstated hmembership hexclusion⟩
  · intro target hwrites hscalar
    have hstates := ConstraintDefinition.states_withOperator hproperty hwrites
    have htakes : Operator.eq.Takes target := or_assoc.1 (.inl hscalar)
    obtain ⟨containment, hcompile, hcontainment⟩ :=
      (hstates .contains).exists_stated hscalar (by decide)
    obtain ⟨equality, -, hequality⟩ := (hstates .eq).exists_stated htakes (by decide)
    exact ⟨containment, hcompile, comparesElements_of_stated ⟨equality, hequality⟩ hcontainment⟩

theorem membership_follows_equality_scores :
    let scores : ConstraintDefinition := ⟨1, "score", "", " [0, 2.5, 2.5] "⟩
    let tagged : ConstraintDefinition := ⟨2, "tags", "", "1"⟩
    let negativeZero : Context := [("score", .number ⟨0x8000000000000000⟩)]
    let mixed : Context := [("tags", .array [.string "1", .null, .array [.number (.ofInt 1)]])]
    scores.property ≠ "" ∧ tagged.property ≠ "" ∧
    (∃ items membership exclusion, Json.ofText? (Text.trim scores.value) = some (.array items) ∧
      (Json.array items).IsUniform ∧ items.length = 3 ∧
      compile (scores.withOperator .isIn) = .ok membership ∧
      compile (scores.withOperator .notIn) = .ok exclusion ∧
      CompareItems "score" items membership exclusion ∧
      membership.Matches negativeZero) ∧
    ∃ target containment, Json.ofText? (Text.trim tagged.value) = some target ∧ target.IsNumber ∧
      compile (tagged.withOperator .contains) = .ok containment ∧
      ComparesElements "tags" target containment ∧
      ¬ containment.Matches mixed := by
  intro scores tagged negativeZero mixed
  have hscores : scores.property ≠ "" := by decide
  have htagged : tagged.property ≠ "" := by decide
  refine ⟨hscores, htagged, ?_, ?_⟩
  · let ns : List Number := [.int 0, .real ⟨0x4004000000000000⟩, .real ⟨0x4004000000000000⟩]
    have hwrites : Json.ofText? (Text.trim scores.value) = some (.array (ns.map .number)) := by
      decide +kernel
    have huniform : (Json.array (ns.map .number)).IsUniform := .inl ⟨ns, rfl⟩
    obtain ⟨membership, exclusion, hin, hnotIn, hcompare⟩ :=
      (membership_follows_equality hscores).1 _ hwrites huniform
    refine ⟨_, membership, exclusion, hwrites, huniform, rfl, hin, hnotIn, hcompare, ?_⟩
    exact Result.eq_of_map_eq_some hin
      (f := fun membership => membership.matchesContext (.object negativeZero)) (b := .ok true)
      (by decide +kernel)
  · have hwrites : Json.ofText? (Text.trim tagged.value) = some (.number (.int 1)) := by
      decide +kernel
    obtain ⟨containment, hcontains, hcompares⟩ :=
      (membership_follows_equality htagged).2 _ hwrites (.inl ⟨_, rfl⟩)
    refine ⟨_, containment, hwrites, ⟨_, rfl⟩, hcontains, hcompares, ?_⟩
    have hfalse := Result.eq_of_map_eq_some hcontains
      (f := fun containment => containment.matchesContext (.object mixed)) (b := .ok false)
      (by decide +kernel)
    rw [Matches, hfalse]
    decide

end Constraint

end FeatureFlags
