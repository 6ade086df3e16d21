import FeatureFlags.Proofs.FirstMatch

/-! # What an evaluation depends on

Of an entity, an evaluation sees the key by which it is sampled and the values of the properties
that constraints name. Entities that agree in these are evaluated alike, step by step, so that not
even an observer can tell their evaluations apart. -/

namespace FeatureFlags

section

variable {m : Type → Type} [Monad m] (observer : Observer m) (sharder : Sharder m)
  {context other : Context}

theorem ConstraintSet.evalEach_congr (report : Constraint → Option Value → Bool → m Unit)
    {constraints : List Constraint}
    (h : ∀ constraint ∈ constraints, constraint.lookup context = constraint.lookup other) :
    evalEach report context constraints = evalEach report other constraints := by
  induction constraints with
  | nil => rfl
  | cons constraint rest ih =>
    obtain ⟨hlookup, hrest⟩ := List.forall_mem_cons.1 h
    simp only [evalEach, hlookup, ih hrest]

theorem Segment.evaluate_congr {segment : Segment} (key : String)
    (h : ∀ constraint ∈ segment.constraints.constraints,
      constraint.lookup context = constraint.lookup other) :
    segment.evaluate observer sharder key context =
      segment.evaluate observer sharder key other := by
  unfold evaluate passGates
  rw [ConstraintSet.evalEach_congr observer.constraint h]

theorem Flag.firstMatch_congr (flag : Flag) (key : String) {segments : List Segment}
    (h : ∀ segment ∈ segments, ∀ constraint ∈ segment.constraints.constraints,
      constraint.lookup context = constraint.lookup other) :
    flag.firstMatch observer sharder key context segments =
      flag.firstMatch observer sharder key other segments := by
  induction segments with
  | nil => rfl
  | cons segment rest ih =>
    obtain ⟨hsegment, hrest⟩ := List.forall_mem_cons.1 h
    simp only [firstMatch, Segment.evaluate_congr observer sharder key hsegment, ih hrest]

def Flag.Names (flag : Flag) (property : String) : Prop :=
  ∃ segment ∈ flag.segments, ∃ constraint ∈ segment.constraints.constraints,
    constraint.property = property

theorem Flag.evaluateWith_congr {flag : Flag} {entity twin : Entity}
    (hcontext : entity.context = .object context) (htwin : twin.context = .object other)
    (hkey : entity.samplingKey = twin.samplingKey)
    (hsame : ∀ property, flag.Names property → context.find? property = other.find? property) :
    flag.evaluateWith observer sharder entity = flag.evaluateWith observer sharder twin := by
  have hlookup : ∀ segment ∈ flag.segments, ∀ constraint ∈ segment.constraints.constraints,
      constraint.lookup context = constraint.lookup other := by
    intro segment hsegment constraint hmem
    exact hsame _ ⟨segment, hsegment, constraint, hmem, rfl⟩
  unfold evaluateWith evaluateSegments
  simp only [Value.object?_eq_some.2 hcontext, Value.object?_eq_some.2 htwin, hkey,
    firstMatch_congr observer sharder flag twin.samplingKey hlookup]

end

def FlagDefinition.Names (definition : FlagDefinition) (property : String) : Prop :=
  ∃ segment ∈ definition.segments, ∃ c ∈ segment.constraints, c.property = property

theorem Constraint.property_of_compile {c : ConstraintDefinition} {constraint : Constraint}
    (h : compile c = .ok constraint) : constraint.property = c.property := by
  obtain ⟨-, operator, target, predicate, -, -, -, rfl⟩ := compile_eq_ok.1 h
  rfl

theorem Segment.exists_property_of_compile {flagId : UInt64} {variant? : UInt64 → Option Variant}
    {d : SegmentDefinition} {segment : Segment} (h : compile flagId variant? d = .ok segment)
    {constraint : Constraint} (hmem : constraint ∈ segment.constraints.constraints) :
    ∃ c ∈ d.constraints, c.property = constraint.property := by
  obtain ⟨rollout, set, table, -, hset, -, rfl⟩ := compile_eq_ok.1 h
  obtain ⟨c, hc, hcompile⟩ := forall₂_mem_right (ConstraintSet.compile_eq_ok.1 hset) hmem
  exact ⟨c, hc, (Constraint.property_of_compile hcompile).symm⟩

theorem Flag.names_of_prepare {definition : FlagDefinition} {flag : Flag}
    (hflag : definition.prepare = .ok flag) {property : String} (h : flag.Names property) :
    definition.Names property := by
  obtain ⟨segment, hsegment, constraint, hmem, rfl⟩ := h
  obtain ⟨d, hd, hcompile⟩ := FlagDefinition.exists_compile_of_mem hflag hsegment
  obtain ⟨c, hc, hproperty⟩ := Segment.exists_property_of_compile hcompile hmem
  exact ⟨d, hd, c, hc, hproperty⟩

namespace Flag

/-- Entities that are sampled by the same key, and whose contexts hold the same value or none for
each property that the flag names, are evaluated alike by every sharder and under the eyes of every
observer. With a bucket key their ids do not matter. -/
theorem only_named_properties_matter {definition : FlagDefinition} {flag : Flag}
    (hflag : definition.prepare = .ok flag) {entity twin : Entity} {context other : Context}
    (hcontext : entity.context = .object context) (hother : twin.context = .object other)
    (hsame : ∀ property, definition.Names property →
      context.find? property = other.find? property)
    {m : Type → Type} [Monad m] (observer : Observer m) (sharder : Sharder m) :
    (entity.samplingKey = twin.samplingKey →
      flag.evaluateWith observer sharder entity = flag.evaluateWith observer sharder twin) ∧
    ∀ key id, flag.evaluateWith observer sharder { entity with id := id, bucketKey := some key } =
      flag.evaluateWith observer sharder { twin with bucketKey := some key } := by
  have hnamed : ∀ property, flag.Names property →
      context.find? property = other.find? property :=
    fun property h => hsame property (names_of_prepare hflag h)
  constructor
  · intro hkey
    exact evaluateWith_congr observer sharder hcontext hother hkey hnamed
  · intro key id
    refine evaluateWith_congr observer sharder ?_ ?_ rfl hnamed
    · exact hcontext
    · exact hother

def twin : Entity where
  id := "zoe"
  context := .object [("beta", .boolean true), ("plan", .object [("seats", .array [.null])])]
  bucketKey := some "ann"

theorem only_named_properties_matter_twin : ∃ flag, checkout.prepare = .ok flag ∧
    tester.samplingKey = twin.samplingKey ∧
    flag.evaluate tester = .ok (.matched ⟨7, "checkout", 2, 2, "treatment", none⟩) ∧
    flag.evaluateWith (m := Id) .silent .md5 tester = flag.evaluateWith .silent .md5 twin := by
  obtain ⟨flag, hflag⟩ := Result.exists_eq_ok.2
    (by decide +kernel : checkout.prepare.isOk = true)
  have hresult : flag.evaluate tester = .ok (.matched ⟨7, "checkout", 2, 2, "treatment", none⟩) :=
    Result.eq_of_map_eq_some hflag (f := fun flag => flag.evaluate tester) (by decide +kernel)
  have hnames : ∀ property, checkout.Names property → property = "beta" := by
    rintro property ⟨segment, hsegment, c, hc, rfl⟩
    rcases List.mem_pair.1 hsegment with rfl | rfl
    · cases hc
    · rw [List.mem_singleton.1 hc]
  have hsame : ∀ property, checkout.Names property →
      Members.find? property [("beta", Value.boolean true)] =
        Members.find? property
          [("beta", .boolean true), ("plan", .object [("seats", .array [.null])])] := by
    intro property hproperty
    rw [hnames property hproperty]
    rfl
  have htester : tester.context = .object [("beta", .boolean true)] := rfl
  have htwin : twin.context =
      .object [("beta", .boolean true), ("plan", .object [("seats", .array [.null])])] := rfl
  have halike := only_named_properties_matter hflag htester htwin hsame (m := Id) .silent .md5
  exact ⟨flag, hflag, rfl, hresult, halike.1 rfl⟩

end Flag

end FeatureFlags
