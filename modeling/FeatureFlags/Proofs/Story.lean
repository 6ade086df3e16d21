import FeatureFlags.Evaluation

/-! # The story of an evaluation

Where samples depend on nothing but salt, key and total, an evaluation has a story: the list of all
that an observer is told. The story and the decision are functions of flag and entity, and to
evaluate under the eyes of an observer is to tell the story and to return the decision. -/

namespace FeatureFlags

theorem Value.object?_eq_some {value : Value} {context : Context} :
    value.object? = some context ↔ value = .object context := by
  cases value <;> simp [Value.object?]

theorem Value.object?_eq_none {value : Value} :
    value.object? = none ↔ ∀ context, value ≠ .object context := by
  simp only [Option.eq_none_iff_forall_ne_some, ne_eq, Value.object?_eq_some]

def Sharder.lift {m : Type → Type} [Monad m] (sharder : Sharder Id) : Sharder m :=
  fun salt key total => return sharder salt key total

inductive Event where
  | flag (flag : Flag)
  | segment (segment : Segment)
  | rolloutSample (sample : Nat)
  | constraint (constraint : Constraint) (value : Option Value) (satisfied : Bool)
  | bucketSample (sample : Nat)
  | outcome (outcome : Except Miss Variant)
  | result (result : Result Decision)

/-- The constraints that are evaluated: those up to the first that is not satisfied. -/
def ConstraintSet.reached (context : Context) : List Constraint → List Constraint
  | [] => []
  | constraint :: rest =>
    if constraint.eval context then constraint :: reached context rest else [constraint]

def Constraint.event (context : Context) (constraint : Constraint) : Event :=
  .constraint constraint (constraint.lookup context) (constraint.eval context)

namespace Segment

section

variable (sharder : Sharder Id) (key : String) (context : Context) (segment : Segment)

def draw (purpose : Purpose) : Nat := Id.run (segment.sample sharder purpose key)

def inRollout : Bool := decide (segment.draw sharder key .rollout < segment.rollout)

def satisfied : Bool := segment.constraints.constraints.all (·.eval context)

def outcome : Except Miss Variant :=
  if segment.inRollout sharder key then
    if segment.satisfied context then
      match segment.table.lookup (segment.draw sharder key .bucket) with
      | some variant => .ok variant
      | none => .error .distribution
    else .error .constraints
  else .error .rollout

def reached : List Constraint :=
  if segment.inRollout sharder key then
    ConstraintSet.reached context segment.constraints.constraints
  else []

def bucketSample? : Option Nat :=
  if segment.inRollout sharder key && segment.satisfied context then
    some (segment.draw sharder key .bucket)
  else none

def events : List Event :=
  .segment segment :: .rolloutSample (segment.draw sharder key .rollout) ::
    ((segment.reached sharder key context).map (·.event context) ++
      (segment.bucketSample? sharder key context).toList.map .bucketSample ++
      [.outcome (segment.outcome sharder key context)])

end

end Segment

namespace Flag

section

variable (sharder : Sharder Id) (key : String) (context : Context)

def reached : List Segment → List Segment
  | [] => []
  | segment :: rest =>
    match segment.outcome sharder key context with
    | .ok _ => [segment]
    | .error _ => segment :: reached rest

def decision (flag : Flag) : List Segment → Decision
  | [] => .noSegmentMatched
  | segment :: rest =>
    match segment.outcome sharder key context with
    | .ok variant => .matched (flag.assignment segment variant)
    | .error _ => decision flag rest

end

section

variable (sharder : Sharder Id) (flag : Flag) (entity : Entity)

def evaluated : List Segment :=
  if flag.enabled then
    match entity.context.object? with
    | none => []
    | some context => reached sharder entity.samplingKey context flag.segments
  else []

def verdict : Result Decision :=
  if flag.enabled then
    match entity.context.object? with
    | none => .error .invalidEntityContext
    | some context => .ok (flag.decision sharder entity.samplingKey context flag.segments)
  else .ok .noSegmentMatched

def segmentEvents : List Event :=
  match entity.context.object? with
  | none => []
  | some context =>
    (flag.evaluated sharder entity).flatMap (·.events sharder entity.samplingKey context)

def story : List Event :=
  .flag flag :: (flag.segmentEvents sharder entity ++ [.result (flag.verdict sharder entity)])

end

end Flag

namespace Flag

section

variable (sharder : Sharder Id) (key : String) (context : Context)

/-- Either no segment selects a variant and all are evaluated, or one does and is the last that is
evaluated. -/
theorem reached_cases (flag : Flag) (segments : List Segment) :
    (reached sharder key context segments = segments ∧
      (∀ segment ∈ segments, ∃ miss, segment.outcome sharder key context = .error miss) ∧
      flag.decision sharder key context segments = .noSegmentMatched) ∨
    ∃ before segment after variant, segments = before ++ segment :: after ∧
      reached sharder key context segments = before ++ [segment] ∧
      (∀ other ∈ before, ∃ miss, other.outcome sharder key context = .error miss) ∧
      segment.outcome sharder key context = .ok variant ∧
      flag.decision sharder key context segments = .matched (flag.assignment segment variant) := by
  induction segments with
  | nil => exact Or.inl ⟨rfl, List.forall_mem_nil _, rfl⟩
  | cons segment rest ih =>
    cases houtcome : segment.outcome sharder key context with
    | ok variant =>
      refine Or.inr ⟨[], segment, rest, variant, rfl, ?_, List.forall_mem_nil _, houtcome, ?_⟩
      · simp [reached, houtcome]
      · simp [decision, houtcome]
    | error miss =>
      have hreached : reached sharder key context (segment :: rest) =
          segment :: reached sharder key context rest := by simp [reached, houtcome]
      have hdecision : flag.decision sharder key context (segment :: rest) =
          flag.decision sharder key context rest := by simp [decision, houtcome]
      rw [hreached, hdecision]
      rcases ih with ⟨hall, hmiss, hnone⟩ |
        ⟨before, last, after, variant, rfl, hlast, hmiss, hselects, hmatched⟩
      · refine Or.inl ⟨congrArg _ hall, ?_, hnone⟩
        exact List.forall_mem_cons.2 ⟨⟨miss, houtcome⟩, hmiss⟩
      · refine Or.inr ⟨segment :: before, last, after, variant, rfl, congrArg _ hlast, ?_, hselects,
          hmatched⟩
        exact List.forall_mem_cons.2 ⟨⟨miss, houtcome⟩, hmiss⟩

end

section

variable (sharder : Sharder Id) (flag : Flag) (entity : Entity)

theorem evaluated_prefix : flag.evaluated sharder entity <+: flag.segments := by
  unfold evaluated
  split
  · split
    · exact List.nil_prefix
    · rename_i context _
      rcases flag.reached_cases sharder entity.samplingKey context flag.segments with
        ⟨hreached, -, -⟩ | ⟨before, last, after, -, hsegments, hreached, -, -, -⟩
      · exact ⟨[], by rw [hreached, List.append_nil]⟩
      · refine ⟨after, ?_⟩
        rw [hreached]
        simp [hsegments]
  · exact List.nil_prefix

theorem evaluated_getElem? {i : Nat} (hi : i < (flag.evaluated sharder entity).length) :
    (flag.evaluated sharder entity)[i]? = flag.segments[i]? := by
  obtain ⟨rest, hrest⟩ := flag.evaluated_prefix sharder entity
  rw [← hrest, List.getElem?_append_left hi]

variable {sharder flag entity}

theorem evaluated_eq_nil (h : flag.enabled = false ∨ entity.context.object? = none) :
    flag.evaluated sharder entity = [] := by
  unfold evaluated
  rcases h with hoff | hnone
  · simp [hoff]
  · simp [hnone]

theorem evaluated_of_object {context : Context} (hon : flag.enabled = true)
    (hobject : entity.context.object? = some context) :
    flag.evaluated sharder entity = reached sharder entity.samplingKey context flag.segments := by
  simp [evaluated, hon, hobject]

theorem verdict_of_disabled (hoff : flag.enabled = false) :
    flag.verdict sharder entity = .ok .noSegmentMatched := by
  simp [verdict, hoff]

theorem verdict_of_no_object (hon : flag.enabled = true) (hnone : entity.context.object? = none) :
    flag.verdict sharder entity = .error .invalidEntityContext := by
  simp [verdict, hon, hnone]

theorem verdict_of_object {context : Context} (hon : flag.enabled = true)
    (hobject : entity.context.object? = some context) :
    flag.verdict sharder entity =
      .ok (flag.decision sharder entity.samplingKey context flag.segments) := by
  simp [verdict, hon, hobject]

/-- Every way a flag comes to its verdict. Only an enabled flag looks at the context. -/
theorem verdict_cases (flag : Flag) (sharder : Sharder Id) (entity : Entity) :
    (flag.enabled = false ∧ flag.verdict sharder entity = .ok .noSegmentMatched) ∨
    (flag.enabled = true ∧ entity.context.object? = none ∧
      flag.verdict sharder entity = .error .invalidEntityContext) ∨
    ∃ context, flag.enabled = true ∧ entity.context.object? = some context ∧
      flag.verdict sharder entity =
        .ok (flag.decision sharder entity.samplingKey context flag.segments) := by
  cases hon : flag.enabled with
  | false => exact Or.inl ⟨rfl, verdict_of_disabled hon⟩
  | true =>
    cases hobject : entity.context.object? with
    | none => exact Or.inr (Or.inl ⟨rfl, rfl, verdict_of_no_object hon hobject⟩)
    | some context => exact Or.inr (Or.inr ⟨context, rfl, rfl, verdict_of_object hon hobject⟩)

theorem verdict_eq_matched {a : Assignment} (h : flag.verdict sharder entity = .ok (.matched a)) :
    flag.enabled = true ∧ ∃ context, entity.context.object? = some context ∧
      flag.decision sharder entity.samplingKey context flag.segments = .matched a := by
  obtain ⟨-, hverdict⟩ | ⟨-, -, hverdict⟩ | ⟨context, hon, hobject, hverdict⟩ :=
    flag.verdict_cases sharder entity
  · cases hverdict.symm.trans h
  · cases hverdict.symm.trans h
  · exact ⟨hon, context, hobject, Except.ok.inj (hverdict.symm.trans h)⟩

end

end Flag

section

variable {m : Type → Type} [Monad m]

def Observer.tell (observer : Observer m) : Event → m Unit
  | .flag flag => observer.flag flag
  | .segment segment => observer.segment segment
  | .rolloutSample sample => observer.rolloutSample sample
  | .constraint constraint value satisfied => observer.constraint constraint value satisfied
  | .bucketSample sample => observer.bucketSample sample
  | .outcome outcome => observer.outcome outcome
  | .result result => observer.result result

def Observer.hear (observer : Observer m) (events : List Event) : m Unit :=
  events.forM observer.tell

variable (observer : Observer m)

@[simp] theorem Observer.hear_nil : observer.hear [] = pure () := rfl

@[simp] theorem Observer.hear_cons (event : Event) (events : List Event) :
    observer.hear (event :: events) = (do observer.tell event; observer.hear events) := rfl

variable [LawfulMonad m]

@[simp] theorem Observer.hear_append (before after : List Event) :
    observer.hear (before ++ after) = (do observer.hear before; observer.hear after) := by
  induction before with
  | nil => simp
  | cons event before ih => simp [ih]

theorem ConstraintSet.evalEach_eq (context : Context) (constraints : List Constraint) :
    evalEach observer.constraint context constraints = (do
      observer.hear ((reached context constraints).map (·.event context))
      return constraints.all (·.eval context)) := by
  induction constraints with
  | nil => simp [evalEach, reached]
  | cons constraint rest ih =>
    have heval : constraint.evalValue (constraint.lookup context) = constraint.eval context := rfl
    simp only [evalEach, heval]
    cases h : constraint.eval context with
    | false => simp [reached, h, Constraint.event, Observer.tell]
    | true => simp [reached, h, ih, Constraint.event, Observer.tell]

variable (sharder : Sharder Id) (key : String) (context : Context)

omit [LawfulMonad m] in
theorem Segment.sample_lift (segment : Segment) (purpose : Purpose) :
    segment.sample (m := m) sharder.lift purpose key = pure (segment.draw sharder key purpose) :=
  rfl

theorem Segment.evaluate_eq (segment : Segment) :
    segment.evaluate observer sharder.lift key context = (do
      observer.hear (segment.events sharder key context)
      return segment.outcome sharder key context) := by
  have hr : (segment.draw sharder key .rollout < segment.rollout) =
      (segment.inRollout sharder key = true) := by simp [Segment.inRollout]
  have hs : segment.constraints.constraints.all (·.eval context) = segment.satisfied context := rfl
  unfold Segment.evaluate Segment.passGates Segment.events
  simp only [Segment.sample_lift, ConstraintSet.evalEach_eq, pure_bind, hr, hs, Segment.reached,
    Segment.bucketSample?, Segment.outcome]
  cases segment.inRollout sharder key with
  | false => simp [Observer.tell]
  | true =>
    cases segment.satisfied context with
    | false => simp [Observer.tell]
    | true =>
      cases segment.table.lookup (segment.draw sharder key .bucket) with
      | none => simp [Observer.tell]
      | some variant => simp [Observer.tell]

theorem Flag.firstMatch_eq (flag : Flag) (segments : List Segment) :
    flag.firstMatch observer sharder.lift key context segments = (do
      observer.hear ((Flag.reached sharder key context segments).flatMap
        (·.events sharder key context))
      return flag.decision sharder key context segments) := by
  induction segments with
  | nil => simp [Flag.firstMatch, Flag.reached, Flag.decision]
  | cons segment rest ih =>
    simp only [Flag.firstMatch, Segment.evaluate_eq]
    cases h : segment.outcome sharder key context with
    | ok variant => simp [Flag.reached, Flag.decision, h]
    | error miss => simp [Flag.reached, Flag.decision, h, ih]

/-- An evaluation tells its story and returns the verdict, whoever is told. -/
theorem Flag.evaluateWith_eq (flag : Flag) (entity : Entity) :
    flag.evaluateWith observer sharder.lift entity = (do
      observer.hear (flag.story sharder entity)
      return flag.verdict sharder entity) := by
  unfold Flag.evaluateWith Flag.evaluateSegments Flag.story Flag.segmentEvents Flag.evaluated
    Flag.verdict
  cases flag.enabled with
  | false => cases entity.context.object? <;> simp [Observer.tell]
  | true =>
    cases entity.context.object? with
    | none => simp [Observer.tell]
    | some context => simp [Flag.firstMatch_eq, Observer.tell]

end

theorem Flag.evaluateWith_silent (sharder : Sharder Id) (flag : Flag) (entity : Entity) :
    Id.run (flag.evaluateWith .silent sharder entity) = flag.verdict sharder entity := by
  have h := Flag.evaluateWith_eq (m := Id) .silent sharder flag entity
  exact congrArg Id.run h

end FeatureFlags
