import FeatureFlags.Proofs.Preparation

/-! # Which fault is reported

What a definition has to pass is laid out as one list of checks. A definition is prepared if it
passes all of them, and otherwise the first one that fails is reported. -/

namespace FeatureFlags

namespace Result

variable {α β : Type}

def fault? : Result α → Option Error
  | .ok _ => none
  | .error error => some error

@[simp] theorem fault?_ok (a : α) : fault? (.ok a) = none := rfl

@[simp] theorem fault?_error (error : Error) : fault? (.error error : Result α) = some error := rfl

@[simp] theorem fault?_pure (a : α) : fault? (pure a) = none := rfl

theorem fault?_eq_some {x : Result α} {error : Error} : x.fault? = some error ↔ x = .error error := by
  cases x <;> simp

theorem fault?_eq_none {x : Result α} : x.fault? = none ↔ ∃ a, x = .ok a := by
  cases x <;> simp

theorem fault?_bind {x : Result α} {f : α → Result β} {rest : Option Error}
    (h : ∀ a, x = .ok a → (f a).fault? = rest) : (x >>= f).fault? = x.fault?.or rest := by
  cases x with
  | error error => rfl
  | ok a => exact h a rfl

theorem fault?_mapM (f : α → Result β) (as : List α) :
    (as.mapM f).fault? = as.findSome? fun a => (f a).fault? := by
  induction as with
  | nil => rfl
  | cons a as ih =>
    have hrest : ∀ b, f a = .ok b →
        (as.mapM f >>= fun bs => pure (b :: bs)).fault? = as.findSome? fun a => (f a).fault? := by
      intro b _
      rw [fault?_bind fun bs _ => fault?_pure (b :: bs), Option.or_none, ih]
    rw [List.mapM_cons, fault?_bind hrest, List.findSome?_cons]
    cases (f a).fault? <;> rfl

end Result

instance (x : Binary64) : Decidable x.IsPercent :=
  inferInstanceAs (Decidable (x.isFinite = true ∧ 0 ≤ x.units ∧ x.units ≤ 100 * Binary64.one))

/-- Something that a definition is checked for. -/
inductive Check where
  | percent (segmentId : UInt64) (value : Binary64)
  | constraint (definition : ConstraintDefinition)
  | reference (segmentId variantId : UInt64)

def Check.fault? (variants : List Variant) : Check → Option Error
  | .percent segmentId value =>
    if value.IsPercent then none else some (.invalidPercent segmentId value)
  | .constraint definition => (Constraint.compile definition).fault?
  | .reference segmentId variantId =>
    if ∃ variant ∈ variants, variant.id = variantId then none
    else some (.unknownVariant segmentId variantId)

/-- The checks of a segment, in order: its rollout, its constraints, the variants it refers to and,
after all of these, their percents. -/
def SegmentDefinition.checks (segment : SegmentDefinition) : List Check :=
  .percent segment.id segment.rolloutPercent :: (
    segment.constraints.map .constraint ++ (
      segment.distributions.map (fun d => .reference segment.id d.variantId) ++
        segment.distributions.map fun d => .percent segment.id d.percent))

def FlagDefinition.checks (definition : FlagDefinition) : List Check :=
  definition.segments.flatMap SegmentDefinition.checks

structure SegmentDefinition.WellFormed (variants : List Variant) (segment : SegmentDefinition) :
    Prop where
  rollout : segment.rolloutPercent.IsPercent
  constraints : ∀ c ∈ segment.constraints, ∃ constraint, Constraint.compile c = .ok constraint
  references : ∀ d ∈ segment.distributions, ∃ variant ∈ variants, variant.id = d.variantId
  percents : ∀ d ∈ segment.distributions, d.percent.IsPercent

def FlagDefinition.WellFormed (definition : FlagDefinition) : Prop :=
  ∀ segment ∈ definition.segments, segment.WellFormed definition.variants

/-- The error is that of the first check that fails. -/
def FailsFirst (variants : List Variant) (checks : List Check) (error : Error) : Prop :=
  ∃ before check after, checks = before ++ check :: after ∧ check.fault? variants = some error ∧
    ∀ earlier ∈ before, earlier.fault? variants = none

namespace Check

variable {variants : List Variant}

theorem percent_passes {segmentId : UInt64} {percent : Binary64} :
    (Check.percent segmentId percent).fault? variants = none ↔ percent.IsPercent := by
  simp [fault?]

theorem constraint_passes {c : ConstraintDefinition} :
    (Check.constraint c).fault? variants = none ↔
      ∃ constraint, Constraint.compile c = .ok constraint :=
  Result.fault?_eq_none

theorem reference_passes {segmentId variantId : UInt64} :
    (Check.reference segmentId variantId).fault? variants = none ↔
      ∃ variant ∈ variants, variant.id = variantId := by
  simp [fault?]

end Check

theorem SegmentDefinition.wellFormed_iff {variants : List Variant} {segment : SegmentDefinition} :
    segment.WellFormed variants ↔ ∀ check ∈ segment.checks, check.fault? variants = none := by
  simp only [checks, List.forall_mem_cons, List.forall_mem_append, List.forall_mem_map,
    Check.percent_passes, Check.constraint_passes, Check.reference_passes]
  constructor
  · intro h
    exact ⟨h.rollout, h.constraints, h.references, h.percents⟩
  · rintro ⟨hrollout, hconstraints, hreferences, hpercents⟩
    exact ⟨hrollout, hconstraints, hreferences, hpercents⟩

theorem FlagDefinition.wellFormed_iff {definition : FlagDefinition} :
    definition.WellFormed ↔
      definition.checks.findSome? (Check.fault? definition.variants) = none := by
  simp only [WellFormed, checks, SegmentDefinition.wellFormed_iff, List.findSome?_eq_none_iff,
    List.forall_mem_flatMap]

theorem fault?_bucketsOf (variants : List Variant) (segmentId : UInt64) (percent : Binary64) :
    (bucketsOf segmentId percent).fault? = (Check.percent segmentId percent).fault? variants := by
  by_cases h : percent.IsPercent
  · rw [Check.percent_passes.2 h, Result.fault?_eq_none]
    exact ⟨_, bucketsOf_eq_ok.2 (bucketsOf?_eq_some.2 ⟨h, rfl⟩)⟩
  · have hnone : bucketsOf? percent = none := by
      refine Option.eq_none_iff_forall_ne_some.2 fun buckets hbuckets => ?_
      exact h (bucketsOf?_eq_some.1 hbuckets).1
    simp [bucketsOf, hnone, Check.fault?, h]

theorem ConstraintSet.fault?_compile (variants : List Variant)
    (definitions : List ConstraintDefinition) :
    (compile definitions).fault? =
      (definitions.map Check.constraint).findSome? (Check.fault? variants) := by
  unfold compile
  rw [Result.fault?_bind fun constraints _ => Result.fault?_pure _, Option.or_none,
    Result.fault?_mapM, List.findSome?_map]
  rfl

theorem Table.fault?_ofPercents (variants : List Variant) (segmentId : UInt64)
    (shares : List (Variant × Binary64)) :
    (ofPercents segmentId shares).fault? =
      ((shares.map (·.2)).map (Check.percent segmentId)).findSome? (Check.fault? variants) := by
  unfold ofPercents
  rw [Result.fault?_bind fun widths _ => Result.fault?_pure _, Option.or_none, Result.fault?_mapM,
    List.map_map, List.findSome?_map]
  simp only [fault?_bucketsOf variants]
  rfl

theorem Table.map_percents {ds : List Distribution} {shares : List (Variant × Binary64)}
    (h : List.Forall₂ (fun (d : Distribution) share => d.percent = share.2) ds shares) :
    shares.map (·.2) = ds.map (·.percent) := by
  induction h with
  | nil => rfl
  | cons hpercent _ ih => rw [List.map_cons, List.map_cons, ih, hpercent]

namespace FlagDefinition

variable (definition : FlagDefinition)

theorem variant?_eq_none {id : UInt64} :
    definition.variant? id = none ↔ ¬ ∃ variant ∈ definition.variants, variant.id = id := by
  simp [variant?]

theorem fault?_share (segmentId : UInt64) (d : Distribution) :
    Result.fault? (match definition.variant? d.variantId with
      | some variant => .ok (variant, d.percent)
      | none => .error (.unknownVariant segmentId d.variantId)) =
    (Check.reference segmentId d.variantId).fault? definition.variants := by
  cases hvariant : definition.variant? d.variantId with
  | none => simp [Check.fault?, (variant?_eq_none definition).1 hvariant]
  | some variant =>
    have hfound : ∃ variant ∈ definition.variants, variant.id = d.variantId := by
      by_contra hmissing
      rw [(variant?_eq_none definition).2 hmissing] at hvariant
      contradiction
    rw [Check.reference_passes.2 hfound, Result.fault?_ok]

theorem fault?_table (segment : SegmentDefinition) :
    (Table.compile definition.variant? segment).fault? =
      (segment.distributions.map (fun d => Check.reference segment.id d.variantId) ++
        segment.distributions.map fun d => Check.percent segment.id d.percent).findSome?
          (Check.fault? definition.variants) := by
  unfold Table.compile
  rw [List.findSome?_append, List.findSome?_map]
  refine (Result.fault?_bind fun shares hshares => ?percents).trans
    (congrArg (Option.or · _) ?references)
  case percents =>
    have hsame := (Result.mapM_eq_ok.1 hshares).imp fun _ _ h => (Table.share_eq_ok.1 h).2
    rw [Table.fault?_ofPercents definition.variants, Table.map_percents hsame, List.map_map]
    rfl
  case references =>
    rw [Result.fault?_mapM]
    congr 1
    funext d
    exact fault?_share definition segment.id d

theorem fault?_segment (segment : SegmentDefinition) :
    (Segment.compile definition.id definition.variant? segment).fault? =
      segment.checks.findSome? (Check.fault? definition.variants) := by
  have htable : ∀ rollout constraints,
      (Table.compile definition.variant? segment >>= fun table => (pure {
        flagId := definition.id, id := segment.id, rank := segment.rank, rollout, constraints,
        table } : Result Segment)).fault? =
      (Table.compile definition.variant? segment).fault? := by
    intro rollout constraints
    rw [Result.fault?_bind fun table _ => Result.fault?_pure _, Option.or_none]
  unfold Segment.compile
  rw [Result.fault?_bind fun rollout _ => Result.fault?_bind fun constraints _ =>
      htable rollout constraints, fault?_table, ConstraintSet.fault?_compile definition.variants,
    fault?_bucketsOf definition.variants, ← List.findSome?_append, SegmentDefinition.checks,
    List.findSome?_cons]
  cases (Check.percent segment.id segment.rolloutPercent).fault? definition.variants <;> rfl

theorem fault?_prepare :
    definition.prepare.fault? = definition.checks.findSome? (Check.fault? definition.variants) := by
  unfold prepare checks
  rw [Result.fault?_bind fun segments _ => Result.fault?_pure _, Option.or_none, Result.fault?_mapM]
  simp only [fault?_segment]
  induction definition.segments with
  | nil => rfl
  | cons segment rest ih =>
    rw [List.flatMap_cons, List.findSome?_append, List.findSome?_cons, ih]
    cases segment.checks.findSome? (Check.fault? definition.variants) <;> rfl

/-- A definition, whether enabled or not, is prepared exactly if all of it is well-formed. Where it is
not, the error is that of the first check that fails. -/
theorem prepare_checks (definition : FlagDefinition) :
    ((∃ flag, definition.prepare = .ok flag) ↔ definition.WellFormed) ∧
    ∀ error, definition.prepare = .error error ↔
      FailsFirst definition.variants definition.checks error := by
  constructor
  · rw [← Result.fault?_eq_none, fault?_prepare, wellFormed_iff]
  · intro error
    rw [← Result.fault?_eq_some, fault?_prepare, List.findSome?_eq_some_iff]
    rfl

def flawed : FlagDefinition where
  id := 1
  key := "flawed"
  description := ""
  enabled := false
  segments := [
    ⟨10, "", 2, ⟨0x4049000000000000⟩, [], [⟨1, 7, "", ⟨0x4059400000000000⟩⟩, ⟨2, 8, "", ⟨0⟩⟩]⟩,
    ⟨11, "", 1, ⟨0x4059400000000000⟩, [⟨1, "", "", ""⟩], []⟩]
  variants := [⟨7, "on", none⟩]

example : flawed.prepare.fault? = some (.unknownVariant 10 8) := by decide +kernel

end FlagDefinition

end FeatureFlags
