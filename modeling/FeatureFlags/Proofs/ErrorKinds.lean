import Mathlib.Data.List.ProdSigma
import FeatureFlags.Proofs.Checks
import FeatureFlags.Proofs.ConstraintLanguage
import FeatureFlags.Proofs.PreparedEntities
import FeatureFlags.Proofs.Publishing

/-! # Errors in definitions and errors in evaluation

Whatever a definition is refused for is a fault that must not be published. An evaluation, of
whatever has been published, never comes upon such a fault: either there is no flag, or the flag is
enabled and the context is no object. -/

namespace FeatureFlags

theorem Constraint.isPrepareError_of_compile {c : ConstraintDefinition} {error : Error}
    (h : compile c = .error error) : error.isPrepareError = true := by
  have hcompiles := c.compilesTo_compile
  rw [h] at hcompiles
  cases hcompiles with
  | incomplete => rfl
  | unknownOperator => rfl
  | unreadable => rfl
  | otherType => rfl
  | malformedPattern => rfl

theorem Check.isPrepareError_of_fault? {variants : List Variant} {check : Check} {error : Error}
    (h : check.fault? variants = some error) : error.isPrepareError = true := by
  cases check with
  | percent segmentId value =>
    by_cases hpercent : value.IsPercent
    · rw [Check.percent_passes.2 hpercent] at h
      contradiction
    · rw [fault?, if_neg hpercent] at h
      cases h
      rfl
  | constraint definition => exact Constraint.isPrepareError_of_compile (Result.fault?_eq_some.1 h)
  | reference segmentId variantId =>
    by_cases hfound : ∃ variant ∈ variants, variant.id = variantId
    · rw [Check.reference_passes.2 hfound] at h
      contradiction
    · rw [fault?, if_neg hfound] at h
      cases h
      rfl

theorem FlagDefinition.isPrepareError_of_prepare {definition : FlagDefinition} {error : Error}
    (h : definition.prepare = .error error) : error.isPrepareError = true := by
  have hfault := Result.fault?_eq_some.2 h
  rw [fault?_prepare] at hfault
  obtain ⟨check, -, hcheck⟩ := List.exists_of_findSome?_eq_some hfault
  exact Check.isPrepareError_of_fault? hcheck

theorem Store.isPrepareError_of_error? {store : Store} {write : Write} {error : Error}
    (h : store.error? write = some error) : error.isPrepareError = true := by
  obtain ⟨before, definition, after, -, -, hfail⟩ := error?_eq_some.1 h
  exact FlagDefinition.isPrepareError_of_prepare hfail

/-- The result fails if the flag is missing, or if it is enabled and the context of the entity is no
object, each with an error of its own, and otherwise it does not fail. -/
structure FailsAsEvaluation (flag : Option Flag) (entity : Entity) (result : Result Decision) :
    Prop where
  not_prepare_error : ∀ error, result = .error error → error.isPrepareError = false
  flag_not_found : result = .error .flagNotFound ↔ flag = none
  invalid_context : result = .error .invalidEntityContext ↔
    ∃ published, flag = some published ∧ published.enabled = true ∧
      ∀ context, entity.context ≠ .object context
  no_other : ∀ error, result = .error error → error = .flagNotFound ∨ error = .invalidEntityContext

namespace FailsAsEvaluation

variable {flag : Flag} {entity : Entity}

theorem missing : FailsAsEvaluation none entity (.error .flagNotFound) := by
  constructor
  · rintro _ ⟨⟩
    rfl
  · simp
  · simp
  · rintro _ ⟨⟩
    exact Or.inl rfl

theorem bad_context (hon : flag.enabled = true) (hnone : entity.context.object? = none) :
    FailsAsEvaluation (some flag) entity (.error .invalidEntityContext) := by
  constructor
  · rintro _ ⟨⟩
    rfl
  · simp
  · have hcontext := Value.object?_eq_none.1 hnone
    exact ⟨fun _ => ⟨flag, rfl, hon, hcontext⟩, fun _ => rfl⟩
  · rintro _ ⟨⟩
    exact Or.inr rfl

theorem decided (hfine : ¬ (flag.enabled = true ∧ entity.context.object? = none))
    (decision : Decision) : FailsAsEvaluation (some flag) entity (.ok decision) := by
  constructor
  · rintro _ ⟨⟩
  · simp
  · constructor
    · rintro ⟨⟩
    · rintro ⟨_, ⟨⟩, hon, hcontext⟩
      exact absurd ⟨hon, Value.object?_eq_none.2 hcontext⟩ hfine
  · rintro _ ⟨⟩

theorem of_context {flag : Option Flag} {prepared : Entity} {result : Result Decision}
    (hcontext : prepared.context.object? = none ↔ entity.context.object? = none)
    (h : FailsAsEvaluation flag prepared result) : FailsAsEvaluation flag entity result := by
  have hinvalid := h.invalid_context
  simp only [← Value.object?_eq_none, hcontext] at hinvalid
  simp only [Value.object?_eq_none] at hinvalid
  exact ⟨h.not_prepare_error, h.flag_not_found, hinvalid, h.no_other⟩

end FailsAsEvaluation

theorem Flag.verdict_failsAsEvaluation (sharder : Sharder Id) (flag : Flag) (entity : Entity) :
    FailsAsEvaluation (some flag) entity (flag.verdict sharder entity) := by
  obtain ⟨hoff, hverdict⟩ | ⟨hon, hnone, hverdict⟩ | ⟨context, hon, hobject, hverdict⟩ :=
    flag.verdict_cases sharder entity
  · rw [hverdict]
    apply FailsAsEvaluation.decided
    simp [hoff]
  · rw [hverdict]
    exact .bad_context hon hnone
  · rw [hverdict]
    apply FailsAsEvaluation.decided
    simp [hobject]

/-- A sharder and an observer may both remember what they like. -/
theorem Flag.evaluateWith_failsAsEvaluation {σ : Type} (observer : Observer (StateM σ))
    (sharder : Sharder (StateM σ)) (flag : Flag) (entity : Entity) (memory : σ) :
    FailsAsEvaluation (some flag) entity
      ((flag.evaluateWith observer sharder entity).run memory).1 := by
  unfold evaluateWith evaluateSegments
  cases hon : flag.enabled with
  | false =>
    apply FailsAsEvaluation.decided
    simp [hon]
  | true =>
    cases hobject : entity.context.object? with
    | none => exact .bad_context hon hobject
    | some context =>
      apply FailsAsEvaluation.decided
      simp [hobject]

namespace Evaluator

section

variable (evaluator : Evaluator) (snapshot : Snapshot) (draw : UInt32) (entity : Entity)

theorem verdict_failsAsEvaluation (flag : Option Flag) :
    FailsAsEvaluation flag entity (verdict flag entity) := by
  cases flag with
  | none => exact .missing
  | some flag => exact flag.verdict_failsAsEvaluation .md5 entity

theorem object?_prepared :
    (evaluator.prepareEntity draw entity).value.context.object? = none ↔
      entity.context.object? = none := by
  rw [prepareEntity_value, ← evaluator.fillId_context draw entity]
  rcases evaluator.exposeId_cases (evaluator.fillId draw entity).value with
    ⟨property, context, hexposes, heq⟩ | ⟨-, heq⟩
  · rw [heq, hexposes.object]
    simp [Value.object?]
  · rw [heq]

theorem prepared_failsAsEvaluation (flag : Option Flag) :
    FailsAsEvaluation flag entity (verdict flag (evaluator.prepareEntity draw entity).value) := by
  apply FailsAsEvaluation.of_context (evaluator.object?_prepared draw entity)
  exact verdict_failsAsEvaluation _ flag

theorem evaluate_failsAsEvaluation (flagKey : String) :
    FailsAsEvaluation (snapshot.getByKey? flagKey) entity
      (evaluator.evaluate snapshot draw flagKey entity).value := by
  rw [evaluate_value]
  exact evaluator.prepared_failsAsEvaluation draw entity _

end

theorem evaluateBatch_failsAsEvaluation (evaluator : Evaluator) (snapshot : Snapshot)
    (draws : Nat → UInt32) (entities : List Entity) (flagKeys : List String) :
    List.Forall₂ (fun (pair : Entity × String) outcome => outcome.flagKey = pair.2 ∧
        FailsAsEvaluation (snapshot.getByKey? pair.2) pair.1 outcome.result)
      (entities ×ˢ flagKeys)
      (evaluator.evaluateBatch snapshot draws entities flagKeys).value := by
  have hrow : ∀ (entity : Entity) (i : Nat),
      List.Forall₂ (fun (pair : Entity × String) outcome => outcome.flagKey = pair.2 ∧
          FailsAsEvaluation (snapshot.getByKey? pair.2) pair.1 outcome.result)
        (flagKeys.map (Prod.mk entity))
        (evaluator.evaluateKeys snapshot (draws i) flagKeys entity).value := by
    intro entity i
    rw [evaluateKeys_value, List.forall₂_map_left_iff, List.forall₂_map_right_iff,
      List.forall₂_same]
    intro flagKey _
    exact ⟨rfl, evaluator.evaluate_failsAsEvaluation snapshot (draws i) entity flagKey⟩
  have hentities : List.Forall₂ (fun entity (numbered : Entity × Nat) => entity = numbered.1)
      entities entities.zipIdx := by
    rw [← List.forall₂_map_right_iff, List.zipIdx_map_fst, List.forall₂_eq_eq_eq]
  rw [evaluateBatch_value]
  change List.Forall₂ _ (entities.map fun entity => flagKeys.map (Prod.mk entity)).flatten _
  apply List.rel_flatten
  rw [List.forall₂_map_left_iff, List.forall₂_map_right_iff]
  refine hentities.imp ?_
  rintro entity ⟨_, i⟩ rfl
  exact hrow entity i

structure FailsAsEvaluations (evaluator : Evaluator) (snapshot : Snapshot) : Prop where
  by_key : ∀ draw flagKey entity, FailsAsEvaluation (snapshot.getByKey? flagKey) entity
    (evaluator.evaluate snapshot draw flagKey entity).value
  by_id : ∀ draw flagId entity, FailsAsEvaluation (snapshot.get? flagId) entity
    (evaluator.evaluateById snapshot draw flagId entity).value
  details : ∀ draw flagKey entity, FailsAsEvaluation (snapshot.getByKey? flagKey) entity
    (evaluator.evaluateDetails snapshot draw flagKey entity).value.1
  batch : ∀ draws entities flagKeys,
    List.Forall₂ (fun (pair : Entity × String) outcome => outcome.flagKey = pair.2 ∧
        FailsAsEvaluation (snapshot.getByKey? pair.2) pair.1 outcome.result)
      (entities ×ˢ flagKeys) (evaluator.evaluateBatch snapshot draws entities flagKeys).value

theorem failsAsEvaluations (evaluator : Evaluator) (snapshot : Snapshot) :
    evaluator.FailsAsEvaluations snapshot := by
  constructor
  case by_key =>
    intro draw flagKey entity
    exact evaluator.evaluate_failsAsEvaluation snapshot draw entity flagKey
  case by_id =>
    intro draw flagId entity
    rw [evaluateById_value]
    exact evaluator.prepared_failsAsEvaluation draw entity _
  case details =>
    intro draw flagKey entity
    rw [evaluateDetails_value]
    exact evaluator.prepared_failsAsEvaluation draw entity _
  case batch => exact evaluator.evaluateBatch_failsAsEvaluation snapshot

end Evaluator

/-- Whatever a definition is refused for, alone or in a write, is a fault that must not be
published. An evaluation, of any published flag or of none, comes upon no such fault: it fails with
one error exactly if there is no flag, with another exactly if the flag is enabled and the context
of the entity is no object, and with no third. -/
theorem Error.kinds_never_mix :
    (∀ (definition : FlagDefinition) error, definition.prepare = .error error →
      error.isPrepareError = true) ∧
    (∀ (store : Store) definitions error, (store.publish definitions).value = .error error →
      error.isPrepareError = true) ∧
    (∀ (store : Store) definition error, (store.upsert definition).value = .error error →
      error.isPrepareError = true) ∧
    (∀ (evaluator : Evaluator) (snapshot : Snapshot), evaluator.FailsAsEvaluations snapshot) ∧
    ∀ (flag : Flag) (entity : Entity),
      FailsAsEvaluation (some flag) entity (flag.evaluate entity) ∧
      FailsAsEvaluation (some flag) entity (flag.evaluateDetails entity).1 ∧
      ∀ (σ : Type) (observer : Observer (StateM σ)) (sharder : Sharder (StateM σ)) (memory : σ),
        FailsAsEvaluation (some flag) entity
          ((flag.evaluateWith observer sharder entity).run memory).1 := by
  refine ⟨fun _ _ h => FlagDefinition.isPrepareError_of_prepare h, ?_, ?_,
    Evaluator.failsAsEvaluations, ?_⟩
  · intro store definitions error h
    have herror : store.error? (.publish definitions) = some error := by rw [Store.error?, h]
    exact Store.isPrepareError_of_error? herror
  · intro store definition error h
    have herror : store.error? (.upsert definition) = some error := by rw [Store.error?, h]
    exact Store.isPrepareError_of_error? herror
  · intro flag entity
    refine ⟨?_, ?_, ?_⟩
    · rw [Flag.evaluate, Flag.evaluateWith_silent]
      exact flag.verdict_failsAsEvaluation .md5 entity
    · exact flag.evaluateWith_failsAsEvaluation Recorder.observer .md5 entity _
    · intro σ observer sharder memory
      exact flag.evaluateWith_failsAsEvaluation observer sharder entity memory

theorem Error.kinds_never_mix_checkout : ∃ flag,
    FlagDefinition.flawed.prepare = .error (.unknownVariant 10 8) ∧
    (Error.unknownVariant 10 8).isPrepareError = true ∧
    Flag.checkout.prepare = .ok flag ∧
    flag.evaluate ⟨"ann", .string "beta", none⟩ = .error .invalidEntityContext ∧
    (Evaluator.evaluate {} (Snapshot.ofList [flag]) 0 "cart" Flag.tester).value =
      .error .flagNotFound := by
  obtain ⟨hprepare, -, -, hevaluator, hflag⟩ := Error.kinds_never_mix
  have hflawed : FlagDefinition.flawed.prepare = .error (.unknownVariant 10 8) :=
    Result.fault?_eq_some.1 (by decide +kernel)
  obtain ⟨flag, hchecked⟩ := Result.exists_eq_ok.2
    (by decide +kernel : Flag.checkout.prepare.isOk = true)
  have hon : flag.enabled = true := Flag.enabled_of_prepare hchecked
  have hmissing : (Snapshot.ofList [flag]).getByKey? "cart" = none := by
    have hnodup : ([flag].map (·.id)).Nodup := List.pairwise_singleton _ _
    apply Snapshot.getByKey?_ofList_eq_none hnodup
    intro other hother
    rw [List.mem_singleton.1 hother, FlagDefinition.key_of_prepare hchecked]
    decide
  refine ⟨flag, hflawed, hprepare _ _ hflawed, hchecked, ?_, ?_⟩
  · apply (hflag flag _).1.invalid_context.2
    refine ⟨flag, rfl, hon, ?_⟩
    rintro _ ⟨⟩
  · exact ((hevaluator {} _).by_key 0 "cart" Flag.tester).flag_not_found.2 hmissing

end FeatureFlags
