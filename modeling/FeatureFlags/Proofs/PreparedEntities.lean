import FeatureFlags.Proofs.EntryPoints
import FeatureFlags.Proofs.OrderedMembers
import FeatureFlags.Proofs.Relevance

/-! # What preparing an entity changes

Preparation may give an entity an id, and may put the id among its properties. All else stays as it
is, and an entity that is prepared already stays as it is altogether. Flags that do not ask for the
property in which ids are exposed are evaluated as if none were. -/

namespace FeatureFlags

theorem mapM_congr_of_mem {m : Type → Type} [Monad m] [LawfulMonad m] {α β : Type} {f g : α → m β}
    {xs : List α} (h : ∀ x ∈ xs, f x = g x) : xs.mapM f = xs.mapM g := by
  induction xs with
  | nil => simp
  | cons x rest ih =>
    obtain ⟨hx, hrest⟩ := List.forall_mem_cons.1 h
    rw [List.mapM_cons, List.mapM_cons, hx, ih hrest]

namespace Evaluator

/-- A property is configured for ids, and the context is an object that does not have it. -/
structure Exposes (evaluator : Evaluator) (entity : Entity) (property : String)
    (context : Context) : Prop where
  configured : evaluator.entityIdAttribute = some property
  object : entity.context = .object context
  absent : context.find? property = none

section

variable (evaluator : Evaluator) (entity : Entity)

theorem exposeId_cases :
    (∃ property context, evaluator.Exposes entity property context ∧
      evaluator.exposeId entity =
        { entity with context := .object (context.insert property (.string entity.id)) }) ∨
    (¬ ∃ property context, evaluator.Exposes entity property context) ∧
      evaluator.exposeId entity = entity := by
  unfold exposeId
  split
  · rename_i property context hproperty hobject
    have hcontext := Value.object?_eq_some.1 hobject
    cases hfind : context.find? property with
    | none =>
      left
      refine ⟨property, context, ⟨hproperty, hcontext, hfind⟩, ?_⟩
      simp [Members.has, hfind]
    | some value =>
      right
      refine ⟨?_, by simp [Members.has, hfind]⟩
      rintro ⟨other, found, hexposes⟩
      cases hproperty.symm.trans hexposes.configured
      cases hcontext.symm.trans hexposes.object
      rw [hexposes.absent] at hfind
      contradiction
  · rename_i hneither
    right
    refine ⟨?_, rfl⟩
    rintro ⟨property, context, hexposes⟩
    exact hneither property context hexposes.configured (Value.object?_eq_some.2 hexposes.object)

@[simp] theorem exposeId_bucketKey : (evaluator.exposeId entity).bucketKey = entity.bucketKey := by
  rcases evaluator.exposeId_cases entity with ⟨property, context, -, heq⟩ | ⟨-, heq⟩
  · rw [heq]
  · rw [heq]

@[simp] theorem exposeId_samplingKey :
    (evaluator.exposeId entity).samplingKey = entity.samplingKey := by
  simp [Entity.samplingKey]

theorem exposeId_exposeId :
    evaluator.exposeId (evaluator.exposeId entity) = evaluator.exposeId entity := by
  rcases evaluator.exposeId_cases (evaluator.exposeId entity) with
    ⟨property, context, hagain, -⟩ | ⟨-, heq⟩
  -- The property would have to be absent, but it has just been put there.
  · exfalso
    rcases evaluator.exposeId_cases entity with
      ⟨_, inner, hexposes, heq⟩ | ⟨hnone, heq⟩
    · cases hagain.configured.symm.trans hexposes.configured
      have habsent := hagain.absent
      have hobject := hagain.object
      rw [heq] at hobject
      cases hobject
      rw [Members.find?_insert, if_pos rfl] at habsent
      contradiction
    · rw [heq] at hagain
      exact hnone ⟨property, context, hagain⟩
  · exact heq

end

section

variable (evaluator : Evaluator) (draw : UInt32) (entity : Entity)

theorem generatesId_iff : evaluator.generatesId entity = true ↔
    entity.id = "" ∧ evaluator.generateMissingEntityId = true := by
  simp [generatesId]

@[simp] theorem fillId_bucketKey :
    (evaluator.fillId draw entity).value.bucketKey = entity.bucketKey := by
  rw [fillId_value]
  split
  · rfl
  · rfl

@[simp] theorem fillId_context :
    (evaluator.fillId draw entity).value.context = entity.context := by
  rw [fillId_value]
  split
  · rfl
  · rfl

theorem fillId_of_not_generatesId (h : evaluator.generatesId entity = false) :
    evaluator.fillId draw entity = pure entity := by
  simp [fillId, h]

theorem generatesId_prepared :
    evaluator.generatesId (evaluator.prepareEntity draw entity).value = false := by
  have hid : (evaluator.prepareEntity draw entity).value.id =
      (evaluator.fillId draw entity).value.id := evaluator.exposeId_id _
  rw [generatesId, hid, fillId_value]
  split
  · simp
  · rename_i hnot
    exact Bool.eq_false_iff.2 hnot

theorem prepareEntity_prepared (other : UInt32) :
    evaluator.prepareEntity other (evaluator.prepareEntity draw entity).value =
      pure (evaluator.prepareEntity draw entity).value := by
  rw [prepareEntity, fillId_of_not_generatesId _ _ _ (generatesId_prepared _ _ _), map_pure,
    prepareEntity_value, exposeId_exposeId]

end

def withoutAttribute (evaluator : Evaluator) : Evaluator :=
  { evaluator with entityIdAttribute := none }

def NotNamedBy (evaluator : Evaluator) (flag : Flag) : Prop :=
  ∀ property, evaluator.entityIdAttribute = some property → ¬ flag.Names property

section

variable {evaluator : Evaluator}

theorem evaluateFlag_exposeId {m : Type → Type} [Monad m] (observer : Observer m)
    {flag : Option Flag} (h : ∀ published, flag = some published → evaluator.NotNamedBy published)
    (entity : Entity) :
    evaluateFlag observer flag (evaluator.exposeId entity) = evaluateFlag observer flag entity := by
  cases flag with
  | none => rfl
  | some flag =>
    rcases evaluator.exposeId_cases entity with ⟨property, context, hexposes, heq⟩ | ⟨-, heq⟩
    · have hexposed : (evaluator.exposeId entity).context =
          .object (context.insert property (.string entity.id)) := by rw [heq]
      apply Flag.evaluateWith_congr observer .md5 hexposed hexposes.object
        (evaluator.exposeId_samplingKey entity)
      intro other hnames
      have hne : property ≠ other := by
        rintro rfl
        exact h flag rfl property hexposes.configured hnames
      rw [Members.find?_insert, if_neg hne]
    · rw [heq]

theorem evaluatePrepared_exposeId {flag : Option Flag}
    (h : ∀ published, flag = some published → evaluator.NotNamedBy published) (flagKey : String)
    (entity : Entity) :
    evaluatePrepared flag flagKey (evaluator.exposeId entity) =
      evaluatePrepared flag flagKey entity := by
  simp only [evaluatePrepared, evaluateFlag_exposeId _ h, exposeId_id]

/-- What pays no attention to an exposed id does the same without a property for ids. -/
theorem prepareEntity_bind {α : Type} {f : Entity → Logged α}
    (h : ∀ entity, f (evaluator.exposeId entity) = f entity) (draw : UInt32) (entity : Entity) :
    evaluator.prepareEntity draw entity >>= f =
      evaluator.withoutAttribute.prepareEntity draw entity >>= f := by
  have hwithout : ∀ entity, evaluator.withoutAttribute.exposeId entity = entity := fun _ => rfl
  simp only [prepareEntity, bind_map_left, h, hwithout]
  rfl

variable {snapshot : Snapshot}

theorem evaluate_withoutAttribute {flagKey : String}
    (h : ∀ flag, snapshot.getByKey? flagKey = some flag → evaluator.NotNamedBy flag)
    (draw : UInt32) (entity : Entity) :
    evaluator.evaluate snapshot draw flagKey entity =
      evaluator.withoutAttribute.evaluate snapshot draw flagKey entity :=
  prepareEntity_bind (evaluatePrepared_exposeId h flagKey) draw entity

theorem evaluateById_withoutAttribute {flagId : UInt64}
    (h : ∀ flag, snapshot.get? flagId = some flag → evaluator.NotNamedBy flag) (draw : UInt32)
    (entity : Entity) :
    evaluator.evaluateById snapshot draw flagId entity =
      evaluator.withoutAttribute.evaluateById snapshot draw flagId entity := by
  unfold evaluateById
  cases hflag : snapshot.get? flagId with
  | none => rfl
  | some flag =>
    have hnamed : ∀ published, some flag = some published → evaluator.NotNamedBy published := by
      rintro _ ⟨⟩
      exact h flag hflag
    exact prepareEntity_bind (evaluatePrepared_exposeId hnamed flag.key) draw entity

theorem evaluateDetails_withoutAttribute {flagKey : String}
    (h : ∀ flag, snapshot.getByKey? flagKey = some flag → evaluator.NotNamedBy flag)
    (draw : UInt32) (entity : Entity) :
    (evaluator.evaluateDetails snapshot draw flagKey entity).value.1 =
      (evaluator.withoutAttribute.evaluateDetails snapshot draw flagKey entity).value.1 := by
  rw [evaluateDetails_value, evaluateDetails_value, ← evaluate_value, ← evaluate_value,
    evaluate_withoutAttribute h]

theorem evaluateKeys_withoutAttribute {flagKeys : List String}
    (h : ∀ flagKey ∈ flagKeys, ∀ flag, snapshot.getByKey? flagKey = some flag →
      evaluator.NotNamedBy flag) (draw : UInt32) (entity : Entity) :
    evaluator.evaluateKeys snapshot draw flagKeys entity =
      evaluator.withoutAttribute.evaluateKeys snapshot draw flagKeys entity := by
  apply prepareEntity_bind
  intro prepared
  apply mapM_congr_of_mem
  intro flagKey hmem
  simp only [evaluatePrepared_exposeId (h flagKey hmem), exposeId_id]

theorem evaluateBatch_withoutAttribute {flagKeys : List String}
    (h : ∀ flagKey ∈ flagKeys, ∀ flag, snapshot.getByKey? flagKey = some flag →
      evaluator.NotNamedBy flag) (draws : Nat → UInt32) (entities : List Entity) :
    evaluator.evaluateBatch snapshot draws entities flagKeys =
      evaluator.withoutAttribute.evaluateBatch snapshot draws entities flagKeys := by
  simp only [evaluateBatch, evaluateKeys_withoutAttribute h]

end

structure Prepares (evaluator : Evaluator) (draw : UInt32) (entity prepared : Entity) : Prop where
  bucketKey : prepared.bucketKey = entity.bucketKey
  id : ¬ (entity.id = "" ∧ evaluator.generateMissingEntityId = true) → prepared.id = entity.id
  generated : entity.id = "" → evaluator.generateMissingEntityId = true →
    prepared.id = generatedId draw ∧ prepared.id ≠ ""
  context : (¬ ∃ property context, evaluator.Exposes entity property context) →
    prepared.context = entity.context
  /-- One member is added, and no other property is looked up differently. -/
  exposed : ∀ property context, evaluator.Exposes entity property context →
    ∃ extended : Context, prepared.context = .object extended ∧
      extended.Perm ((property, .string prepared.id) :: context) ∧
      extended.find? property = some (.string prepared.id) ∧
      ∀ other, other ≠ property → extended.find? other = context.find? other

theorem prepares_prepareEntity (evaluator : Evaluator) (draw : UInt32) (entity : Entity) :
    evaluator.Prepares draw entity (evaluator.prepareEntity draw entity).value := by
  -- The id is filled in first. Whether there is something to expose it in does not depend on it.
  have hfilled : ∀ {property context}, evaluator.Exposes entity property context ↔
      evaluator.Exposes (evaluator.fillId draw entity).value property context := by
    intro property context
    constructor
    · rintro ⟨hproperty, hobject, habsent⟩
      exact ⟨hproperty, (evaluator.fillId_context draw entity).trans hobject, habsent⟩
    · rintro ⟨hproperty, hobject, habsent⟩
      exact ⟨hproperty, (evaluator.fillId_context draw entity).symm.trans hobject, habsent⟩
  rw [prepareEntity_value]
  constructor
  case bucketKey => simp
  case id =>
    intro hgiven
    rw [exposeId_id, fillId_value, if_neg (mt (evaluator.generatesId_iff entity).1 hgiven)]
  case generated =>
    intro hempty hgenerates
    rw [exposeId_id, fillId_value,
      if_pos ((evaluator.generatesId_iff entity).2 ⟨hempty, hgenerates⟩)]
    refine ⟨rfl, ?_⟩
    intro hid
    have hnonempty := isEmpty_generatedId draw
    rw [String.isEmpty_iff.2 hid] at hnonempty
    contradiction
  case context =>
    intro hnone
    rcases evaluator.exposeId_cases (evaluator.fillId draw entity).value with
      ⟨property, context, hexposes, -⟩ | ⟨-, heq⟩
    · exact absurd ⟨property, context, hfilled.2 hexposes⟩ hnone
    · rw [heq, fillId_context]
  case exposed =>
    intro property context hexposes
    rcases evaluator.exposeId_cases (evaluator.fillId draw entity).value with
      ⟨other, found, hother, heq⟩ | ⟨hnone, -⟩
    · cases hexposes.configured.symm.trans hother.configured
      cases hexposes.object.symm.trans (hfilled.2 hother).object
      rw [exposeId_id, heq]
      refine ⟨_, rfl, Members.insert_perm hexposes.absent, ?_, ?_⟩
      · rw [Members.find?_insert, if_pos rfl]
      · intro other hne
        rw [Members.find?_insert, if_neg (Ne.symm hne)]
    · exact absurd ⟨property, context, hfilled.1 hexposes⟩ hnone

/-- Whether there is a property for ids makes no difference, to the log neither, where no flag that
is evaluated names it. Details hold the context, so of them only the result is the same. -/
structure Indifferent (evaluator : Evaluator) (snapshot : Snapshot) : Prop where
  by_key : ∀ draw flagKey entity,
    (∀ flag, snapshot.getByKey? flagKey = some flag → evaluator.NotNamedBy flag) →
    evaluator.evaluate snapshot draw flagKey entity =
      evaluator.withoutAttribute.evaluate snapshot draw flagKey entity
  by_id : ∀ draw flagId entity,
    (∀ flag, snapshot.get? flagId = some flag → evaluator.NotNamedBy flag) →
    evaluator.evaluateById snapshot draw flagId entity =
      evaluator.withoutAttribute.evaluateById snapshot draw flagId entity
  details : ∀ draw flagKey entity,
    (∀ flag, snapshot.getByKey? flagKey = some flag → evaluator.NotNamedBy flag) →
    (evaluator.evaluateDetails snapshot draw flagKey entity).value.1 =
      (evaluator.withoutAttribute.evaluateDetails snapshot draw flagKey entity).value.1
  batch : ∀ draws entities flagKeys,
    (∀ flagKey ∈ flagKeys, ∀ flag, snapshot.getByKey? flagKey = some flag →
      evaluator.NotNamedBy flag) →
    evaluator.evaluateBatch snapshot draws entities flagKeys =
      evaluator.withoutAttribute.evaluateBatch snapshot draws entities flagKeys

/-- Preparation gives an entity an id if it has none, adds the id to the properties if one is
configured for it and not there yet, and changes nothing else. What is prepared stays as it is when it
is prepared once more. So flags that do not name the property for ids are evaluated as if there were
none. -/
theorem preparation_keeps_to_announced (evaluator : Evaluator) :
    (∀ draw entity, evaluator.Prepares draw entity (evaluator.prepareEntity draw entity).value) ∧
    (∀ draw other entity,
      evaluator.prepareEntity other (evaluator.prepareEntity draw entity).value =
        pure (evaluator.prepareEntity draw entity).value) ∧
    ∀ snapshot, evaluator.Indifferent snapshot := by
  refine ⟨evaluator.prepares_prepareEntity, ?_, ?_⟩
  · intro draw other entity
    exact evaluator.prepareEntity_prepared draw entity other
  · intro snapshot
    constructor
    case by_key =>
      intro draw flagKey entity h
      exact evaluate_withoutAttribute h draw entity
    case by_id =>
      intro draw flagId entity h
      exact evaluateById_withoutAttribute h draw entity
    case details =>
      intro draw flagKey entity h
      exact evaluateDetails_withoutAttribute h draw entity
    case batch =>
      intro draws entities flagKeys h
      exact evaluateBatch_withoutAttribute h draws entities

def byUid : Evaluator := ⟨some "uid", true⟩

def visitor : Entity := ⟨"", .object [("beta", .boolean true)], none⟩

theorem preparation_keeps_to_announced_visitor : ∃ flag prepared,
    Flag.checkout.prepare = .ok flag ∧ byUid.NotNamedBy flag ∧
    byUid.Exposes visitor "uid" [("beta", .boolean true)] ∧
    prepared = ⟨"randomly_generated_5", .object [("beta", .boolean true),
      ("uid", .string "randomly_generated_5")], none⟩ ∧
    byUid.Prepares 5 visitor prepared ∧
    byUid.prepareEntity 6 prepared = pure prepared ∧
    byUid.evaluateById (Snapshot.empty.insert flag) 5 flag.id visitor =
      byUid.withoutAttribute.evaluateById (Snapshot.empty.insert flag) 5 flag.id visitor := by
  obtain ⟨flag, hflag⟩ := Result.exists_eq_ok.2
    (by decide +kernel : Flag.checkout.prepare.isOk = true)
  have hnamed : byUid.NotNamedBy flag := by
    rintro _ ⟨⟩ hnames
    obtain ⟨d, hd, c, hc, hname⟩ := Flag.names_of_prepare hflag hnames
    rcases List.mem_pair.1 hd with rfl | rfl
    · cases hc
    · rw [List.mem_singleton.1 hc] at hname
      contradiction
  have hpublished : ∀ published, (Snapshot.empty.insert flag).get? flag.id = some published →
      byUid.NotNamedBy published := by
    intro published hget
    rw [Snapshot.get?_insert, if_pos rfl] at hget
    cases hget
    exact hnamed
  obtain ⟨hprepares, hagain, hindifferent⟩ := preparation_keeps_to_announced byUid
  exact ⟨flag, (byUid.prepareEntity 5 visitor).value, hflag, hnamed, ⟨rfl, rfl, rfl⟩,
    by decide +kernel, hprepares 5 visitor, hagain 5 6 visitor,
    (hindifferent _).by_id 5 flag.id visitor hpublished⟩

end Evaluator

end FeatureFlags
