import Mathlib.Data.Finset.Card
import FeatureFlags.Proofs.PreparedEntities
import FeatureFlags.Proofs.Publishing

/-! # What is logged

Every evaluation is logged with one record that tells its outcome, behind a record of the id if one
was made up for the entity. Every write is logged with one record, except for a removal of what is
not there. -/

namespace FeatureFlags

namespace Logged

variable {α β : Type}

@[simp] theorem log_map (f : α → β) (x : Logged α) : (f <$> x).log = x.log :=
  List.append_nil x.log

/-- If every step logs one record that goes with its value, then the records of all steps go with
their values one by one. -/
theorem forall₂_mapM {R : β → Log.Record → Prop} {f : α → Logged β}
    (h : ∀ a, ∃ record, (f a).log = [record] ∧ R (f a).value record) (as : List α) :
    List.Forall₂ R (as.mapM f).value (as.mapM f).log := by
  induction as with
  | nil => exact .nil
  | cons a rest ih =>
    obtain ⟨record, hlog, hrecord⟩ := h a
    rw [List.mapM_cons, value_bind, log_bind, hlog, value_bind, log_bind, value_pure, log_pure,
      List.append_nil]
    exact .cons hrecord ih

end Logged

structure Log.Record.Tells (record : Log.Record) (flagKey entityId : String)
    (result : Result Decision) : Prop where
  flag_key : record.fields.lookup "flag_key" = some (.string flagKey)
  entity_id : record.fields.lookup "entity_id" = some (.string entityId)
  decided : ∀ decision, result = .ok decision →
    record.level = .trace ∧ record.fields.lookup "decision" = some decision.toJson
  failed : ∀ error, result = .error error →
    record.level = .warn ∧ record.fields.lookup "decision" = none
  not_published : result = .error .flagNotFound →
    record.message = "evaluating a flag that is not published"
  reason : ∀ error, error ≠ .flagNotFound → result = .error error →
    record.message = "error occurred while evaluating a flag: " ++ error.message

def BatchResult.ToldBy (outcome : BatchResult) (record : Log.Record) : Prop :=
  record.Tells outcome.flagKey outcome.entityId outcome.result

namespace Evaluator

theorem logOutcome_log (flagKey entityId : String) (result : Result Decision) :
    ∃ record, (logOutcome flagKey entityId result).log = [record] ∧
      record.Tells flagKey entityId result := by
  unfold logOutcome
  split
  · refine ⟨_, rfl, ?_⟩
    constructor <;> simp [List.lookup_cons]
  · refine ⟨_, rfl, ?_⟩
    constructor
    case reason =>
      rintro error hother ⟨⟩
      exact absurd rfl hother
    all_goals simp [List.lookup_cons]
  · rename_i error hother
    refine ⟨_, rfl, ?_⟩
    constructor
    case not_published =>
      rintro ⟨⟩
      exact absurd rfl hother
    case reason =>
      rintro _ - ⟨⟩
      rfl
    all_goals simp [List.lookup_cons]

theorem evaluatePrepared_log (flag : Option Flag) (flagKey : String) (entity : Entity) :
    ∃ record, (evaluatePrepared flag flagKey entity).log = [record] ∧
      record.Tells flagKey entity.id (evaluatePrepared flag flagKey entity).value := by
  rw [evaluatePrepared, Logged.log_bind, Logged.log_pure, List.append_nil]
  exact logOutcome_log _ _ _

/-- The record of the id that an entity gets by preparation, if it gets another one. -/
def idRecords (evaluator : Evaluator) (draw : UInt32) (entity : Entity) : List Log.Record :=
  let id := (evaluator.prepareEntity draw entity).value.id
  if id = entity.id then [] else [⟨.debug, "generated entity id", [("entity_id", .string id)]⟩]

section

variable (evaluator : Evaluator) (snapshot : Snapshot) (draw : UInt32) (flagKey : String)
  (entity : Entity)

theorem prepared_id_ne_iff : (evaluator.prepareEntity draw entity).value.id ≠ entity.id ↔
    entity.id = "" ∧ evaluator.generateMissingEntityId = true := by
  have hprepares := evaluator.prepares_prepareEntity draw entity
  constructor
  · intro hother
    by_contra hgiven
    exact hother (hprepares.id hgiven)
  · rintro ⟨hempty, hgenerates⟩
    rw [hempty]
    exact (hprepares.generated hempty hgenerates).2

theorem prepareEntity_log :
    (evaluator.prepareEntity draw entity).log = evaluator.idRecords draw entity := by
  have hgenerates := evaluator.prepared_id_ne_iff draw entity
  rw [prepareEntity, Logged.log_map, fillId, idRecords]
  by_cases hother : evaluator.generatesId entity = true
  · obtain ⟨hempty, hgenerate⟩ := (evaluator.generatesId_iff entity).1 hother
    have hid : (evaluator.prepareEntity draw entity).value.id = generatedId draw :=
      ((evaluator.prepares_prepareEntity draw entity).generated hempty hgenerate).1
    rw [if_pos hother, if_neg (hgenerates.2 ⟨hempty, hgenerate⟩), hid]
    rfl
  · rw [evaluator.generatesId_iff entity] at hother
    rw [if_neg (mt (evaluator.generatesId_iff entity).1 hother),
      if_pos (not_not.1 (mt hgenerates.1 hother))]
    rfl

theorem prepareEntity_bind_log {α : Type} (next : Entity → Logged α) :
    (evaluator.prepareEntity draw entity >>= next).log = evaluator.idRecords draw entity ++
      (next (evaluator.prepareEntity draw entity).value).log := by
  rw [Logged.log_bind, prepareEntity_log]

theorem evaluate_log : ∃ record,
    (evaluator.evaluate snapshot draw flagKey entity).log =
      evaluator.idRecords draw entity ++ [record] ∧
    record.Tells flagKey (evaluator.prepareEntity draw entity).value.id
      (evaluator.evaluate snapshot draw flagKey entity).value := by
  obtain ⟨record, hlog, htells⟩ := evaluatePrepared_log (snapshot.getByKey? flagKey) flagKey
    (evaluator.prepareEntity draw entity).value
  refine ⟨record, ?_, htells⟩
  rw [evaluate, prepareEntity_bind_log, hlog]

theorem evaluateById_log {flagId : UInt64} {flag : Flag} (h : snapshot.get? flagId = some flag) :
    ∃ record,
      (evaluator.evaluateById snapshot draw flagId entity).log =
        evaluator.idRecords draw entity ++ [record] ∧
      record.Tells flag.key (evaluator.prepareEntity draw entity).value.id
        (evaluator.evaluateById snapshot draw flagId entity).value := by
  obtain ⟨record, hlog, htells⟩ := evaluatePrepared_log (some flag) flag.key
    (evaluator.prepareEntity draw entity).value
  rw [evaluateById, h]
  dsimp only
  refine ⟨record, ?_, htells⟩
  rw [prepareEntity_bind_log, hlog]

theorem evaluateDetails_log : ∃ record,
    (evaluator.evaluateDetails snapshot draw flagKey entity).log =
      evaluator.idRecords draw entity ++ [record] ∧
    record.Tells flagKey (evaluator.prepareEntity draw entity).value.id
      (evaluator.evaluateDetails snapshot draw flagKey entity).value.1 := by
  rw [evaluateDetails, prepareEntity_bind_log, Logged.value_bind]
  generalize (evaluator.prepareEntity draw entity).value = prepared
  generalize Recorder.record flagKey prepared
    (evaluateFlag Recorder.observer (snapshot.getByKey? flagKey) prepared) = told
  obtain ⟨result, details⟩ := told
  obtain ⟨record, hlog, htells⟩ := logOutcome_log flagKey prepared.id result
  refine ⟨record, ?_, htells⟩
  rw [Logged.log_bind, hlog]
  rfl

end

/-- The results of a batch and its log, for the numbered entities that are left: entity by entity
there are a result for every key, and in the log the record of its id, if it gets one, and the
records of these results. -/
inductive BatchLogged (evaluator : Evaluator) (draws : Nat → UInt32) (flagKeys : List String) :
    List (Entity × Nat) → List BatchResult → List Log.Record → Prop
  | nil : BatchLogged evaluator draws flagKeys [] [] []
  | cons {entity : Entity} {i : Nat} {rest : List (Entity × Nat)} {row results : List BatchResult}
      {records log : List Log.Record}
      (hkeys : row.map (·.flagKey) = flagKeys)
      (hid : ∀ outcome ∈ row,
        outcome.entityId = (evaluator.prepareEntity (draws i) entity).value.id)
      (htold : List.Forall₂ BatchResult.ToldBy row records)
      (hrest : BatchLogged evaluator draws flagKeys rest results log) :
      BatchLogged evaluator draws flagKeys ((entity, i) :: rest) (row ++ results)
        (evaluator.idRecords (draws i) entity ++ records ++ log)

theorem evaluateKeys_log (evaluator : Evaluator) (snapshot : Snapshot) (draw : UInt32)
    (flagKeys : List String) (entity : Entity) : ∃ records,
    (evaluator.evaluateKeys snapshot draw flagKeys entity).log =
      evaluator.idRecords draw entity ++ records ∧
    List.Forall₂ BatchResult.ToldBy
      (evaluator.evaluateKeys snapshot draw flagKeys entity).value records := by
  rw [evaluateKeys, prepareEntity_bind_log, Logged.value_bind]
  refine ⟨_, rfl, ?_⟩
  apply Logged.forall₂_mapM
  intro flagKey
  obtain ⟨record, hlog, htells⟩ := evaluatePrepared_log (snapshot.getByKey? flagKey) flagKey
    (evaluator.prepareEntity draw entity).value
  refine ⟨record, ?_, htells⟩
  rw [Logged.log_bind, hlog]
  rfl

theorem batchLogged_mapM (evaluator : Evaluator) (snapshot : Snapshot) (draws : Nat → UInt32)
    (flagKeys : List String) (entities : List (Entity × Nat)) :
    let rows := entities.mapM fun (entity, i) =>
      evaluator.evaluateKeys snapshot (draws i) flagKeys entity
    evaluator.BatchLogged draws flagKeys entities rows.value.flatten rows.log := by
  intro rows
  induction entities with
  | nil => exact .nil
  | cons numbered rest ih =>
    obtain ⟨entity, i⟩ := numbered
    obtain ⟨records, hlog, htold⟩ := evaluator.evaluateKeys_log snapshot (draws i) flagKeys entity
    have hrow := evaluator.evaluateKeys_value snapshot (draws i) entity flagKeys
    simp only [rows, List.mapM_cons, Logged.value_bind, Logged.log_bind, Logged.value_pure,
      Logged.log_pure, List.append_nil, List.flatten_cons, hlog]
    refine .cons ?_ ?_ htold ih
    · rw [hrow, List.map_map]
      exact List.map_id flagKeys
    · intro outcome hmem
      rw [hrow] at hmem
      obtain ⟨flagKey, -, rfl⟩ := List.mem_map.1 hmem
      rfl

theorem evaluateBatch_log (evaluator : Evaluator) (snapshot : Snapshot) (draws : Nat → UInt32)
    (entities : List Entity) (flagKeys : List String) :
    evaluator.BatchLogged draws flagKeys entities.zipIdx
      (evaluator.evaluateBatch snapshot draws entities flagKeys).value
      (evaluator.evaluateBatch snapshot draws entities flagKeys).log := by
  rw [evaluateBatch, Logged.value_bind, Logged.log_bind, Logged.value_pure, Logged.log_pure,
    List.append_nil]
  exact evaluator.batchLogged_mapM snapshot draws flagKeys entities.zipIdx

end Evaluator

namespace Snapshot

theorem size_insert (snapshot : Snapshot) (flag : Flag) :
    (snapshot.insert flag).size =
      if snapshot.get? flag.id = none then snapshot.size + 1 else snapshot.size := by
  rw [size, flags_insert, Std.TreeMap.size_insert, ← Std.TreeMap.isSome_getElem?_eq_contains, size,
    get?]
  cases snapshot.flags[flag.id]? with
  | none => rfl
  | some previous => rfl

theorem get?_ofList_eq_none_iff {flags : List Flag} {id : UInt64} :
    (ofList flags).get? id = none ↔ id ∉ flags.map (·.id) := by
  constructor
  · intro hnone hmem
    obtain ⟨flag, hflag, hid⟩ := List.mem_map.1 hmem
    obtain ⟨last, hlast⟩ :=
      exists_lastWith (p := fun flag : Flag => flag.id = id) ⟨flag, hflag, hid⟩
    rw [get?_ofList_of_lastWith hlast] at hnone
    contradiction
  · intro habsent
    apply get?_ofList_eq_none
    rintro flag hflag rfl
    exact habsent (List.mem_map_of_mem hflag)

theorem size_ofList (flags : List Flag) :
    (ofList flags).size = (flags.map (·.id)).toFinset.card := by
  induction flags using List.reverseRecOn with
  | nil => rfl
  | append_singleton flags flag ih =>
    have hinsert : ofList (flags ++ [flag]) = (ofList flags).insert flag := List.foldl_concat ..
    have hids : ((flags ++ [flag]).map (·.id)).toFinset =
        Insert.insert flag.id (flags.map (·.id)).toFinset := by
      ext id
      simp [eq_comm]
    rw [hinsert, size_insert, ih, hids]
    simp only [get?_ofList_eq_none_iff, ← List.mem_toFinset]
    by_cases hnew : flag.id ∈ (flags.map (·.id)).toFinset
    · rw [if_neg (not_not.2 hnew), Finset.insert_eq_of_mem hnew]
    · rw [if_pos hnew, Finset.card_insert_of_notMem hnew]

end Snapshot

namespace Store

def faultRecord (definition : FlagDefinition) (error : Error) : Log.Record where
  level := .warn
  message := "failed to prepare flag: " ++ error.message
  fields := [("flag_id", .ofNat definition.id.toNat), ("flag_key", .string definition.key)]

theorem prepareLogged_log_of_ok {definition : FlagDefinition} {flag : Flag}
    (h : definition.prepare = .ok flag) : (prepareLogged definition).log = [] := by
  rw [prepareLogged, h]
  rfl

theorem prepareLogged_log_of_error {definition : FlagDefinition} {error : Error}
    (h : definition.prepare = .error error) :
    (prepareLogged definition).log = [faultRecord definition error] := by
  rw [prepareLogged, h]
  rfl

theorem prepareAll_cons_log {definition : FlagDefinition} {flag : Flag}
    (h : definition.prepare = .ok flag) (rest : List FlagDefinition) :
    (prepareAll (definition :: rest)).log = (prepareAll rest).log := by
  have hvalue : (prepareLogged definition).value = .ok flag := (prepareLogged_value _).trans h
  rw [prepareAll, Logged.log_bind, hvalue, prepareLogged_log_of_ok h]
  exact List.append_nil _

theorem prepareAll_log_of_ok {definitions : List FlagDefinition} {flags : List Flag}
    (h : definitions.mapM FlagDefinition.prepare = .ok flags) :
    (prepareAll definitions).log = [] := by
  have hflags := Result.mapM_eq_ok.1 h
  clear h
  induction hflags with
  | nil => rfl
  | cons hprepare _ ih => rw [prepareAll_cons_log hprepare, ih]

theorem prepareAll_log_of_error {before after : List FlagDefinition} {definition : FlagDefinition}
    {error : Error} (hbefore : ∀ earlier ∈ before, ∃ flag, earlier.prepare = .ok flag)
    (h : definition.prepare = .error error) :
    (prepareAll (before ++ definition :: after)).log = [faultRecord definition error] := by
  induction before with
  | nil =>
    have hvalue : (prepareLogged definition).value = .error error := (prepareLogged_value _).trans h
    rw [List.nil_append, prepareAll, Logged.log_bind, hvalue, prepareLogged_log_of_error h]
    rfl
  | cons earlier rest ih =>
    obtain ⟨⟨flag, hflag⟩, hrest⟩ := List.forall_mem_cons.1 hbefore
    rw [List.cons_append, prepareAll_cons_log hflag, ih hrest]

structure LogsWrites (store : Store) : Prop where
  published : ∀ definitions published, (store.publish definitions).value = .ok published →
    (store.publish definitions).log = [⟨.debug, "published flag snapshot",
      [("flags", .ofNat (definitions.map (·.id)).toFinset.card)]⟩]
  upserted : ∀ definition flag published, (store.upsert definition).value = .ok (flag, published) →
    (store.upsert definition).log = [⟨.debug, "published flag",
      [("flag_id", .ofNat definition.id.toNat), ("flag_key", .string definition.key)]⟩]
  publish_failed : ∀ definitions error, (store.publish definitions).value = .error error →
    ∃ before definition after, definitions = before ++ definition :: after ∧
      (∀ earlier ∈ before, ∃ flag, earlier.prepare = .ok flag) ∧
      definition.prepare = .error error ∧
      (store.publish definitions).log = [faultRecord definition error]
  upsert_failed : ∀ definition error, (store.upsert definition).value = .error error →
    definition.prepare = .error error ∧
    (store.upsert definition).log = [faultRecord definition error]
  removed : ∀ id flag, store.snapshot.get? id = some flag →
    (store.remove id).value.1 = some flag ∧
    (store.remove id).log = [⟨.debug, "removed flag", [("flag_id", .ofNat id.toNat)]⟩]
  nothing_removed : ∀ id, store.snapshot.get? id = none →
    (store.remove id).value.1 = none ∧ (store.remove id).log = []

theorem logsWrites (store : Store) : store.LogsWrites := by
  constructor
  case published =>
    intro definitions published h
    rw [publish_value] at h
    cases hflags : definitions.mapM FlagDefinition.prepare with
    | error error =>
      rw [hflags] at h
      contradiction
    | ok flags =>
      have hvalue := (prepareAll_value definitions).trans hflags
      have hids := map_id_of_prepare (Result.mapM_eq_ok.1 hflags)
      rw [publish, Logged.log_bind, prepareAll_log_of_ok hflags, hvalue, ← hids,
        ← Snapshot.size_ofList]
      rfl
  case upserted =>
    intro definition flag published h
    cases hprepare : definition.prepare with
    | error error =>
      rw [upsert, Logged.value_bind, prepareLogged_value, hprepare] at h
      contradiction
    | ok prepared =>
      rw [upsert, Logged.log_bind, prepareLogged_value, hprepare, prepareLogged_log_of_ok hprepare]
      rfl
  case publish_failed =>
    intro definitions error h
    have herror : store.error? (.publish definitions) = some error := by rw [error?, h]
    obtain ⟨before, definition, after, hsplit, hbefore, hfail⟩ := error?_eq_some.1 herror
    refine ⟨before, definition, after, hsplit, hbefore, hfail, ?_⟩
    rw [Write.definitions] at hsplit
    have hlog : (prepareAll (before ++ definition :: after)).log = [faultRecord definition error] :=
      prepareAll_log_of_error hbefore hfail
    have hvalue : (prepareAll definitions).value = .error error := by
      rw [prepareAll_value]
      exact Result.mapM_eq_error.2 ⟨before, definition, after, hsplit, hbefore, hfail⟩
    rw [publish, Logged.log_bind, hvalue, hsplit, hlog]
    rfl
  case upsert_failed =>
    intro definition error h
    rw [upsert, Logged.value_bind, prepareLogged_value] at h
    cases hprepare : definition.prepare with
    | ok flag =>
      rw [hprepare] at h
      contradiction
    | error failure =>
      rw [hprepare] at h
      cases h
      rw [upsert, Logged.log_bind, prepareLogged_value, hprepare,
        prepareLogged_log_of_error hprepare]
      exact ⟨rfl, rfl⟩
  case removed =>
    intro id flag h
    rw [remove, h]
    exact ⟨rfl, rfl⟩
  case nothing_removed =>
    intro id h
    rw [remove, h]
    exact ⟨rfl, rfl⟩

example : (empty.publish [⟨3, "home", "", true, [], []⟩, ⟨3, "start", "", true, [], []⟩]).log =
    [⟨.debug, "published flag snapshot", [("flags", .ofNat 1)]⟩] := by decide +kernel

end Store

structure Evaluator.LogsEvaluations (evaluator : Evaluator) (snapshot : Snapshot) : Prop where
  /-- An id is made up, and recorded, exactly for an entity without one if that is configured. -/
  generated : ∀ draw entity, evaluator.idRecords draw entity ≠ [] ↔
    entity.id = "" ∧ evaluator.generateMissingEntityId = true
  by_key : ∀ draw flagKey entity, ∃ record,
    (evaluator.evaluate snapshot draw flagKey entity).log =
      evaluator.idRecords draw entity ++ [record] ∧
    record.Tells flagKey (evaluator.prepareEntity draw entity).value.id
      (evaluator.evaluate snapshot draw flagKey entity).value
  details : ∀ draw flagKey entity, ∃ record,
    (evaluator.evaluateDetails snapshot draw flagKey entity).log =
      evaluator.idRecords draw entity ++ [record] ∧
    record.Tells flagKey (evaluator.prepareEntity draw entity).value.id
      (evaluator.evaluateDetails snapshot draw flagKey entity).value.1
  by_id : ∀ draw flagId flag entity, snapshot.get? flagId = some flag → ∃ record,
    (evaluator.evaluateById snapshot draw flagId entity).log =
      evaluator.idRecords draw entity ++ [record] ∧
    record.Tells flag.key (evaluator.prepareEntity draw entity).value.id
      (evaluator.evaluateById snapshot draw flagId entity).value
  /-- No id is made up where there is no flag with the id that is asked for. -/
  by_missing_id : ∀ draw flagId entity, snapshot.get? flagId = none →
    evaluator.evaluateById snapshot draw flagId entity =
      ⟨.error .flagNotFound, [⟨.warn, "evaluating a flag that is not published",
        [("flag_id", .ofNat flagId.toNat)]⟩]⟩
  batch : ∀ draws entities flagKeys, evaluator.BatchLogged draws flagKeys entities.zipIdx
    (evaluator.evaluateBatch snapshot draws entities flagKeys).value
    (evaluator.evaluateBatch snapshot draws entities flagKeys).log

theorem Evaluator.logsEvaluations (evaluator : Evaluator) (snapshot : Snapshot) :
    evaluator.LogsEvaluations snapshot := by
  constructor
  case generated =>
    intro draw entity
    rw [← evaluator.prepared_id_ne_iff draw entity, idRecords]
    by_cases hsame : (evaluator.prepareEntity draw entity).value.id = entity.id
    · simp [hsame]
    · simp [hsame]
  case by_key => exact evaluator.evaluate_log snapshot
  case details => exact evaluator.evaluateDetails_log snapshot
  case by_id =>
    intro draw flagId flag entity h
    exact evaluator.evaluateById_log snapshot draw entity h
  case by_missing_id =>
    intro draw flagId entity h
    rw [evaluateById, h]
    rfl
  case batch => exact evaluator.evaluateBatch_log snapshot

/-- In every state of the store, however entities are prepared, every evaluation leaves one record
of its outcome in the log, in the order of the results and each behind the record of an id that was
made up for it; and every write leaves one record of what it did or of the first fault, unless it
did nothing. -/
theorem Evaluator.one_record_per_outcome (writes : List Store.Write) (evaluator : Evaluator) :
    evaluator.LogsEvaluations (Store.empty.run writes).snapshot ∧
      (Store.empty.run writes).LogsWrites :=
  ⟨evaluator.logsEvaluations _, Store.logsWrites _⟩

end FeatureFlags
