import FeatureFlags.Evaluator
import FeatureFlags.Proofs.Story
import FeatureFlags.Proofs.Writes

/-! # Ways to evaluate a flag

A flag can be evaluated by its key, by its id, with details, or for many entities at once. All ways
prepare the entity alike and come to the same result. -/

namespace FeatureFlags

section

variable {α : Type} {rows : List (List α)} {n : Nat}

theorem length_flatten_of_rows (h : ∀ row ∈ rows, row.length = n) :
    rows.flatten.length = rows.length * n := by
  induction rows with
  | nil => simp
  | cons row rest ih =>
    obtain ⟨hrow, hrest⟩ := List.forall_mem_cons.1 h
    rw [List.flatten_cons, List.length_append, ih hrest, hrow, List.length_cons, Nat.succ_mul,
      Nat.add_comm]

/-- Written one after the other, rows of length `n` have item `j` of row `i` at `i * n + j`. -/
theorem getElem?_flatten_of_rows (h : ∀ row ∈ rows, row.length = n) {i j : Nat} {row : List α}
    (hrow : rows[i]? = some row) (hj : j < n) : rows.flatten[i * n + j]? = row[j]? := by
  induction rows generalizing i with
  | nil => cases hrow
  | cons head rest ih =>
    obtain ⟨hhead, hrest⟩ := List.forall_mem_cons.1 h
    rw [List.flatten_cons]
    cases i with
    | zero =>
      have heq : head = row := Option.some.inj hrow
      rw [Nat.zero_mul, Nat.zero_add, List.getElem?_append_left (by omega), heq]
    | succ i =>
      have hskip : (i + 1) * n + j = head.length + (i * n + j) := by
        rw [hhead, Nat.succ_mul]
        omega
      rw [hskip, List.getElem?_append_right (Nat.le_add_right _ _), Nat.add_sub_cancel_left]
      exact ih hrest hrow

end

@[simp] theorem Logged.value_mapM {α β : Type} (f : α → Logged β) (xs : List α) :
    (xs.mapM f).value = xs.map fun x => (f x).value := by
  induction xs with
  | nil => rfl
  | cons x rest ih =>
    rw [List.mapM_cons, Logged.value_bind, Logged.value_bind, Logged.value_pure, ih, List.map_cons]

namespace Evaluator

@[simp] theorem isEmpty_generatedId (draw : UInt32) : (generatedId draw).isEmpty = false := by
  rw [Bool.eq_false_iff]
  intro hempty
  have hfront := (String.append_eq_empty_iff.1 (String.isEmpty_iff.1 hempty)).1
  contradiction

section

variable (evaluator : Evaluator) (draw : UInt32) (entity : Entity)

theorem fillId_value :
    (evaluator.fillId draw entity).value =
      if evaluator.generatesId entity then { entity with id := generatedId draw } else entity := by
  unfold fillId
  split
  · rfl
  · rfl

theorem prepareEntity_value :
    (evaluator.prepareEntity draw entity).value =
      evaluator.exposeId (evaluator.fillId draw entity).value :=
  rfl

@[simp] theorem exposeId_id : (evaluator.exposeId entity).id = entity.id := by
  unfold exposeId
  split
  · split
    · rfl
    · rfl
  · rfl

theorem with_prepared_id :
    { entity with id := (evaluator.prepareEntity draw entity).value.id } =
      (evaluator.fillId draw entity).value := by
  rw [prepareEntity_value, exposeId_id, fillId_value]
  split
  · rfl
  · rfl

theorem fillId_fillId (other : UInt32) :
    (evaluator.fillId other (evaluator.fillId draw entity).value).value =
      (evaluator.fillId draw entity).value := by
  rw [fillId_value evaluator other, if_neg]
  rw [fillId_value]
  split
  · simp [generatesId]
  · assumption

end

def verdict (flag : Option Flag) (entity : Entity) : Result Decision :=
  match flag with
  | some flag => flag.verdict .md5 entity
  | none => .error .flagNotFound

theorem verdict_eq_flagNotFound {flag : Option Flag} {entity : Entity} :
    verdict flag entity = .error .flagNotFound ↔ flag = none := by
  cases flag with
  | none => simp [verdict]
  | some flag =>
    obtain ⟨-, hverdict⟩ | ⟨-, -, hverdict⟩ | ⟨context, -, -, hverdict⟩ :=
      flag.verdict_cases .md5 entity
    all_goals simp [verdict, hverdict]

theorem run_evaluateFlag (flag : Option Flag) (entity : Entity) :
    Id.run (evaluateFlag .silent flag entity) = verdict flag entity := by
  cases flag with
  | none => rfl
  | some flag => exact Flag.evaluateWith_silent .md5 flag entity

theorem record_evaluateFlag (flag : Option Flag) (flagKey : String) (entity : Entity) :
    (Recorder.record flagKey entity (evaluateFlag Recorder.observer flag entity)).1 =
      verdict flag entity := by
  cases flag with
  | none => rfl
  | some flag =>
    have htold := Flag.evaluateWith_eq Recorder.observer Sharder.md5 flag entity
    change ((flag.evaluateWith Recorder.observer Sharder.md5.lift entity).run _).1 = _
    rw [htold, StateT.run_bind]
    rfl

section

variable (evaluator : Evaluator) (snapshot : Snapshot) (draw : UInt32) (flagKey : String)
  (entity : Entity)

theorem evaluatePrepared_value (flag : Option Flag) :
    (evaluatePrepared flag flagKey entity).value = verdict flag entity := by
  rw [← run_evaluateFlag]
  rfl

theorem evaluate_value :
    (evaluator.evaluate snapshot draw flagKey entity).value =
      verdict (snapshot.getByKey? flagKey) (evaluator.prepareEntity draw entity).value := by
  rw [evaluate, Logged.value_bind, evaluatePrepared_value]

theorem evaluateDetails_value :
    (evaluator.evaluateDetails snapshot draw flagKey entity).value.1 =
      verdict (snapshot.getByKey? flagKey) (evaluator.prepareEntity draw entity).value := by
  rw [← record_evaluateFlag _ flagKey]
  rfl

theorem evaluateById_value (flagId : UInt64) :
    (evaluator.evaluateById snapshot draw flagId entity).value =
      verdict (snapshot.get? flagId) (evaluator.prepareEntity draw entity).value := by
  unfold evaluateById
  cases snapshot.get? flagId with
  | none => rfl
  | some flag =>
    change (evaluatePrepared (some flag) flag.key _).value = _
    rw [evaluatePrepared_value]

theorem evaluateKeys_value (flagKeys : List String) :
    (evaluator.evaluateKeys snapshot draw flagKeys entity).value =
      flagKeys.map fun flagKey =>
        ⟨(evaluator.prepareEntity draw entity).value.id, flagKey,
          (evaluator.evaluate snapshot draw flagKey entity).value⟩ := by
  rw [evaluateKeys, Logged.value_bind, Logged.value_mapM]
  rfl

end

section

variable (evaluator : Evaluator) (snapshot : Snapshot) (draws : Nat → UInt32)
  (entities : List Entity) (flagKeys : List String)

theorem evaluateBatch_value :
    (evaluator.evaluateBatch snapshot draws entities flagKeys).value =
      (entities.zipIdx.map fun (entity, i) =>
        (evaluator.evaluateKeys snapshot (draws i) flagKeys entity).value).flatten := by
  rw [evaluateBatch, Logged.value_bind, Logged.value_mapM]
  rfl

theorem length_rows : ∀ row ∈ entities.zipIdx.map fun (entity, i) =>
    (evaluator.evaluateKeys snapshot (draws i) flagKeys entity).value,
    row.length = flagKeys.length := by
  intro row hrow
  obtain ⟨⟨entity, i⟩, -, rfl⟩ := List.mem_map.1 hrow
  change (evaluator.evaluateKeys snapshot (draws i) flagKeys entity).value.length = _
  rw [evaluateKeys_value, List.length_map]

theorem length_evaluateBatch :
    (evaluator.evaluateBatch snapshot draws entities flagKeys).value.length =
      entities.length * flagKeys.length := by
  rw [evaluateBatch_value, length_flatten_of_rows (length_rows _ _ _ _ _), List.length_map,
    List.length_zipIdx]

theorem getElem?_evaluateBatch {i j : Nat} {entity : Entity} {flagKey : String}
    (hentity : entities[i]? = some entity) (hkey : flagKeys[j]? = some flagKey) :
    (evaluator.evaluateBatch snapshot draws entities flagKeys).value[i * flagKeys.length + j]? =
      some ⟨(evaluator.prepareEntity (draws i) entity).value.id, flagKey,
        (evaluator.evaluate snapshot (draws i) flagKey entity).value⟩ := by
  have hj : j < flagKeys.length := (List.getElem?_eq_some_iff.1 hkey).1
  have hrow : (entities.zipIdx.map fun (entity, i) =>
      (evaluator.evaluateKeys snapshot (draws i) flagKeys entity).value)[i]? =
      some (evaluator.evaluateKeys snapshot (draws i) flagKeys entity).value := by
    simp [hentity]
  rw [evaluateBatch_value, getElem?_flatten_of_rows (length_rows _ _ _ _ _) hrow hj,
    evaluateKeys_value, List.getElem?_map, hkey]
  rfl

end

/-- All ways to evaluate the flags of a snapshot agree with evaluation by key. -/
structure Consistent (evaluator : Evaluator) (snapshot : Snapshot) : Prop where
  batch_length : ∀ draws entities flagKeys,
    (evaluator.evaluateBatch snapshot draws entities flagKeys).value.length =
      entities.length * flagKeys.length
  batch : ∀ draws entities flagKeys i j entity flagKey, entities[i]? = some entity →
    flagKeys[j]? = some flagKey →
    (evaluator.evaluateBatch snapshot draws entities flagKeys).value[i * flagKeys.length + j]? =
      some ⟨(evaluator.prepareEntity (draws i) entity).value.id, flagKey,
        (evaluator.evaluate snapshot (draws i) flagKey entity).value⟩
  /-- What the other pairs are, and whether they fail, does not matter. -/
  batch_isolated : ∀ draws entities flagKeys draws' entities' flagKeys' i j,
    i < entities.length → j < flagKeys.length → draws' i = draws i →
    entities'[i]? = entities[i]? → flagKeys'[j]? = flagKeys[j]? →
    (evaluator.evaluateBatch snapshot draws' entities' flagKeys').value[i * flagKeys'.length + j]? =
      (evaluator.evaluateBatch snapshot draws entities flagKeys).value[i * flagKeys.length + j]?
  prepared_id : ∀ draw entity, (evaluator.prepareEntity draw entity).value.id =
    if entity.id = "" ∧ evaluator.generateMissingEntityId = true then generatedId draw
    else entity.id
  /-- To evaluate the entity with the id that it was given needs no draw. -/
  identified : ∀ draw other flagKey entity,
    (evaluator.evaluate snapshot other flagKey
      { entity with id := (evaluator.prepareEntity draw entity).value.id }).value =
      (evaluator.evaluate snapshot draw flagKey entity).value
  details : ∀ draw flagKey entity,
    (evaluator.evaluateDetails snapshot draw flagKey entity).value.1 =
      (evaluator.evaluate snapshot draw flagKey entity).value
  by_id : ∀ draw flagKey flag entity, snapshot.getByKey? flagKey = some flag →
    evaluator.evaluate snapshot draw flagKey entity =
      evaluator.evaluateById snapshot draw flag.id entity
  not_found : ∀ draw flagKey entity,
    (evaluator.evaluate snapshot draw flagKey entity).value = .error .flagNotFound ↔
      snapshot.getByKey? flagKey = none
  not_found_by_id : ∀ draw flagId entity,
    (evaluator.evaluateById snapshot draw flagId entity).value = .error .flagNotFound ↔
      snapshot.get? flagId = none

/-- In every state of the store, and however entities are prepared, the entry points agree. -/
theorem entry_points_agree (writes : List Store.Write) (evaluator : Evaluator) :
    evaluator.Consistent (Store.empty.run writes).snapshot := by
  have hs : (Store.empty.run writes).snapshot.Indexed :=
    Store.indexed_run Snapshot.indexed_empty writes
  generalize (Store.empty.run writes).snapshot = snapshot at hs
  constructor
  case batch_length => exact length_evaluateBatch evaluator snapshot
  case batch =>
    intro draws entities flagKeys i j entity flagKey hentity hkey
    exact getElem?_evaluateBatch evaluator snapshot draws entities flagKeys hentity hkey
  case batch_isolated =>
    intro draws entities flagKeys draws' entities' flagKeys' i j hi hj hdraw hentity hkey
    have hentity' := List.getElem?_eq_getElem hi
    have hkey' := List.getElem?_eq_getElem hj
    rw [getElem?_evaluateBatch _ _ _ _ _ hentity' hkey',
      getElem?_evaluateBatch _ _ _ _ _ (hentity.trans hentity') (hkey.trans hkey'), hdraw]
  case prepared_id =>
    intro draw entity
    have hgenerates : evaluator.generatesId entity = true ↔
        entity.id = "" ∧ evaluator.generateMissingEntityId = true := by simp [generatesId]
    rw [prepareEntity_value, exposeId_id, fillId_value]
    simp only [hgenerates]
    split
    · rfl
    · rfl
  case identified =>
    intro draw other flagKey entity
    rw [with_prepared_id, evaluate_value, evaluate_value, prepareEntity_value, fillId_fillId]
    rfl
  case details =>
    intro draw flagKey entity
    rw [evaluateDetails_value, evaluate_value]
  case by_id =>
    intro draw flagKey flag entity hflag
    obtain ⟨-, hown, hget⟩ := hs.getByKey?_sound hflag
    rw [evaluate, evaluateById, hflag, hget, ← hown]
  case not_found =>
    intro draw flagKey entity
    rw [evaluate_value]
    exact verdict_eq_flagNotFound
  case not_found_by_id =>
    intro draw flagId entity
    rw [evaluateById_value]
    exact verdict_eq_flagNotFound

end Evaluator

end FeatureFlags
