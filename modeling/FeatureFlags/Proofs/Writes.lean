import FeatureFlags.Store
import FeatureFlags.Proofs.KeyIndex

/-! # Runs of a store

A run is a list of writes, each of which may fail and then leaves the store as it is. In every state
that a run from the empty store reaches, the key index is right. -/

namespace FeatureFlags

namespace Store

inductive Write where
  | publish (definitions : List FlagDefinition)
  | upsert (definition : FlagDefinition)
  | remove (id : UInt64)

def next (store : Store) : Write → Store
  | .publish definitions =>
    match (store.publish definitions).value with
    | .ok published => published
    | .error _ => store
  | .upsert definition =>
    match (store.upsert definition).value with
    | .ok (_, published) => published
    | .error _ => store
  | .remove id => (store.remove id).value.2

def run (store : Store) (writes : List Write) : Store := writes.foldl next store

theorem prepareLogged_value (definition : FlagDefinition) :
    (prepareLogged definition).value = definition.prepare := by
  unfold prepareLogged
  cases definition.prepare with
  | ok flag => rfl
  | error error => rfl

theorem prepareAll_value (definitions : List FlagDefinition) :
    (prepareAll definitions).value = definitions.mapM FlagDefinition.prepare := by
  induction definitions with
  | nil => rfl
  | cons definition rest ih =>
    rw [prepareAll, List.mapM_cons, Logged.value_bind, prepareLogged_value]
    cases definition.prepare with
    | error error => rfl
    | ok flag =>
      change (prepareAll rest).value.map (flag :: ·) = _
      rw [ih]
      cases rest.mapM FlagDefinition.prepare with
      | error error => rfl
      | ok flags => rfl

theorem publish_value (store : Store) (definitions : List FlagDefinition) :
    (store.publish definitions).value =
      match definitions.mapM FlagDefinition.prepare with
      | .ok flags => .ok (store.replace (.ofList flags))
      | .error error => .error error := by
  rw [publish, Logged.value_bind, prepareAll_value]
  cases definitions.mapM FlagDefinition.prepare with
  | ok flags => rfl
  | error error => rfl

theorem next_publish (store : Store) (definitions : List FlagDefinition) :
    store.next (.publish definitions) =
      match definitions.mapM FlagDefinition.prepare with
      | .ok flags => store.replace (.ofList flags)
      | .error _ => store := by
  rw [next, publish_value]
  cases definitions.mapM FlagDefinition.prepare with
  | ok flags => rfl
  | error error => rfl

theorem next_upsert (store : Store) (definition : FlagDefinition) :
    store.next (.upsert definition) =
      match definition.prepare with
      | .ok flag => store.replace (store.snapshot.insert flag)
      | .error _ => store := by
  rw [next, upsert, Logged.value_bind, prepareLogged_value]
  cases definition.prepare with
  | ok flag => rfl
  | error error => rfl

theorem next_remove (store : Store) (id : UInt64) :
    store.next (.remove id) =
      if store.snapshot.get? id = none then store
      else store.replace (store.snapshot.erase id) := by
  rw [next, remove]
  cases store.snapshot.get? id with
  | none => rfl
  | some flag => rfl

theorem indexed_next {store : Store} (hs : store.snapshot.Indexed) (write : Write) :
    (store.next write).snapshot.Indexed := by
  cases write with
  | publish definitions =>
    rw [next_publish]
    split
    · exact Snapshot.indexed_ofList _
    · exact hs
  | upsert definition =>
    rw [next_upsert]
    split
    · exact hs.insert _
    · exact hs
  | remove id =>
    rw [next_remove]
    split
    · exact hs
    · exact hs.erase id

theorem indexed_run {store : Store} (hs : store.snapshot.Indexed) (writes : List Write) :
    (store.run writes).snapshot.Indexed := by
  induction writes generalizing store with
  | nil => exact hs
  | cons write rest ih => exact ih (indexed_next hs write)

/-- After any run from the empty store, the keys that are found are those of published flags, except
for the empty key; what is found by a key has it and is what is found by its own id; and every flag
is published under its own id. -/
theorem run_keys_resolve (writes : List Write) :
    let snapshot := (empty.run writes).snapshot
    (∀ key, (∃ flag, snapshot.getByKey? key = some flag) ↔
      key ≠ "" ∧ ∃ id flag, snapshot.get? id = some flag ∧ flag.key = key) ∧
    (∀ key flag, snapshot.getByKey? key = some flag →
      flag.key = key ∧ snapshot.get? flag.id = some flag) ∧
    (∀ id flag, snapshot.get? id = some flag → flag.id = id) ∧
    snapshot.getByKey? "" = none := by
  intro snapshot
  have hs : snapshot.Indexed := indexed_run Snapshot.indexed_empty writes
  refine ⟨?_, ?_, hs.own_id, ?_⟩
  · intro key
    constructor
    · rintro ⟨flag, hflag⟩
      obtain ⟨hkey, hown, hget⟩ := hs.getByKey?_sound hflag
      exact ⟨hkey, flag.id, flag, hget, hown⟩
    · rintro ⟨hkey, id, hholds⟩
      exact hs.getByKey?_complete hkey hholds
  · intro key flag hflag
    obtain ⟨-, hown, hget⟩ := hs.getByKey?_sound hflag
    exact ⟨hown, hget⟩
  · cases hempty : snapshot.getByKey? "" with
    | none => rfl
    | some flag =>
      obtain ⟨hkey, -⟩ := hs.getByKey?_sound hempty
      contradiction

end Store

end FeatureFlags
