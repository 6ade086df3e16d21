import FeatureFlags.Details.Recorder
import FeatureFlags.Store

/-! # Evaluating published flags

Entities without an id get one that is made up, from a number drawn by the caller. Every
evaluation ends with one record of its outcome in the log. -/

namespace FeatureFlags

structure Evaluator where
  /-- The property under which constraints see the id of the entity. -/
  entityIdAttribute : Option String := none
  generateMissingEntityId : Bool := true
  deriving DecidableEq, Repr

structure BatchResult where
  entityId : String
  flagKey : String
  result : Result Decision
  deriving DecidableEq, Repr

namespace Evaluator

def generatedId (draw : UInt32) : String := "randomly_generated_" ++ toString draw

def generatesId (evaluator : Evaluator) (entity : Entity) : Bool :=
  entity.id.isEmpty && evaluator.generateMissingEntityId

def fillId (evaluator : Evaluator) (draw : UInt32) (entity : Entity) : Logged Entity :=
  if evaluator.generatesId entity then do
    let id := generatedId draw
    Logged.write .debug "generated entity id" [("entity_id", .string id)]
    return { entity with id }
  else return entity

/-- The entity with its id among its properties. A property of that name that is already there
stays. -/
def exposeId (evaluator : Evaluator) (entity : Entity) : Entity :=
  match evaluator.entityIdAttribute, entity.context.object? with
  | some property, some context =>
    if context.has property then entity
    else { entity with context := .object (context.insert property (.string entity.id)) }
  | _, _ => entity

def prepareEntity (evaluator : Evaluator) (draw : UInt32) (entity : Entity) : Logged Entity :=
  evaluator.exposeId <$> evaluator.fillId draw entity

def evaluateFlag {m : Type → Type} [Monad m] (observer : Observer m) (flag : Option Flag)
    (entity : Entity) : m (Result Decision) :=
  match flag with
  | some flag => flag.evaluateWith observer .md5 entity
  | none => do
    observer.result (.error .flagNotFound)
    return .error .flagNotFound

def logOutcome (flagKey entityId : String) (result : Result Decision) : Logged Unit :=
  let fields : List (String × Json) :=
    [("flag_key", .string flagKey), ("entity_id", .string entityId)]
  match result with
  | .ok decision =>
    Logged.write .trace "evaluated a flag" (fields ++ [("decision", decision.toJson)])
  | .error .flagNotFound => Logged.write .warn "evaluating a flag that is not published" fields
  | .error error =>
    Logged.write .warn ("error occurred while evaluating a flag: " ++ error.message) fields

def evaluatePrepared (flag : Option Flag) (flagKey : String) (entity : Entity) :
    Logged (Result Decision) := do
  let result := Id.run (evaluateFlag .silent flag entity)
  logOutcome flagKey entity.id result
  return result

def evaluate (evaluator : Evaluator) (snapshot : Snapshot) (draw : UInt32) (flagKey : String)
    (entity : Entity) : Logged (Result Decision) := do
  let entity ← evaluator.prepareEntity draw entity
  evaluatePrepared (snapshot.getByKey? flagKey) flagKey entity

/-- What the flag of an id decides for an entity. The entity is not prepared if there is no such
flag. -/
def evaluateById (evaluator : Evaluator) (snapshot : Snapshot) (draw : UInt32) (flagId : UInt64)
    (entity : Entity) : Logged (Result Decision) := do
  match snapshot.get? flagId with
  | none =>
    Logged.write .warn "evaluating a flag that is not published" [("flag_id", .ofNat flagId.toNat)]
    return .error .flagNotFound
  | some flag =>
    let entity ← evaluator.prepareEntity draw entity
    evaluatePrepared (some flag) flag.key entity

def evaluateDetails (evaluator : Evaluator) (snapshot : Snapshot) (draw : UInt32)
    (flagKey : String) (entity : Entity) : Logged (Result Decision × Details) := do
  let entity ← evaluator.prepareEntity draw entity
  let (result, details) :=
    Recorder.record flagKey entity
      (evaluateFlag Recorder.observer (snapshot.getByKey? flagKey) entity)
  logOutcome flagKey entity.id result
  return (result, details)

def evaluateKeys (evaluator : Evaluator) (snapshot : Snapshot) (draw : UInt32)
    (flagKeys : List String) (entity : Entity) : Logged (List BatchResult) := do
  let entity ← evaluator.prepareEntity draw entity
  flagKeys.mapM fun flagKey => do
    let result ← evaluatePrepared (snapshot.getByKey? flagKey) flagKey entity
    return ⟨entity.id, flagKey, result⟩

/-- The results of all flags for the first entity, for the second and so on. Each entity has a draw
of its own. -/
def evaluateBatch (evaluator : Evaluator) (snapshot : Snapshot) (draws : Nat → UInt32)
    (entities : List Entity) (flagKeys : List String) : Logged (List BatchResult) := do
  let results ← entities.zipIdx.mapM fun (entity, i) =>
    evaluator.evaluateKeys snapshot (draws i) flagKeys entity
  return results.flatten

end Evaluator

end FeatureFlags
