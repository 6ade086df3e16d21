import Std.Data.TreeMap
import FeatureFlags.Flag
import FeatureFlags.Log

/-! # Published flags and the store that holds them

Flags are found by id and by key. Several flags may have the same key, and then it stands for one
of them: the one that took it last, or after that one has let go of it the one with the lowest id.

Every write to the store prepares the flags it is given and replaces the published snapshot as a
whole. A definition with a fault leaves everything as it was. -/

namespace FeatureFlags

structure Snapshot where
  flags : Std.TreeMap UInt64 Flag
  idOfKey : Std.TreeMap String UInt64

namespace Snapshot

def empty : Snapshot := ⟨∅, ∅⟩

def get? (snapshot : Snapshot) (id : UInt64) : Option Flag :=
  snapshot.flags[id]?

def resolve? (snapshot : Snapshot) (key : String) : Option UInt64 :=
  snapshot.idOfKey[key]?

def getByKey? (snapshot : Snapshot) (key : String) : Option Flag :=
  (snapshot.resolve? key).bind snapshot.get?

def size (snapshot : Snapshot) : Nat := snapshot.flags.size

def isEmpty (snapshot : Snapshot) : Bool := snapshot.flags.isEmpty

def toList (snapshot : Snapshot) : List Flag := snapshot.flags.values

/-- The lowest id of a flag with the key, other than the given one. -/
def successor? (snapshot : Snapshot) (key : String) (id : UInt64) : Option UInt64 :=
  (snapshot.flags.toList.find? fun (other, flag) => other != id && flag.key == key).map (·.1)

/-- Let the key no longer stand for the id. The next flag with the key takes it over. -/
def releaseKey (snapshot : Snapshot) (key : String) (id : UInt64) : Snapshot :=
  if snapshot.resolve? key = some id then
    match snapshot.successor? key id with
    | some next => { snapshot with idOfKey := snapshot.idOfKey.insert key next }
    | none => { snapshot with idOfKey := snapshot.idOfKey.erase key }
  else snapshot

/-- Let the key stand for the id, unless it is empty. -/
def takeKey (snapshot : Snapshot) (key : String) (id : UInt64) : Snapshot :=
  if key.isEmpty then snapshot
  else { snapshot with idOfKey := snapshot.idOfKey.insert key id }

def insert (snapshot : Snapshot) (flag : Flag) : Snapshot :=
  let released :=
    match snapshot.get? flag.id with
    | some previous => snapshot.releaseKey previous.key flag.id
    | none => snapshot
  let taken := released.takeKey flag.key flag.id
  { taken with flags := taken.flags.insert flag.id flag }

def erase (snapshot : Snapshot) (id : UInt64) : Snapshot :=
  match snapshot.get? id with
  | some flag =>
    { snapshot with flags := snapshot.flags.erase id }.releaseKey flag.key id
  | none => snapshot

def ofList (flags : List Flag) : Snapshot :=
  flags.foldl insert empty

@[simp] theorem get?_empty (id : UInt64) : empty.get? id = none :=
  Std.TreeMap.getElem?_emptyc

@[simp] theorem flags_releaseKey (snapshot : Snapshot) (key : String) (id : UInt64) :
    (snapshot.releaseKey key id).flags = snapshot.flags := by
  unfold releaseKey
  split
  · split <;> rfl
  · rfl

@[simp] theorem flags_takeKey (snapshot : Snapshot) (key : String) (id : UInt64) :
    (snapshot.takeKey key id).flags = snapshot.flags := by
  unfold takeKey
  split <;> rfl

theorem flags_insert (snapshot : Snapshot) (flag : Flag) :
    (snapshot.insert flag).flags = snapshot.flags.insert flag.id flag := by
  unfold insert
  split <;> simp

theorem get?_insert (snapshot : Snapshot) (flag : Flag) (id : UInt64) :
    (snapshot.insert flag).get? id = if flag.id = id then some flag else snapshot.get? id := by
  simp only [get?, flags_insert, Std.TreeMap.getElem?_insert, Std.compare_eq_iff_eq]

theorem get?_erase (snapshot : Snapshot) (erased id : UInt64) :
    (snapshot.erase erased).get? id = if erased = id then none else snapshot.get? id := by
  unfold erase
  split
  · simp only [get?, flags_releaseKey, Std.TreeMap.getElem?_erase, Std.compare_eq_iff_eq]
  · rename_i hnone
    by_cases h : erased = id
    · subst h
      simp [hnone]
    · simp [h]

end Snapshot

structure Store where
  snapshot : Snapshot
  /-- How often the snapshot has been replaced, where a clock would tell when it was last. -/
  revision : Nat

namespace Store

def empty : Store := ⟨.empty, 0⟩

def replace (store : Store) (snapshot : Snapshot) : Store :=
  ⟨snapshot, store.revision + 1⟩

def prepareLogged (definition : FlagDefinition) : Logged (Result Flag) :=
  match definition.prepare with
  | .ok flag => return .ok flag
  | .error error => do
    Logged.write .warn ("failed to prepare flag: " ++ error.message)
      [("flag_id", .ofNat definition.id.toNat), ("flag_key", .string definition.key)]
    return .error error

def prepareAll : List FlagDefinition → Logged (Result (List Flag))
  | [] => return .ok []
  | definition :: rest => do
    match ← prepareLogged definition with
    | .error error => return .error error
    | .ok flag => return (← prepareAll rest).map (flag :: ·)

def publish (store : Store) (definitions : List FlagDefinition) : Logged (Result Store) := do
  match ← prepareAll definitions with
  | .error error => return .error error
  | .ok flags =>
    let snapshot := Snapshot.ofList flags
    Logged.write .debug "published flag snapshot" [("flags", .ofNat snapshot.size)]
    return .ok (store.replace snapshot)

def upsert (store : Store) (definition : FlagDefinition) : Logged (Result (Flag × Store)) := do
  match ← prepareLogged definition with
  | .error error => return .error error
  | .ok flag =>
    Logged.write .debug "published flag"
      [("flag_id", .ofNat definition.id.toNat), ("flag_key", .string definition.key)]
    return .ok (flag, store.replace (store.snapshot.insert flag))

/-- Withdraw a flag. The store stays the same if there is none with the id. -/
def remove (store : Store) (id : UInt64) : Logged (Option Flag × Store) :=
  match store.snapshot.get? id with
  | none => return (none, store)
  | some flag => do
    Logged.write .debug "removed flag" [("flag_id", .ofNat id.toNat)]
    return (some flag, store.replace (store.snapshot.erase id))

end Store

end FeatureFlags
