import FeatureFlags.Proofs.Preparation
import FeatureFlags.Proofs.Writes

/-! # What is left of a run

Under an id stands the flag of the definition that was last given for it, if it has not been
withdrawn since. Writes that fail, and removals of what is not there, might as well not have been
made. -/

namespace FeatureFlags

namespace Snapshot

theorem get?_foldl_insert_of_ne {flags : List Flag} {id : UInt64}
    (h : ∀ flag ∈ flags, flag.id ≠ id) (snapshot : Snapshot) :
    (flags.foldl Snapshot.insert snapshot).get? id = snapshot.get? id := by
  induction flags generalizing snapshot with
  | nil => rfl
  | cons flag rest ih =>
    obtain ⟨hflag, hrest⟩ := List.forall_mem_cons.1 h
    rw [List.foldl_cons, ih hrest, get?_insert, if_neg hflag]

theorem get?_ofList_of_lastWith {flags : List Flag} {id : UInt64} {flag : Flag}
    (h : LastWith (fun flag => flag.id = id) flags flag) : (ofList flags).get? id = some flag := by
  obtain ⟨before, after, rfl, hid, hafter⟩ := h
  rw [ofList, List.foldl_append, List.foldl_cons, get?_foldl_insert_of_ne hafter, get?_insert,
    if_pos hid]

theorem get?_ofList_eq_none {flags : List Flag} {id : UInt64} (h : ∀ flag ∈ flags, flag.id ≠ id) :
    (ofList flags).get? id = none := by
  rw [ofList, get?_foldl_insert_of_ne h, get?_empty]

section

variable {definitions : List FlagDefinition} {flags : List Flag}
  (hflags : List.Forall₂ (fun definition flag => definition.prepare = .ok flag) definitions flags)
  {id : UInt64}
include hflags

theorem get?_ofList_of_prepare {definition : FlagDefinition}
    (hlast : LastWith (fun definition => definition.id = id) definitions definition) :
    ∃ flag, definition.prepare = .ok flag ∧ (ofList flags).get? id = some flag := by
  have hids : ∀ (d : FlagDefinition) (flag : Flag), d.prepare = .ok flag →
      (d.id = id ↔ flag.id = id) := by
    intro d flag hprepare
    rw [FlagDefinition.id_of_prepare hprepare]
  obtain ⟨flag, hflag, hpublished⟩ := forall₂_lastWith hflags hids hlast
  exact ⟨flag, hflag, get?_ofList_of_lastWith hpublished⟩

theorem get?_ofList_of_prepare_eq_none (h : ∀ definition ∈ definitions, definition.id ≠ id) :
    (ofList flags).get? id = none := by
  apply get?_ofList_eq_none
  intro flag hflag
  obtain ⟨definition, hmem, hprepare⟩ := forall₂_mem_right hflags hflag
  rw [FlagDefinition.id_of_prepare hprepare]
  exact h definition hmem

end

end Snapshot

namespace Store

namespace Write

def definitions : Write → List FlagDefinition
  | .publish definitions => definitions
  | .upsert definition => [definition]
  | .remove _ => []

def Accepted (write : Write) : Prop :=
  ∀ definition ∈ write.definitions, ∃ flag, definition.prepare = .ok flag

end Write

def error? (store : Store) : Write → Option Error
  | .publish definitions =>
    match (store.publish definitions).value with
    | .ok _ => none
    | .error error => some error
  | .upsert definition =>
    match (store.upsert definition).value with
    | .ok _ => none
    | .error error => some error
  | .remove _ => none

theorem error?_eq (store : Store) (write : Write) :
    store.error? write =
      match write.definitions.mapM FlagDefinition.prepare with
      | .ok _ => none
      | .error error => some error := by
  cases write with
  | publish definitions =>
    rw [error?, publish_value, Write.definitions]
    cases definitions.mapM FlagDefinition.prepare with
    | ok flags => rfl
    | error error => rfl
  | upsert definition =>
    rw [error?, upsert, Logged.value_bind, prepareLogged_value, Write.definitions, List.mapM_cons]
    cases definition.prepare with
    | ok flag => rfl
    | error error => rfl
  | remove id => rfl

theorem error?_eq_some {store : Store} {write : Write} {error : Error} :
    store.error? write = some error ↔
      ∃ before definition after, write.definitions = before ++ definition :: after ∧
        (∀ earlier ∈ before, ∃ flag, earlier.prepare = .ok flag) ∧
        definition.prepare = .error error := by
  rw [error?_eq, ← Result.mapM_eq_error]
  cases write.definitions.mapM FlagDefinition.prepare with
  | ok flags => simp
  | error failure => simp

theorem Write.Accepted.exists_flags {write : Write} (h : write.Accepted) :
    ∃ flags, write.definitions.mapM FlagDefinition.prepare = .ok flags := by
  cases hmap : write.definitions.mapM FlagDefinition.prepare with
  | ok flags => exact ⟨flags, rfl⟩
  | error error =>
    obtain ⟨before, definition, after, hsplit, -, hfail⟩ := Result.mapM_eq_error.1 hmap
    obtain ⟨flag, hflag⟩ := h definition (by simp [hsplit])
    rw [hfail] at hflag
    contradiction

theorem error?_eq_none {store : Store} {write : Write} :
    store.error? write = none ↔ write.Accepted := by
  rw [error?_eq]
  constructor
  · intro h definition hmem
    cases hmap : write.definitions.mapM FlagDefinition.prepare with
    | error error => simp [hmap] at h
    | ok flags =>
      obtain ⟨flag, -, hflag⟩ := forall₂_mem (Result.mapM_eq_ok.1 hmap) hmem
      exact ⟨flag, hflag⟩
  · intro h
    obtain ⟨flags, hflags⟩ := h.exists_flags
    rw [hflags]

theorem next_of_error? {store : Store} {write : Write} {error : Error}
    (h : store.error? write = some error) : store.next write = store := by
  rw [error?_eq] at h
  cases write with
  | publish definitions =>
    rw [Write.definitions] at h
    rw [next_publish]
    cases hmap : definitions.mapM FlagDefinition.prepare with
    | ok flags => simp [hmap] at h
    | error failure => rfl
  | upsert definition =>
    rw [Write.definitions, List.mapM_cons] at h
    rw [next_upsert]
    cases hprepare : definition.prepare with
    | ok flag => simp [hprepare, pure, Except.pure, bind, Except.bind] at h
    | error failure => rfl
  | remove id => cases h

namespace Write

/-- The write succeeds and gives the definition for the id. Of several for the same id the last
counts. -/
def Gives (write : Write) (id : UInt64) (definition : FlagDefinition) : Prop :=
  write.Accepted ∧ LastWith (fun definition => definition.id = id) write.definitions definition

/-- The write succeeds and leaves nothing under the id: it publishes a list without the id, or it
removes it. -/
def Withdraws (write : Write) (id : UInt64) : Prop :=
  write.Accepted ∧
    match write with
    | .publish definitions => ∀ definition ∈ definitions, definition.id ≠ id
    | .upsert _ => False
    | .remove removed => removed = id

def Settles (write : Write) (id : UInt64) : Prop :=
  (∃ definition, write.Gives id definition) ∨ write.Withdraws id

theorem settles_of_mem {write : Write} {definition : FlagDefinition} (haccepted : write.Accepted)
    (hmem : definition ∈ write.definitions) : write.Settles definition.id := by
  have hlisted : ∃ other ∈ write.definitions, other.id = definition.id := ⟨definition, hmem, rfl⟩
  obtain ⟨last, hlast⟩ := exists_lastWith hlisted
  exact Or.inl ⟨last, haccepted, hlast⟩

end Write

/-- The definition that was last given for the id, and that no later write has withdrawn. -/
def LastGiven (writes : List Write) (id : UInt64) (definition : FlagDefinition) : Prop :=
  ∃ write, LastWith (Write.Settles · id) writes write ∧ write.Gives id definition

section

variable {store : Store} {write : Write} {id : UInt64}

theorem get?_next_of_gives {definition : FlagDefinition} (h : write.Gives id definition) :
    ∃ flag, definition.prepare = .ok flag ∧ (store.next write).snapshot.get? id = some flag := by
  obtain ⟨haccepted, hlast⟩ := h
  cases write with
  | publish definitions =>
    obtain ⟨flags, hflags⟩ := haccepted.exists_flags
    obtain ⟨flag, hflag, hpublished⟩ :=
      Snapshot.get?_ofList_of_prepare (Result.mapM_eq_ok.1 hflags) hlast
    refine ⟨flag, hflag, ?_⟩
    rw [Write.definitions] at hflags
    rw [next_publish, hflags]
    exact hpublished
  | upsert given =>
    obtain ⟨before, after, hgiven, hid, -⟩ := hlast
    have heq : given = definition := by
      have hmem : definition ∈ (Write.upsert given).definitions := by simp [hgiven]
      exact (List.mem_singleton.1 hmem).symm
    subst heq
    obtain ⟨flag, hflag⟩ := haccepted given List.mem_cons_self
    refine ⟨flag, hflag, ?_⟩
    rw [next_upsert, hflag]
    change (store.snapshot.insert flag).get? id = some flag
    rw [Snapshot.get?_insert, FlagDefinition.id_of_prepare hflag, if_pos hid]
  | remove removed =>
    obtain ⟨before, after, hgiven, -, -⟩ := hlast
    simp [Write.definitions] at hgiven

theorem get?_next_of_withdraws (h : write.Withdraws id) :
    (store.next write).snapshot.get? id = none := by
  obtain ⟨haccepted, hwithdraws⟩ := h
  cases write with
  | publish definitions =>
    obtain ⟨flags, hflags⟩ := haccepted.exists_flags
    have hgone := Snapshot.get?_ofList_of_prepare_eq_none (Result.mapM_eq_ok.1 hflags) hwithdraws
    rw [Write.definitions] at hflags
    rw [next_publish, hflags]
    exact hgone
  | upsert definition => exact hwithdraws.elim
  | remove removed =>
    obtain rfl : removed = id := hwithdraws
    rw [next_remove]
    split
    · assumption
    · change (store.snapshot.erase removed).get? removed = none
      rw [Snapshot.get?_erase, if_pos rfl]

theorem get?_next_of_not_settles (h : ¬ write.Settles id) :
    (store.next write).snapshot.get? id = store.snapshot.get? id := by
  cases herror : store.error? write with
  | some error => rw [next_of_error? herror]
  | none =>
    have haccepted := error?_eq_none.1 herror
    cases write with
    | publish definitions =>
      -- A list that is published settles every id: it gives a flag for it or it withdraws it.
      have hwithdraws : ∀ definition ∈ definitions, definition.id ≠ id := by
        rintro definition hmem rfl
        exact h (Write.settles_of_mem haccepted hmem)
      exact absurd (Or.inr ⟨haccepted, hwithdraws⟩) h
    | upsert definition =>
      obtain ⟨flag, hflag⟩ := haccepted definition List.mem_cons_self
      have hne : flag.id ≠ id := by
        rw [FlagDefinition.id_of_prepare hflag]
        rintro rfl
        exact h (Write.settles_of_mem haccepted List.mem_cons_self)
      rw [next_upsert, hflag]
      change (store.snapshot.insert flag).get? id = _
      rw [Snapshot.get?_insert, if_neg hne]
    | remove removed =>
      have hne : removed ≠ id := by
        rintro rfl
        exact h (Or.inr ⟨haccepted, rfl⟩)
      rw [next_remove]
      split
      · rfl
      · change (store.snapshot.erase removed).get? id = _
        rw [Snapshot.get?_erase, if_neg hne]

end

theorem get?_run_of_not_settles {writes : List Write} {id : UInt64}
    (h : ∀ write ∈ writes, ¬ write.Settles id) (store : Store) :
    (store.run writes).snapshot.get? id = store.snapshot.get? id := by
  induction writes generalizing store with
  | nil => rfl
  | cons write rest ih =>
    obtain ⟨hwrite, hrest⟩ := List.forall_mem_cons.1 h
    exact (ih hrest (store.next write)).trans (get?_next_of_not_settles hwrite)

theorem get?_run_of_lastWith {writes : List Write} {id : UInt64} {write : Write}
    (h : LastWith (Write.Settles · id) writes write) (store : Store) :
    ∃ before, (store.run writes).snapshot.get? id =
      ((store.run before).next write).snapshot.get? id := by
  obtain ⟨before, after, rfl, -, hafter⟩ := h
  refine ⟨before, ?_⟩
  rw [run, List.foldl_append, List.foldl_cons]
  exact get?_run_of_not_settles hafter _

def idle (store : Store) : Write → Bool
  | .remove id => (store.remove id).value.1.isNone
  | write => (store.error? write).isSome

def effective (store : Store) : List Write → List Write
  | [] => []
  | write :: rest =>
    if store.idle write then (store.next write).effective rest
    else write :: (store.next write).effective rest

theorem remove_value (store : Store) (id : UInt64) :
    (store.remove id).value.1 = store.snapshot.get? id := by
  rw [remove]
  cases store.snapshot.get? id with
  | none => rfl
  | some flag => rfl

theorem next_of_idle {store : Store} {write : Write} (h : store.idle write = true) :
    store.next write = store := by
  cases write with
  | publish definitions =>
    obtain ⟨error, herror⟩ := Option.isSome_iff_exists.1 h
    exact next_of_error? herror
  | upsert definition =>
    obtain ⟨error, herror⟩ := Option.isSome_iff_exists.1 h
    exact next_of_error? herror
  | remove id =>
    have hnone : store.snapshot.get? id = none := by
      rw [← remove_value]
      exact Option.isNone_iff_eq_none.1 h
    rw [next_remove, if_pos hnone]

theorem run_effective (store : Store) (writes : List Write) :
    store.run (store.effective writes) = store.run writes := by
  induction writes generalizing store with
  | nil => rfl
  | cons write rest ih =>
    have hrun : store.run (write :: rest) = (store.next write).run rest := rfl
    rw [effective, hrun, ← ih (store.next write)]
    split
    · rename_i hidle
      rw [next_of_idle hidle]
    · rfl

/-- After any run from the empty store, what is published under an id is the flag of the definition
that was last given for it, and nothing where there is no such definition. A write fails exactly if
some definition of it does, however many before that one are in order, and then the store stays as
it was. So a run leaves the same store as its writes that are not idle. -/
theorem run_replays (writes : List Write) :
    (∀ id definition, LastGiven writes id definition →
      ∃ flag, definition.prepare = .ok flag ∧
        (empty.run writes).snapshot.get? id = some flag) ∧
    (∀ id, (∀ definition, ¬ LastGiven writes id definition) →
      (empty.run writes).snapshot.get? id = none) ∧
    (∀ (store : Store) (write : Write), store.error? write = none ↔ write.Accepted) ∧
    (∀ (store : Store) (write : Write) (error : Error), store.error? write = some error →
      store.next write = store ∧
      ∃ before definition after, write.definitions = before ++ definition :: after ∧
        (∀ earlier ∈ before, ∃ flag, earlier.prepare = .ok flag) ∧
        definition.prepare = .error error) ∧
    empty.run (empty.effective writes) = empty.run writes := by
  refine ⟨?_, ?_, fun store write => error?_eq_none, ?_, run_effective empty writes⟩
  · rintro id definition ⟨write, hlast, hgives⟩
    obtain ⟨before, hget⟩ := get?_run_of_lastWith hlast empty
    rw [hget]
    exact get?_next_of_gives hgives
  · intro id hnone
    by_cases hsettled : ∃ write ∈ writes, Write.Settles write id
    · obtain ⟨write, hlast⟩ := exists_lastWith hsettled
      obtain ⟨before, hget⟩ := get?_run_of_lastWith hlast empty
      rcases hlast.prop with ⟨definition, hgives⟩ | hwithdraws
      · exact absurd ⟨write, hlast, hgives⟩ (hnone definition)
      · rw [hget]
        exact get?_next_of_withdraws hwithdraws
    · have hnever : ∀ write ∈ writes, ¬ Write.Settles write id := by
        intro write hmem hsettles
        exact hsettled ⟨write, hmem, hsettles⟩
      rw [get?_run_of_not_settles hnever]
      exact Snapshot.get?_empty id
  · intro store write error herror
    exact ⟨next_of_error? herror, error?_eq_some.1 herror⟩

end Store

end FeatureFlags
