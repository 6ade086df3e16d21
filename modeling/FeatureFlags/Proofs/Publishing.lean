import FeatureFlags.Proofs.Replay

/-! # Publishing a list

What is published is a matter of the list alone. Of flags with one id the last is published; where
no id comes twice, a key stands for the last flag that has it. To publish a list has the same effect
as to upsert its flags one after the other into an empty store. -/

namespace FeatureFlags

namespace Snapshot

/-- None of the ids is published yet, and none comes twice. -/
structure Fresh (snapshot : Snapshot) (flags : List Flag) : Prop where
  absent : ∀ flag ∈ flags, snapshot.get? flag.id = none
  nodup : (flags.map (·.id)).Nodup

namespace Fresh

variable {snapshot : Snapshot} {flag : Flag} {flags : List Flag}

theorem head (h : snapshot.Fresh (flag :: flags)) : snapshot.get? flag.id = none :=
  h.absent flag List.mem_cons_self

theorem id_ne (h : snapshot.Fresh (flag :: flags)) {other : Flag} (hother : other ∈ flags) :
    other.id ≠ flag.id := by
  have hnot : flag.id ∉ flags.map (·.id) := (List.nodup_cons.1 h.nodup).1
  intro heq
  rw [← heq] at hnot
  exact hnot (List.mem_map_of_mem hother)

theorem insert (h : snapshot.Fresh (flag :: flags)) : (snapshot.insert flag).Fresh flags := by
  constructor
  · intro other hother
    rw [get?_insert, if_neg (Ne.symm (h.id_ne hother))]
    exact h.absent other (List.mem_cons_of_mem _ hother)
  · exact (List.nodup_cons.1 h.nodup).2

theorem foldl_insert {before : List Flag} (h : snapshot.Fresh (before ++ flags)) :
    (before.foldl Snapshot.insert snapshot).Fresh flags := by
  induction before generalizing snapshot with
  | nil => exact h
  | cons flag rest ih => exact ih h.insert

end Fresh

theorem fresh_empty {flags : List Flag} (h : (flags.map (·.id)).Nodup) : empty.Fresh flags :=
  ⟨fun flag _ => get?_empty flag.id, h⟩

namespace Indexed

variable {snapshot : Snapshot} (hs : snapshot.Indexed) {flags : List Flag} {key : String}
include hs

theorem resolve?_insert_of_get?_eq_none {flag : Flag} (hget : snapshot.get? flag.id = none) :
    (snapshot.insert flag).resolve? key =
      if flag.key = key ∧ key ≠ "" then some flag.id else snapshot.resolve? key := by
  rw [hs.resolve?_insert, hs.resolveWithout?_of_get?_eq_none hget]

theorem resolve?_foldl_insert_of_ne (hfresh : snapshot.Fresh flags)
    (hkey : ∀ flag ∈ flags, flag.key ≠ key) :
    (flags.foldl Snapshot.insert snapshot).resolve? key = snapshot.resolve? key := by
  induction flags generalizing snapshot with
  | nil => rfl
  | cons flag rest ih =>
    obtain ⟨hflag, hrest⟩ := List.forall_mem_cons.1 hkey
    rw [List.foldl_cons, ih (hs.insert flag) hfresh.insert hrest,
      hs.resolve?_insert_of_get?_eq_none hfresh.head, if_neg fun h => hflag h.1]

theorem resolve?_foldl_insert_of_lastWith (hfresh : snapshot.Fresh flags) (hkey : key ≠ "")
    {flag : Flag} (hlast : LastWith (fun flag => flag.key = key) flags flag) :
    (flags.foldl Snapshot.insert snapshot).resolve? key = some flag.id := by
  obtain ⟨before, after, rfl, hown, hafter⟩ := hlast
  -- Whoever has held the key until then, the flag takes it, and those after it leave it alone.
  have hmid := hs.foldl_insert before
  have hrest := hfresh.foldl_insert
  rw [List.foldl_append, List.foldl_cons,
    (hmid.insert flag).resolve?_foldl_insert_of_ne hrest.insert hafter,
    hmid.resolve?_insert_of_get?_eq_none hrest.head, if_pos ⟨hown, hkey⟩]

end Indexed

section

variable {flags : List Flag} (hnodup : (flags.map (·.id)).Nodup) {key : String}
include hnodup

theorem getByKey?_ofList_of_lastWith (hkey : key ≠ "") {flag : Flag}
    (hlast : LastWith (fun flag => flag.key = key) flags flag) :
    (ofList flags).getByKey? key = some flag := by
  have hresolve : (ofList flags).resolve? key = some flag.id :=
    indexed_empty.resolve?_foldl_insert_of_lastWith (fresh_empty hnodup) hkey hlast
  obtain ⟨before, after, rfl, -, -⟩ := hlast
  have hrest := (fresh_empty hnodup).foldl_insert
  have hget : (ofList (before ++ flag :: after)).get? flag.id = some flag :=
    get?_ofList_of_lastWith ⟨before, after, rfl, rfl, fun later hlater => hrest.id_ne hlater⟩
  exact Option.bind_eq_some_iff.2 ⟨flag.id, hresolve, hget⟩

theorem getByKey?_ofList_eq_none (hkey : ∀ flag ∈ flags, flag.key ≠ key) :
    (ofList flags).getByKey? key = none := by
  have hresolve : (ofList flags).resolve? key = none :=
    (indexed_empty.resolve?_foldl_insert_of_ne (fresh_empty hnodup) hkey).trans
      Std.TreeMap.getElem?_emptyc
  rw [getByKey?, hresolve]
  rfl

end

end Snapshot

namespace Store

section

variable {definitions : List FlagDefinition} {flags : List Flag}
  (hflags : List.Forall₂ (fun definition flag => definition.prepare = .ok flag) definitions flags)
include hflags

theorem map_id_of_prepare : flags.map (·.id) = definitions.map (·.id) := by
  induction hflags with
  | nil => rfl
  | cons hprepare _ ih =>
    rw [List.map_cons, List.map_cons, FlagDefinition.id_of_prepare hprepare, ih]

theorem snapshot_run_upserts (store : Store) :
    (store.run (definitions.map .upsert)).snapshot = flags.foldl Snapshot.insert store.snapshot := by
  induction hflags generalizing store with
  | nil => rfl
  | @cons definition flag _ _ hprepare _ ih =>
    have hnext : store.next (.upsert definition) = store.replace (store.snapshot.insert flag) := by
      rw [next_upsert, hprepare]
    rw [List.map_cons, run, List.foldl_cons, hnext]
    exact ih _

theorem exists_get?_ofList_of_prepare {id : UInt64} :
    (∃ flag, (Snapshot.ofList flags).get? id = some flag) ↔
      ∃ definition ∈ definitions, definition.id = id := by
  constructor
  · rintro ⟨flag, hflag⟩
    by_contra hnone
    have habsent : ∀ definition ∈ definitions, definition.id ≠ id := fun definition hmem hid =>
      hnone ⟨definition, hmem, hid⟩
    rw [Snapshot.get?_ofList_of_prepare_eq_none hflags habsent] at hflag
    contradiction
  · intro hlisted
    obtain ⟨definition, hlast⟩ := exists_lastWith hlisted
    obtain ⟨flag, -, hflag⟩ := Snapshot.get?_ofList_of_prepare hflags hlast
    exact ⟨flag, hflag⟩

variable (hnodup : (definitions.map (·.id)).Nodup) {key : String}
include hnodup

theorem getByKey?_ofList_of_prepare (hkey : key ≠ "") {definition : FlagDefinition}
    (hlast : LastWith (fun definition => definition.key = key) definitions definition) :
    ∃ flag, definition.prepare = .ok flag ∧ (Snapshot.ofList flags).getByKey? key = some flag := by
  have hkeys : ∀ (d : FlagDefinition) (flag : Flag), d.prepare = .ok flag →
      (d.key = key ↔ flag.key = key) := by
    intro d flag hprepare
    rw [FlagDefinition.key_of_prepare hprepare]
  obtain ⟨flag, hflag, hpublished⟩ := forall₂_lastWith hflags hkeys hlast
  rw [← map_id_of_prepare hflags] at hnodup
  exact ⟨flag, hflag, Snapshot.getByKey?_ofList_of_lastWith hnodup hkey hpublished⟩

theorem getByKey?_ofList_of_prepare_eq_none
    (hkey : ∀ definition ∈ definitions, definition.key ≠ key) :
    (Snapshot.ofList flags).getByKey? key = none := by
  rw [← map_id_of_prepare hflags] at hnodup
  apply Snapshot.getByKey?_ofList_eq_none hnodup
  intro flag hflag
  obtain ⟨definition, hmem, hprepare⟩ := forall₂_mem_right hflags hflag
  rw [FlagDefinition.key_of_prepare hprepare]
  exact hkey definition hmem

end

/-- To publish a list of definitions that can all be prepared succeeds, and what has been published
before does not matter: the ids are those of the list, and under each stands the last flag with it.
If no id comes twice, every key but the empty one stands for the last flag that has it, or for none.
The same flags are published when they are upserted one after the other into an empty store. -/
theorem publish_follows_list {definitions : List FlagDefinition}
    (haccepted : ∀ definition ∈ definitions, ∃ flag, definition.prepare = .ok flag)
    (store : Store) :
    ∃ published, (store.publish definitions).value = .ok published ∧
      (∀ id, (∃ flag, published.snapshot.get? id = some flag) ↔
        ∃ definition ∈ definitions, definition.id = id) ∧
      (∀ id definition, LastWith (fun definition => definition.id = id) definitions definition →
        ∃ flag, definition.prepare = .ok flag ∧ published.snapshot.get? id = some flag) ∧
      ((definitions.map (·.id)).Nodup → ∀ key, key ≠ "" →
        (∀ definition, LastWith (fun definition => definition.key = key) definitions definition →
          ∃ flag, definition.prepare = .ok flag ∧
            published.snapshot.getByKey? key = some flag) ∧
        ((∀ definition ∈ definitions, definition.key ≠ key) →
          published.snapshot.getByKey? key = none)) ∧
      (empty.run (definitions.map .upsert)).snapshot = published.snapshot := by
  have hpublish : (Write.publish definitions).Accepted := haccepted
  obtain ⟨flags, hmap⟩ := hpublish.exists_flags
  rw [Write.definitions] at hmap
  have hflags := Result.mapM_eq_ok.1 hmap
  refine ⟨store.replace (.ofList flags), ?_, ?_, ?_, ?_, snapshot_run_upserts hflags empty⟩
  · rw [publish_value, hmap]
  · intro id
    exact exists_get?_ofList_of_prepare hflags
  · intro id definition hlast
    exact Snapshot.get?_ofList_of_prepare hflags hlast
  · intro hnodup key hkey
    constructor
    · intro definition hlast
      exact getByKey?_ofList_of_prepare hflags hnodup hkey hlast
    · intro hnone
      exact getByKey?_ofList_of_prepare_eq_none hflags hnodup hnone

def catalog : List FlagDefinition := [
  ⟨3, "home", "", true, [], []⟩, ⟨2, "search", "", true, [], []⟩, ⟨1, "home", "", false, [], []⟩,
  ⟨4, "", "", true, [], []⟩]

theorem publish_follows_list_catalog :
    ∃ published, ((empty.run [.upsert ⟨9, "cart", "", true, [], []⟩]).publish catalog).value =
        .ok published ∧
      published.snapshot.getByKey? "home" = some ⟨1, "home", false, []⟩ ∧
      published.snapshot.get? 3 = some ⟨3, "home", true, []⟩ ∧
      published.snapshot.getByKey? "cart" = none ∧
      (¬ ∃ flag, published.snapshot.get? 9 = some flag) ∧
      (empty.run (catalog.map .upsert)).snapshot = published.snapshot := by
  have haccepted : ∀ definition ∈ catalog, ∃ flag, definition.prepare = .ok flag := by
    simp only [catalog, List.forall_mem_cons]
    exact ⟨⟨_, rfl⟩, ⟨_, rfl⟩, ⟨_, rfl⟩, ⟨_, rfl⟩, List.forall_mem_nil _⟩
  obtain ⟨published, hpublished, hids, hlast, hkeys, hupserts⟩ :=
    publish_follows_list haccepted (empty.run [.upsert ⟨9, "cart", "", true, [], []⟩])
  have hnodup : (catalog.map (·.id)).Nodup := by decide
  obtain ⟨home, hhome, hfound⟩ := (hkeys hnodup "home" (by decide)).1 ⟨1, "home", "", false, [], []⟩
    ⟨[⟨3, "home", "", true, [], []⟩, ⟨2, "search", "", true, [], []⟩], [⟨4, "", "", true, [], []⟩],
      rfl, rfl, by decide⟩
  obtain ⟨first, hfirst, hget⟩ := hlast 3 ⟨3, "home", "", true, [], []⟩
    ⟨[], [⟨2, "search", "", true, [], []⟩, ⟨1, "home", "", false, [], []⟩,
      ⟨4, "", "", true, [], []⟩], rfl, rfl, by decide⟩
  have hcart := (hkeys hnodup "cart" (by decide)).2 (by decide)
  have hgone : ¬ ∃ flag, published.snapshot.get? 9 = some flag := fun h =>
    absurd ((hids 9).1 h) (by decide)
  cases hhome
  cases hfirst
  exact ⟨published, hpublished, hfound, hget, hcart, hgone, hupserts⟩

end Store

end FeatureFlags
