import FeatureFlags.Store
import FeatureFlags.Proofs.Order

/-! # The key index

A key that stands for an id stands for a published flag with that key, and every key of a published
flag stands for some id. Adding and erasing a flag keep it so, whatever keys the flags share. -/

namespace FeatureFlags

namespace Snapshot

def Holds (snapshot : Snapshot) (key : String) (id : UInt64) : Prop :=
  ∃ flag, snapshot.get? id = some flag ∧ flag.key = key

/-- The two maps of a snapshot fit together. -/
structure Indexed (snapshot : Snapshot) : Prop where
  own_id : ∀ id flag, snapshot.get? id = some flag → flag.id = id
  sound : ∀ key id, snapshot.resolve? key = some id → key ≠ "" ∧ snapshot.Holds key id
  complete : ∀ key id, key ≠ "" → snapshot.Holds key id → ∃ other, snapshot.resolve? key = some other

section

variable {snapshot : Snapshot}

theorem mem_toList {id : UInt64} {flag : Flag} :
    (id, flag) ∈ snapshot.flags.toList ↔ snapshot.get? id = some flag :=
  Std.TreeMap.mem_toList_iff_getElem?_eq_some

theorem pairwise_toList : snapshot.flags.toList.Pairwise fun a b => a.1 < b.1 :=
  Std.TreeMap.ordered_keys_toList.imp Std.compare_eq_lt.1

theorem successor?_eq_none {key : String} {id : UInt64} :
    snapshot.successor? key id = none ↔ ∀ other, snapshot.Holds key other → other = id := by
  simp only [successor?, Option.map_eq_none_iff, List.find?_eq_none]
  constructor
  · rintro h other ⟨flag, hget, hkey⟩
    have hnot := h (other, flag) (mem_toList.2 hget)
    simpa [hkey] using hnot
  · rintro h ⟨other, flag⟩ hmem
    have hother := fun hkey => h other ⟨flag, mem_toList.1 hmem, hkey⟩
    simpa [imp_not_comm] using hother

theorem successor?_eq_some {key : String} {id next : UInt64} :
    snapshot.successor? key id = some next ↔
      (snapshot.Holds key next ∧ next ≠ id) ∧
        ∀ other, snapshot.Holds key other → other ≠ id → next ≤ other := by
  have hfound : ∀ {next}, snapshot.successor? key id = some next →
      (snapshot.Holds key next ∧ next ≠ id) ∧
        ∀ other, snapshot.Holds key other → other ≠ id → next ≤ other := by
    intro next h
    obtain ⟨⟨next, flag⟩, hfind, rfl⟩ := Option.map_eq_some_iff.1 h
    have hp := List.find?_some hfind
    simp only [Bool.and_eq_true, bne_iff_ne, beq_iff_eq] at hp
    refine ⟨⟨⟨flag, mem_toList.1 (List.mem_of_find?_eq_some hfind), hp.2⟩, hp.1⟩, ?_⟩
    rintro other ⟨rival, hget, hkey⟩ hne
    have hrival : (other != id && rival.key == key) = true := by simp [hne, hkey]
    rcases eq_or_rel_of_find? pairwise_toList hfind (mem_toList.2 hget) hrival with heq | hlt
    · exact UInt64.le_of_eq (congrArg Prod.fst heq).symm
    · exact UInt64.le_of_lt hlt
  constructor
  · exact hfound
  · rintro ⟨⟨hholds, hne⟩, hleast⟩
    cases hs : snapshot.successor? key id with
    | none => exact absurd (successor?_eq_none.1 hs next hholds) hne
    | some found =>
      obtain ⟨⟨hfholds, hfne⟩, hfleast⟩ := hfound hs
      rw [UInt64.le_antisymm (hfleast next hholds hne) (hleast found hfholds hfne)]

theorem successor?_congr {other : Snapshot} {key : String} {id : UInt64}
    (h : ∀ i, i ≠ id → snapshot.get? i = other.get? i) :
    snapshot.successor? key id = other.successor? key id := by
  have hholds : ∀ i, i ≠ id → (snapshot.Holds key i ↔ other.Holds key i) := by
    intro i hi
    simp only [Holds, h i hi]
  refine Option.ext fun next => ?_
  simp only [successor?_eq_some]
  constructor
  · rintro ⟨⟨hnext, hne⟩, hleast⟩
    exact ⟨⟨(hholds next hne).1 hnext, hne⟩, fun i hi hine => hleast i ((hholds i hine).2 hi) hine⟩
  · rintro ⟨⟨hnext, hne⟩, hleast⟩
    exact ⟨⟨(hholds next hne).2 hnext, hne⟩, fun i hi hine => hleast i ((hholds i hine).1 hi) hine⟩

end

theorem resolve?_releaseKey (snapshot : Snapshot) (released key : String) (id : UInt64) :
    (snapshot.releaseKey released id).resolve? key =
      if released = key ∧ snapshot.resolve? key = some id then snapshot.successor? key id
      else snapshot.resolve? key := by
  unfold releaseKey
  by_cases hkey : released = key
  · subst hkey
    by_cases hid : snapshot.resolve? released = some id
    · rw [if_pos hid, if_pos ⟨rfl, hid⟩]
      cases snapshot.successor? released id with
      | none => exact Std.TreeMap.getElem?_erase_self
      | some next => exact Std.TreeMap.getElem?_insert_self
    · simp [hid]
  · split
    · split <;> simp [resolve?, Std.TreeMap.getElem?_insert, Std.TreeMap.getElem?_erase, hkey]
    · simp [hkey]

theorem resolve?_takeKey (snapshot : Snapshot) (taken key : String) (id : UInt64) :
    (snapshot.takeKey taken id).resolve? key =
      if taken = key ∧ key ≠ "" then some id else snapshot.resolve? key := by
  unfold takeKey
  by_cases hkey : taken = key
  · subst hkey
    by_cases hempty : taken = ""
    · simp [hempty]
    · simp [hempty, resolve?]
  · split
    · simp [hkey]
    · simp [resolve?, Std.TreeMap.getElem?_insert, hkey]

/-- What a key stands for once the id is out of the way. -/
def resolveWithout? (snapshot : Snapshot) (key : String) (id : UInt64) : Option UInt64 :=
  if snapshot.resolve? key = some id then snapshot.successor? key id else snapshot.resolve? key

namespace Indexed

variable {snapshot : Snapshot} (hs : snapshot.Indexed)
include hs

theorem key_of_resolve? {key : String} {id : UInt64} {flag : Flag}
    (hkey : snapshot.resolve? key = some id) (hget : snapshot.get? id = some flag) :
    flag.key = key := by
  obtain ⟨-, other, hother, rfl⟩ := hs.sound key id hkey
  rw [hget] at hother
  cases hother
  rfl

theorem resolve?_releaseKey_own {id : UInt64} {flag : Flag} (hget : snapshot.get? id = some flag)
    (key : String) :
    (snapshot.releaseKey flag.key id).resolve? key = snapshot.resolveWithout? key id := by
  rw [resolve?_releaseKey, resolveWithout?]
  by_cases hkey : snapshot.resolve? key = some id
  · simp [hkey, hs.key_of_resolve? hkey hget]
  · simp [hkey]

theorem resolveWithout?_of_get?_eq_none {id : UInt64} (hget : snapshot.get? id = none)
    (key : String) : snapshot.resolveWithout? key id = snapshot.resolve? key := by
  have hkey : snapshot.resolve? key ≠ some id := by
    intro hkey
    obtain ⟨-, flag, hflag, -⟩ := hs.sound key id hkey
    rw [hget] at hflag
    contradiction
  rw [resolveWithout?, if_neg hkey]

/-- An added flag takes its key; all other keys go on without it. -/
theorem resolve?_insert (flag : Flag) (key : String) :
    (snapshot.insert flag).resolve? key =
      if flag.key = key ∧ key ≠ "" then some flag.id
      else snapshot.resolveWithout? key flag.id := by
  change (Snapshot.takeKey _ flag.key flag.id).resolve? key = _
  rw [resolve?_takeKey]
  congr 1
  cases hget : snapshot.get? flag.id with
  | none => exact (hs.resolveWithout?_of_get?_eq_none hget key).symm
  | some previous => exact hs.resolve?_releaseKey_own hget key

theorem resolve?_erase (id : UInt64) (key : String) :
    (snapshot.erase id).resolve? key = snapshot.resolveWithout? key id := by
  unfold erase
  cases hget : snapshot.get? id with
  | none => exact (hs.resolveWithout?_of_get?_eq_none hget key).symm
  | some flag =>
    -- The successor is looked for after the flag has been erased, which makes no difference.
    have hsame : ∀ i, i ≠ id →
        ({ snapshot with flags := snapshot.flags.erase id } : Snapshot).get? i =
          snapshot.get? i := by
      intro i hi
      simp [get?, Std.TreeMap.getElem?_erase, Ne.symm hi]
    rw [← hs.resolve?_releaseKey_own hget, resolve?_releaseKey, resolve?_releaseKey,
      successor?_congr hsame]
    rfl

theorem holds_of_resolveWithout? {key : String} {id other : UInt64}
    (h : snapshot.resolveWithout? key id = some other) :
    key ≠ "" ∧ other ≠ id ∧ snapshot.Holds key other := by
  unfold resolveWithout? at h
  split at h
  · rename_i hkey
    obtain ⟨⟨hholds, hne⟩, -⟩ := successor?_eq_some.1 h
    exact ⟨(hs.sound key id hkey).1, hne, hholds⟩
  · rename_i hkey
    have hne : other ≠ id := fun heq => hkey (heq ▸ h)
    exact ⟨(hs.sound key other h).1, hne, (hs.sound key other h).2⟩

theorem exists_resolveWithout? {key : String} {id other : UInt64} (hkey : key ≠ "")
    (hholds : snapshot.Holds key other) (hne : other ≠ id) :
    ∃ next, snapshot.resolveWithout? key id = some next := by
  unfold resolveWithout?
  split
  · cases hnext : snapshot.successor? key id with
    | none => exact absurd (successor?_eq_none.1 hnext other hholds) hne
    | some next => exact ⟨next, rfl⟩
  · exact hs.complete key other hkey hholds

end Indexed

theorem holds_insert {snapshot : Snapshot} {flag : Flag} {key : String} {id : UInt64} :
    (snapshot.insert flag).Holds key id ↔
      flag.id = id ∧ flag.key = key ∨ id ≠ flag.id ∧ snapshot.Holds key id := by
  by_cases hid : flag.id = id
  · simp [Holds, get?_insert, hid]
  · simp [Holds, get?_insert, hid, Ne.symm hid]

theorem holds_erase {snapshot : Snapshot} {erased id : UInt64} {key : String} :
    (snapshot.erase erased).Holds key id ↔ id ≠ erased ∧ snapshot.Holds key id := by
  by_cases hid : erased = id
  · simp [Holds, get?_erase, hid]
  · simp [Holds, get?_erase, hid, Ne.symm hid]

theorem indexed_empty : empty.Indexed where
  own_id id flag h := by simp at h
  sound key id h := by simp [resolve?, empty] at h
  complete key id _ h := by
    obtain ⟨flag, hget, -⟩ := h
    simp at hget

theorem Indexed.insert {snapshot : Snapshot} (hs : snapshot.Indexed) (flag : Flag) :
    (snapshot.insert flag).Indexed where
  own_id id other h := by
    rw [get?_insert] at h
    split at h
    · cases h
      assumption
    · exact hs.own_id id other h
  sound key id h := by
    rw [hs.resolve?_insert] at h
    rw [holds_insert]
    split at h
    · rename_i htaken
      exact ⟨htaken.2, Or.inl ⟨Option.some.inj h, htaken.1⟩⟩
    · obtain ⟨hkey, hne, hholds⟩ := hs.holds_of_resolveWithout? h
      exact ⟨hkey, Or.inr ⟨hne, hholds⟩⟩
  complete key id hkey h := by
    rw [hs.resolve?_insert]
    by_cases htaken : flag.key = key
    · exact ⟨flag.id, if_pos ⟨htaken, hkey⟩⟩
    · rw [if_neg fun h => htaken h.1]
      rcases holds_insert.1 h with ⟨-, heq⟩ | ⟨hne, hholds⟩
      · exact absurd heq htaken
      · exact hs.exists_resolveWithout? hkey hholds hne

theorem Indexed.erase {snapshot : Snapshot} (hs : snapshot.Indexed) (erased : UInt64) :
    (snapshot.erase erased).Indexed where
  own_id id flag h := by
    rw [get?_erase] at h
    split at h
    · contradiction
    · exact hs.own_id id flag h
  sound key id h := by
    rw [hs.resolve?_erase] at h
    obtain ⟨hkey, hne, hholds⟩ := hs.holds_of_resolveWithout? h
    exact ⟨hkey, holds_erase.2 ⟨hne, hholds⟩⟩
  complete key id hkey h := by
    rw [hs.resolve?_erase]
    obtain ⟨hne, hholds⟩ := holds_erase.1 h
    exact hs.exists_resolveWithout? hkey hholds hne

theorem Indexed.foldl_insert {snapshot : Snapshot} (hs : snapshot.Indexed) (flags : List Flag) :
    (flags.foldl Snapshot.insert snapshot).Indexed := by
  induction flags generalizing snapshot with
  | nil => exact hs
  | cons flag rest ih => exact ih (hs.insert flag)

theorem indexed_ofList (flags : List Flag) : (ofList flags).Indexed :=
  indexed_empty.foldl_insert flags

namespace Indexed

variable {snapshot : Snapshot} (hs : snapshot.Indexed)
include hs

theorem getByKey?_sound {key : String} {flag : Flag} (h : snapshot.getByKey? key = some flag) :
    key ≠ "" ∧ flag.key = key ∧ snapshot.get? flag.id = some flag := by
  obtain ⟨id, hid, hget⟩ := Option.bind_eq_some_iff.1 h
  have hown := hs.own_id id flag hget
  rw [← hown] at hget hid
  exact ⟨(hs.sound key flag.id hid).1, hs.key_of_resolve? hid hget, hget⟩

theorem getByKey?_complete {key : String} {id : UInt64} (hkey : key ≠ "")
    (h : snapshot.Holds key id) : ∃ flag, snapshot.getByKey? key = some flag := by
  obtain ⟨other, hother⟩ := hs.complete key id hkey h
  obtain ⟨-, flag, hget, -⟩ := hs.sound key other hother
  exact ⟨flag, Option.bind_eq_some_iff.2 ⟨other, hother, hget⟩⟩

end Indexed

end Snapshot

end FeatureFlags
