import FeatureFlags.Proofs.Commute

/-! # How keys move with a change

A change of a single flag moves the keys of that flag and no others. The key that the flag lets go of
falls to the lowest id that has it, in whatever order the flags are gone through to find it. -/

namespace FeatureFlags

namespace Snapshot

/-- What a key falls to without an id: the lowest other id of a flag with the key, if there is one. -/
def FallsTo (snapshot : Snapshot) (key : String) (id : UInt64) : Option UInt64 → Prop
  | some next => snapshot.Next {id} key next
  | none => ∀ other, snapshot.Holds key other → other = id

/-- The flag that a change replaces or erases has the key, the key stands for it, and the change does
not take the key. -/
def LetsGo (snapshot : Snapshot) (c : Change) (key : String) : Prop :=
  (∃ previous, snapshot.get? c.id = some previous ∧ previous.key = key) ∧
    snapshot.resolve? key = some c.id ∧ c.key ≠ key

structure Moves (snapshot : Snapshot) (c : Change) (after : Snapshot) : Prop where
  own : after.get? c.id = c.flag?
  others : ∀ id, id ≠ c.id → after.get? id = snapshot.get? id
  taken : c.key ≠ "" → after.resolve? c.key = some c.id
  handedOn : ∀ key, snapshot.LetsGo c key → snapshot.FallsTo key c.id (after.resolve? key)
  kept : ∀ key, c.key ≠ key ∨ key = "" → ¬ snapshot.LetsGo c key →
    after.resolve? key = snapshot.resolve? key

theorem fallsTo_successor? (snapshot : Snapshot) (key : String) (id : UInt64) :
    snapshot.FallsTo key id (snapshot.successor? key id) := by
  cases h : snapshot.successor? key id with
  | none => exact successor?_eq_none.1 h
  | some next => exact successor?_eq_some.1 h

theorem Indexed.moves {snapshot : Snapshot} (hs : snapshot.Indexed) (c : Change) :
    snapshot.Moves c (snapshot.change c) where
  own := by rw [get?_change, if_pos rfl]
  others id hid := by rw [get?_change, if_neg (Ne.symm hid)]
  taken hkey := by rw [hs.resolve?_change, if_pos ⟨rfl, hkey⟩]
  handedOn key := by
    rintro ⟨-, hown, hfree⟩
    rw [hs.resolve?_change, if_neg fun h => hfree h.1, resolveWithout?, if_pos hown]
    exact fallsTo_successor? snapshot key c.id
  kept key hfree hstays := by
    have hnot : ¬ (c.key = key ∧ key ≠ "") := fun h => hfree.elim (absurd h.1) h.2
    rw [hs.resolve?_change, if_neg hnot, resolveWithout?, if_neg]
    intro hown
    -- A key that stands for the id is not the empty one, so the change does not take it.
    obtain ⟨hne, previous, hget, hkey⟩ := hs.sound key c.id hown
    exact hstays ⟨⟨previous, hget, hkey⟩, hown, fun htaken => hnot ⟨htaken, hne⟩⟩

/-- A way of going through all flags of a snapshot, in no particular order. -/
structure Traversal where
  flags : Snapshot → List Flag
  perm : ∀ snapshot, (flags snapshot).Perm snapshot.toList

/-- By id; any other order that goes through the same flags is a traversal as well. -/
instance : Inhabited Traversal := ⟨toList, fun snapshot => .refl snapshot.toList⟩

theorem toList_eq (snapshot : Snapshot) : snapshot.toList = snapshot.flags.toList.map (·.2) := by
  have hfoldr : snapshot.toList = snapshot.flags.foldr (fun _ flag flags => flag :: flags) [] := rfl
  rw [hfoldr, Std.TreeMap.foldr_eq_foldr_toList]
  induction snapshot.flags.toList with
  | nil => rfl
  | cons entry rest ih => rw [List.foldr_cons, ih, List.map_cons]

namespace Traversal

variable (traversal : Traversal)

def successor? (snapshot : Snapshot) (key : String) (id : UInt64) : Option UInt64 :=
  (((traversal.flags snapshot).filter fun flag => flag.id != id && flag.key == key).map (·.id)).min?

def releaseKey (snapshot : Snapshot) (key : String) (id : UInt64) : Snapshot :=
  if snapshot.resolve? key = some id then
    match traversal.successor? snapshot key id with
    | some next => { snapshot with idOfKey := snapshot.idOfKey.insert key next }
    | none => { snapshot with idOfKey := snapshot.idOfKey.erase key }
  else snapshot

def insert (snapshot : Snapshot) (flag : Flag) : Snapshot :=
  let released :=
    match snapshot.get? flag.id with
    | some previous => traversal.releaseKey snapshot previous.key flag.id
    | none => snapshot
  let taken := released.takeKey flag.key flag.id
  { taken with flags := taken.flags.insert flag.id flag }

def erase (snapshot : Snapshot) (id : UInt64) : Snapshot :=
  match snapshot.get? id with
  | some flag =>
    traversal.releaseKey { snapshot with flags := snapshot.flags.erase id } flag.key id
  | none => snapshot

def change (snapshot : Snapshot) : Change → Snapshot
  | .insert flag => traversal.insert snapshot flag
  | .erase id => traversal.erase snapshot id

section

variable {snapshot : Snapshot} (hown : ∀ id flag, snapshot.get? id = some flag → flag.id = id)
include hown

theorem mem_flags {flag : Flag} :
    flag ∈ traversal.flags snapshot ↔ snapshot.get? flag.id = some flag := by
  rw [(traversal.perm snapshot).mem_iff, toList_eq, List.mem_map]
  constructor
  · rintro ⟨⟨id, found⟩, hmem, rfl⟩
    have hget := mem_toList.1 hmem
    rwa [hown id found hget]
  · intro hget
    exact ⟨(flag.id, flag), mem_toList.2 hget, rfl⟩

theorem mem_candidates {key : String} {id other : UInt64} :
    other ∈ ((traversal.flags snapshot).filter fun flag =>
        flag.id != id && flag.key == key).map (·.id) ↔ snapshot.Holds key other ∧ other ≠ id := by
  simp only [List.mem_map, List.mem_filter, traversal.mem_flags hown, Bool.and_eq_true, bne_iff_ne,
    beq_iff_eq]
  constructor
  · rintro ⟨flag, ⟨hget, hne, hkey⟩, rfl⟩
    exact ⟨⟨flag, hget, hkey⟩, hne⟩
  · rintro ⟨⟨flag, hget, hkey⟩, hne⟩
    have hid := hown other flag hget
    subst hid
    exact ⟨flag, ⟨hget, hne, hkey⟩, rfl⟩

theorem successor?_eq (key : String) (id : UInt64) :
    traversal.successor? snapshot key id = snapshot.successor? key id := by
  refine Option.ext fun next => ?_
  rw [successor?, List.min?_eq_some_iff, successor?_eq_some, traversal.mem_candidates hown]
  simp only [traversal.mem_candidates hown, and_imp]

theorem releaseKey_eq (key : String) (id : UInt64) :
    traversal.releaseKey snapshot key id = snapshot.releaseKey key id := by
  rw [releaseKey, traversal.successor?_eq hown]
  rfl

theorem change_eq (c : Change) : traversal.change snapshot c = snapshot.change c := by
  cases c with
  | insert flag =>
    show traversal.insert snapshot flag = snapshot.insert flag
    unfold insert
    simp only [traversal.releaseKey_eq hown]
    rfl
  | erase id =>
    have hleft : ∀ other flag,
        ({ snapshot with flags := snapshot.flags.erase id } : Snapshot).get? other = some flag →
          flag.id = other := by
      intro other flag hget
      simp only [get?, Std.TreeMap.getElem?_erase] at hget
      split at hget
      · contradiction
      · exact hown other flag hget
    show traversal.erase snapshot id = snapshot.erase id
    unfold erase
    simp only [traversal.releaseKey_eq hleft]
    rfl

end

end Traversal

end Snapshot

namespace Store

/-- In every state that a run reaches, adding or erasing a flag affects what is found by its own id
and by the key that it takes or lets go of, and nothing else. In which order flags are gone through
does not matter. -/
theorem keys_move (writes : List Write) (c : Snapshot.Change) :
    let snapshot := (empty.run writes).snapshot
    snapshot.Moves c (snapshot.change c) ∧
      ∀ traversal : Snapshot.Traversal, traversal.change snapshot c = snapshot.change c := by
  intro snapshot
  have hs : snapshot.Indexed := indexed_run Snapshot.indexed_empty writes
  exact ⟨hs.moves c, fun traversal => traversal.change_eq hs.own_id c⟩

example :
    let store := empty.run [.publish [bare 3 "a", bare 1 "a", bare 2 "a"]]
    store.snapshot.resolve? "a" = some 2 ∧
      (store.next (.remove 2)).snapshot.resolve? "a" = some 1 ∧
      (store.next (.upsert (bare 2 "b"))).snapshot.resolve? "a" = some 1 := by decide +kernel

end Store

end FeatureFlags
