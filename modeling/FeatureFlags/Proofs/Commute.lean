import Mathlib.Data.Set.Insert
import FeatureFlags.Proofs.Preparation
import FeatureFlags.Proofs.Writes

/-! # Writes in either order

Writes that concern different ids, and do not take the same key, have the same effect in either
order. What makes them commute is that a key whose flag goes away is handed to the lowest id that is
left: with two flags out of the way it does not matter which of them went first. -/

namespace FeatureFlags

namespace Snapshot

/-- The same flag under every id, and the same id behind every key. -/
structure Same (snapshot other : Snapshot) : Prop where
  get? : ∀ id, snapshot.get? id = other.get? id
  resolve? : ∀ key, snapshot.resolve? key = other.resolve? key

theorem Same.refl (snapshot : Snapshot) : snapshot.Same snapshot := ⟨fun _ => rfl, fun _ => rfl⟩

inductive Change where
  | insert (flag : Flag)
  | erase (id : UInt64)

namespace Change

def id : Change → UInt64
  | .insert flag => flag.id
  | .erase id => id

def flag? : Change → Option Flag
  | .insert flag => some flag
  | .erase _ => none

def key : Change → String
  | .insert flag => flag.key
  | .erase _ => ""

end Change

def change (snapshot : Snapshot) : Change → Snapshot
  | .insert flag => snapshot.insert flag
  | .erase id => snapshot.erase id

theorem get?_change (snapshot : Snapshot) (c : Change) (id : UInt64) :
    (snapshot.change c).get? id = if c.id = id then c.flag? else snapshot.get? id := by
  cases c with
  | insert flag => exact get?_insert snapshot flag id
  | erase erased => exact get?_erase snapshot erased id

theorem holds_change {snapshot : Snapshot} {c : Change} {key : String} (hfree : c.key ≠ key)
    {id : UInt64} :
    (snapshot.change c).Holds key id ↔ snapshot.Holds key id ∧ id ≠ c.id := by
  cases c with
  | insert flag =>
    rw [change, holds_insert]
    constructor
    · rintro (⟨-, htaken⟩ | ⟨hne, hholds⟩)
      · exact absurd htaken hfree
      · exact ⟨hholds, hne⟩
    · rintro ⟨hholds, hne⟩
      exact Or.inr ⟨hne, hholds⟩
  | erase erased => rw [change, holds_erase, and_comm]; rfl

/-- The lowest id of a flag with the key, of those that are not away. -/
def Next (snapshot : Snapshot) (away : Set UInt64) (key : String) (id : UInt64) : Prop :=
  (snapshot.Holds key id ∧ id ∉ away) ∧
    ∀ other, snapshot.Holds key other → other ∉ away → id ≤ other

/-- What a key stands for without the ids that are away: the id it has stood for, unless that is
away itself, and then the next one. -/
def ResolvesPast (snapshot : Snapshot) (away : Set UInt64) (key : String) (id : UInt64) : Prop :=
  snapshot.resolve? key = some id ∧ id ∉ away ∨
    ∃ gone ∈ away, snapshot.resolve? key = some gone ∧ snapshot.Next away key id

section

variable {snapshot : Snapshot} {away : Set UInt64} {key : String} {id : UInt64}

theorem resolvesPast_empty :
    snapshot.ResolvesPast ∅ key id ↔ snapshot.resolve? key = some id := by
  simp [ResolvesPast]

theorem not_resolvesPast_of_none (h : snapshot.resolve? key = none) :
    ¬ snapshot.ResolvesPast away key id := by
  simp [ResolvesPast, h]

theorem resolvesPast_of_mem {gone : UInt64} (h : snapshot.resolve? key = some gone)
    (hgone : gone ∈ away) :
    snapshot.ResolvesPast away key id ↔ snapshot.Next away key id := by
  constructor
  · rintro (⟨hid, hnot⟩ | ⟨-, -, -, hnext⟩)
    · cases Option.some.inj (h.symm.trans hid)
      exact absurd hgone hnot
    · exact hnext
  · intro hnext
    exact Or.inr ⟨gone, hgone, h, hnext⟩

theorem resolvesPast_of_notMem {here : UInt64} (h : snapshot.resolve? key = some here)
    (hhere : here ∉ away) : snapshot.ResolvesPast away key id ↔ here = id := by
  constructor
  · rintro (⟨hid, -⟩ | ⟨gone, hgone, hres, -⟩)
    · exact Option.some.inj (h.symm.trans hid)
    · cases Option.some.inj (h.symm.trans hres)
      exact absurd hgone hhere
  · rintro rfl
    exact Or.inl ⟨h, hhere⟩

theorem Next.unique {other : UInt64} (h : snapshot.Next away key id)
    (k : snapshot.Next away key other) : id = other :=
  UInt64.le_antisymm (h.2 other k.1.1 k.1.2) (k.2 id h.1.1 h.1.2)

theorem next_of_successor? {gone : UInt64} (h : snapshot.successor? key gone = some id)
    (hid : id ∉ away) : snapshot.Next (away ∪ {gone}) key id := by
  obtain ⟨⟨hholds, hne⟩, hleast⟩ := successor?_eq_some.1 h
  refine ⟨⟨hholds, fun hmem => hmem.elim hid hne⟩, ?_⟩
  intro other hother hnot
  exact hleast other hother fun heq => hnot (Or.inr heq)

end

theorem next_change {snapshot : Snapshot} {c : Change} {away : Set UInt64} {key : String}
    (hfree : c.key ≠ key) {id : UInt64} :
    (snapshot.change c).Next away key id ↔ snapshot.Next (away ∪ {c.id}) key id := by
  have hout : ∀ other, ((snapshot.change c).Holds key other ∧ other ∉ away) ↔
      snapshot.Holds key other ∧ other ∉ away ∪ {c.id} := by
    intro other
    rw [holds_change hfree, Set.mem_union, Set.mem_singleton_iff, not_or, and_assoc,
      and_comm (a := other ≠ c.id)]
  simp only [Next, ← and_imp, hout]

namespace Indexed

variable {snapshot : Snapshot} (hs : snapshot.Indexed)
include hs

theorem change (c : Change) : (snapshot.change c).Indexed := by
  cases c with
  | insert flag => exact hs.insert flag
  | erase id => exact hs.erase id

theorem resolve?_change (c : Change) (key : String) :
    (snapshot.change c).resolve? key =
      if c.key = key ∧ key ≠ "" then some c.id else snapshot.resolveWithout? key c.id := by
  cases c with
  | insert flag => exact hs.resolve?_insert flag key
  | erase id =>
    have hfree : ¬ ((Change.erase id).key = key ∧ key ≠ "") := fun h => h.2 h.1.symm
    rw [if_neg hfree]
    exact hs.resolve?_erase id key

theorem resolve?_empty : snapshot.resolve? "" = none := by
  cases h : snapshot.resolve? "" with
  | none => rfl
  | some id => exact absurd rfl (hs.sound "" id h).1

/-- With a further id out of the way, a key stands for what it stands for after a change under that
id which does not take it. -/
theorem resolvesPast_change {c : Change} {away : Set UInt64} {key : String} (hfree : c.key ≠ key)
    {id : UInt64} :
    (snapshot.change c).ResolvesPast away key id ↔
      snapshot.ResolvesPast (away ∪ {c.id}) key id := by
  have hresolve : (snapshot.change c).resolve? key = snapshot.resolveWithout? key c.id := by
    rw [hs.resolve?_change, if_neg fun h => hfree h.1]
  rw [resolveWithout?] at hresolve
  cases hown : snapshot.resolve? key with
  | none =>
    rw [hown, if_neg (by simp)] at hresolve
    exact iff_of_false (not_resolvesPast_of_none hresolve) (not_resolvesPast_of_none hown)
  | some here =>
    by_cases hgone : here = c.id
    · subst hgone
      rw [if_pos hown] at hresolve
      rw [resolvesPast_of_mem hown (Or.inr rfl)]
      cases hfirst : snapshot.successor? key c.id with
      | none =>
        have hnone : ¬ snapshot.Next (away ∪ {c.id}) key id := by
          intro hnext
          exact hnext.1.2 (Or.inr (successor?_eq_none.1 hfirst id hnext.1.1))
        exact iff_of_false (not_resolvesPast_of_none (hresolve.trans hfirst)) hnone
      | some first =>
        -- The change hands the key to the first id that is left, which may be away as well.
        by_cases haway : first ∈ away
        · rw [resolvesPast_of_mem (hresolve.trans hfirst) haway, next_change hfree]
        · have hnext := next_of_successor? hfirst haway
          rw [resolvesPast_of_notMem (hresolve.trans hfirst) haway]
          constructor
          · rintro rfl
            exact hnext
          · exact hnext.unique
    · have hkeeps : (snapshot.change c).resolve? key = some here := by
        rw [hresolve, hown, if_neg fun h => hgone (Option.some.inj h)]
      by_cases haway : here ∈ away
      · rw [resolvesPast_of_mem hkeeps haway, resolvesPast_of_mem hown (Or.inl haway),
          next_change hfree]
      · have hnot : here ∉ away ∪ {c.id} := fun hmem => hmem.elim haway hgone
        rw [resolvesPast_of_notMem hkeeps haway, resolvesPast_of_notMem hown hnot]

theorem resolve?_change_change_taken {c d : Change} {key : String} (hkey : key ≠ "")
    (htaken : c.key = key) (hfree : d.key ≠ key) (hne : c.id ≠ d.id) :
    ((snapshot.change c).change d).resolve? key = ((snapshot.change d).change c).resolve? key := by
  have hfirst : (snapshot.change c).resolve? key = some c.id := by
    rw [hs.resolve?_change, if_pos ⟨htaken, hkey⟩]
  have hother : some c.id ≠ some d.id := fun h => hne (Option.some.inj h)
  rw [(hs.change c).resolve?_change, if_neg fun h => hfree h.1, resolveWithout?, hfirst,
    if_neg hother, (hs.change d).resolve?_change, if_pos ⟨htaken, hkey⟩]

theorem change_comm {c d : Change} (hne : c.id ≠ d.id)
    (hkeys : c.key ≠ d.key ∨ c.key = "" ∧ d.key = "") :
    ((snapshot.change c).change d).Same ((snapshot.change d).change c) where
  get? id := by
    simp only [get?_change]
    by_cases hc : c.id = id
    · have hd : d.id ≠ id := fun heq => hne (hc.trans heq.symm)
      simp [hc, hd]
    · simp [hc]
  resolve? key := by
    by_cases hempty : key = ""
    · subst hempty
      rw [((hs.change c).change d).resolve?_empty, ((hs.change d).change c).resolve?_empty]
    · by_cases hc : c.key = key
      · have hd : d.key ≠ key := by
          rintro rfl
          rcases hkeys with hdiff | ⟨-, hnone⟩
          · exact hdiff hc
          · exact hempty hnone
        exact hs.resolve?_change_change_taken hempty hc hd hne
      · by_cases hd : d.key = key
        · exact (hs.resolve?_change_change_taken hempty hd hc (Ne.symm hne)).symm
        · refine Option.ext fun id => ?_
          calc ((snapshot.change c).change d).resolve? key = some id
              ↔ ((snapshot.change c).change d).ResolvesPast ∅ key id := resolvesPast_empty.symm
            _ ↔ (snapshot.change c).ResolvesPast (∅ ∪ {d.id}) key id :=
              (hs.change c).resolvesPast_change hd
            _ ↔ snapshot.ResolvesPast (∅ ∪ {d.id} ∪ {c.id}) key id :=
              hs.resolvesPast_change hc
            _ ↔ snapshot.ResolvesPast (∅ ∪ {c.id} ∪ {d.id}) key id := by
              rw [Set.union_right_comm]
            _ ↔ (snapshot.change d).ResolvesPast (∅ ∪ {c.id}) key id :=
              (hs.resolvesPast_change hd).symm
            _ ↔ ((snapshot.change d).change c).ResolvesPast ∅ key id :=
              ((hs.change d).resolvesPast_change hc).symm
            _ ↔ ((snapshot.change d).change c).resolve? key = some id := resolvesPast_empty

theorem change_idem (c : Change) :
    ((snapshot.change c).change c).Same (snapshot.change c) where
  get? id := by
    simp only [get?_change]
    by_cases hc : c.id = id <;> simp [hc]
  resolve? key := by
    rw [(hs.change c).resolve?_change, hs.resolve?_change]
    by_cases htaken : c.key = key ∧ key ≠ ""
    · rw [if_pos htaken, if_pos htaken]
    · -- The key already goes without the id, so the second change finds nothing to release.
      have hgone : snapshot.resolveWithout? key c.id ≠ some c.id := by
        intro h
        exact (hs.holds_of_resolveWithout? h).2.1 rfl
      rw [if_neg htaken, if_neg htaken, resolveWithout?, hs.resolve?_change, if_neg htaken,
        if_neg hgone]

end Indexed

end Snapshot

namespace Store

namespace Write

def change? : Write → Option Snapshot.Change
  | .publish _ => none
  | .upsert definition =>
    match definition.prepare with
    | .ok flag => some (.insert flag)
    | .error _ => none
  | .remove id => some (.erase id)

/-- Two writes of single flags that concern different ids and do not take the same key. -/
def Independent : Write → Write → Prop
  | .upsert first, .upsert second =>
    first.id ≠ second.id ∧ (first.key ≠ second.key ∨ first.key = "" ∧ second.key = "")
  | .upsert first, .remove second => first.id ≠ second
  | .remove first, .upsert second => first ≠ second.id
  | .remove first, .remove second => first ≠ second
  | .publish _, _ => False
  | _, .publish _ => False

theorem change?_upsert {definition : FlagDefinition} {c : Snapshot.Change}
    (h : (upsert definition).change? = some c) :
    c.id = definition.id ∧ c.key = definition.key := by
  unfold change? at h
  cases hprepare : definition.prepare with
  | error error => simp [hprepare] at h
  | ok flag =>
    simp only [hprepare, Option.some.injEq] at h
    subst h
    exact ⟨FlagDefinition.id_of_prepare hprepare, FlagDefinition.key_of_prepare hprepare⟩

theorem change?_remove {id : UInt64} {c : Snapshot.Change} (h : (remove id).change? = some c) :
    c.id = id ∧ c.key = "" := by
  cases h
  exact ⟨rfl, rfl⟩

namespace Independent

variable {first second : Write} (h : first.Independent second)
include h

theorem ne_publish :
    (∀ definitions, first ≠ .publish definitions) ∧
      ∀ definitions, second ≠ .publish definitions := by
  constructor
  · rintro definitions rfl
    exact h
  · rintro definitions rfl
    cases first <;> exact h

theorem changes {c d : Snapshot.Change} (hc : first.change? = some c)
    (hd : second.change? = some d) :
    c.id ≠ d.id ∧ (c.key ≠ d.key ∨ c.key = "" ∧ d.key = "") := by
  cases first with
  | publish definitions => exact h.elim
  | upsert definition =>
    obtain ⟨hcid, hckey⟩ := change?_upsert hc
    cases second with
    | publish definitions => exact h.elim
    | upsert other =>
      obtain ⟨hdid, hdkey⟩ := change?_upsert hd
      rw [hcid, hckey, hdid, hdkey]
      exact h
    | remove id =>
      obtain ⟨hdid, hdkey⟩ := change?_remove hd
      rw [hcid, hdid, hdkey]
      exact ⟨h, (em (c.key = "")).symm.imp_right fun hempty => ⟨hempty, rfl⟩⟩
  | remove id =>
    obtain ⟨hcid, hckey⟩ := change?_remove hc
    cases second with
    | publish definitions => exact h.elim
    | upsert other =>
      obtain ⟨hdid, hdkey⟩ := change?_upsert hd
      rw [hcid, hckey, hdid]
      exact ⟨h, (em ("" = d.key)).symm.imp_right fun hempty => ⟨rfl, hempty.symm⟩⟩
    | remove other =>
      obtain ⟨hdid, hdkey⟩ := change?_remove hd
      rw [hcid, hckey, hdid, hdkey]
      exact ⟨h, Or.inr ⟨rfl, rfl⟩⟩

end Independent

end Write

theorem snapshot_next {write : Write} (h : ∀ definitions, write ≠ .publish definitions)
    (store : Store) :
    (store.next write).snapshot =
      write.change?.elim store.snapshot store.snapshot.change := by
  cases write with
  | publish definitions => exact absurd rfl (h definitions)
  | upsert definition =>
    rw [next_upsert, Write.change?]
    cases definition.prepare with
    | ok flag => rfl
    | error error => rfl
  | remove id =>
    rw [next_remove]
    split
    · rename_i hnone
      change store.snapshot = store.snapshot.erase id
      rw [Snapshot.erase, hnone]
    · rfl

/-- In every state that a run reaches, independent writes have the same effect in either order, and
a write that is repeated has no further effect. -/
theorem writes_commute (writes : List Write) :
    let store := empty.run writes
    (∀ first second : Write, first.Independent second →
      ((store.next first).next second).snapshot.Same ((store.next second).next first).snapshot) ∧
    (∀ write : Write,
      ((store.next write).next write).snapshot.Same (store.next write).snapshot) := by
  intro store
  have hs : store.snapshot.Indexed := indexed_run Snapshot.indexed_empty writes
  constructor
  · intro first second h
    obtain ⟨hfirst, hsecond⟩ := h.ne_publish
    rw [snapshot_next hsecond, snapshot_next hfirst, snapshot_next hfirst, snapshot_next hsecond]
    cases hc : first.change? with
    | none => exact .refl _
    | some c =>
      cases hd : second.change? with
      | none => exact .refl _
      | some d =>
        obtain ⟨hne, hkeys⟩ := h.changes hc hd
        exact hs.change_comm hne hkeys
  · intro write
    by_cases hpublish : ∃ definitions, write = .publish definitions
    · obtain ⟨definitions, rfl⟩ := hpublish
      rw [next_publish, next_publish]
      cases definitions.mapM FlagDefinition.prepare with
      | ok flags => exact .refl _
      | error error => exact .refl _
    · have hsingle : ∀ definitions, write ≠ .publish definitions := not_exists.1 hpublish
      rw [snapshot_next hsingle, snapshot_next hsingle]
      cases write.change? with
      | none => exact .refl _
      | some c => exact hs.change_idem c

def bare (id : UInt64) (key : String) : FlagDefinition where
  id := id
  key := key
  description := ""
  enabled := true
  segments := []
  variants := []

theorem writes_commute_swap :
    let store := empty.run [.publish [bare 1 "a", bare 2 "b"]]
    let oneFirst := (store.next (.upsert (bare 1 "b"))).next (.upsert (bare 2 "a"))
    let twoFirst := (store.next (.upsert (bare 2 "a"))).next (.upsert (bare 1 "b"))
    oneFirst.snapshot.Same twoFirst.snapshot ∧
      oneFirst.snapshot.resolve? "a" = some 2 ∧ oneFirst.snapshot.resolve? "b" = some 1 := by
  refine ⟨(writes_commute _).1 _ _ ⟨by decide, Or.inl (by decide)⟩, ?_, ?_⟩
  · decide +kernel
  · decide +kernel

end Store

end FeatureFlags
