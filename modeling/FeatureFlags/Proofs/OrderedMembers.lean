import FeatureFlags.Json

/-! # Members in key order

Whatever members are written, what is built of them is in key order. Members that are in key order
already are left as they are, and of several with one key the last written is found. -/

namespace FeatureFlags.Members

variable {α : Type} {members : Members α}

def Ordered (members : Members α) : Prop := members.Pairwise fun a b => a.1 < b.1

theorem mem_insert {key : String} {value : α} {m : String × α} (h : m ∈ insert key value members) :
    m = (key, value) ∨ m ∈ members := by
  induction members with
  | nil => exact Or.inl (List.mem_singleton.1 h)
  | cons head rest ih =>
    rw [insert] at h
    split at h
    · exact List.mem_cons.1 h
    · split at h
      · rcases List.mem_cons.1 h with rfl | h
        · exact Or.inl rfl
        · exact Or.inr (List.mem_cons_of_mem _ h)
      · rcases List.mem_cons.1 h with rfl | h
        · exact Or.inr List.mem_cons_self
        · exact (ih h).imp_right (List.mem_cons_of_mem _)

/-- Under a key that is not there yet, insertion adds one member. -/
theorem insert_perm {key : String} {value : α} (h : members.find? key = none) :
    (insert key value members).Perm ((key, value) :: members) := by
  induction members with
  | nil => exact .refl _
  | cons head rest ih =>
    rw [find?] at h
    split at h
    · contradiction
    · rename_i hne
      rw [insert, if_neg (Ne.symm hne)]
      split
      · exact .refl _
      · exact ((ih h).cons head).trans (.swap _ _ rest)

theorem Ordered.insert (h : Ordered members) (key : String) (value : α) :
    Ordered (insert key value members) := by
  induction members with
  | nil => exact List.pairwise_singleton _ _
  | cons head rest ih =>
    obtain ⟨hhead, hrest⟩ := List.pairwise_cons.1 h
    rw [Members.insert]
    split
    · rename_i hlt
      refine List.pairwise_cons.2 ⟨?_, h⟩
      intro m hm
      rcases List.mem_cons.1 hm with rfl | hm
      · exact hlt
      · exact String.lt_trans hlt (hhead m hm)
    · rename_i hnot
      split
      · rename_i heq
        subst heq
        exact List.pairwise_cons.2 ⟨hhead, hrest⟩
      · rename_i hne
        have hlt : head.1 < key := Std.lt_of_le_of_ne (String.not_lt.1 hnot) (Ne.symm hne)
        refine List.pairwise_cons.2 ⟨?_, ih hrest⟩
        intro m hm
        rcases mem_insert hm with rfl | hm
        · exact hlt
        · exact hhead m hm

theorem Ordered.foldl_insert (h : Ordered members) (written : List (String × α)) :
    Ordered (written.foldl (fun members (key, value) => Members.insert key value members)
      members) := by
  induction written generalizing members with
  | nil => exact h
  | cons m rest ih => exact ih (h.insert m.1 m.2)

theorem ordered_ofList (written : List (String × α)) : Ordered (ofList written) :=
  Ordered.foldl_insert .nil written

theorem mem_foldl_insert {written : List (String × α)} {m : String × α}
    (h : m ∈ written.foldl (fun members (key, value) => insert key value members) members) :
    m ∈ members ∨ m ∈ written := by
  induction written generalizing members with
  | nil => exact Or.inl h
  | cons head rest ih =>
    rcases ih h with hm | hm
    · rcases mem_insert hm with rfl | hm
      · exact Or.inr List.mem_cons_self
      · exact Or.inl hm
    · exact Or.inr (List.mem_cons_of_mem _ hm)

theorem mem_of_mem_ofList {written : List (String × α)} {m : String × α}
    (h : m ∈ ofList written) : m ∈ written :=
  (mem_foldl_insert h).resolve_left List.not_mem_nil

theorem insert_of_lt {key : String} {value : α} (h : ∀ m ∈ members, m.1 < key) :
    insert key value members = members ++ [(key, value)] := by
  induction members with
  | nil => rfl
  | cons head rest ih =>
    obtain ⟨hhead, hrest⟩ := List.forall_mem_cons.1 h
    have hne : key ≠ head.1 := by
      rintro rfl
      exact String.lt_irrefl _ hhead
    rw [insert, if_neg (String.lt_asymm hhead), if_neg hne, ih hrest, List.cons_append]

theorem foldl_insert_of_ordered {written : List (String × α)} (h : Ordered (members ++ written)) :
    written.foldl (fun members (key, value) => insert key value members) members =
      members ++ written := by
  induction written generalizing members with
  | nil => exact (List.append_nil members).symm
  | cons head rest ih =>
    obtain ⟨key, value⟩ := head
    have hbefore : ∀ m ∈ members, m.1 < key := by
      intro m hm
      exact (List.pairwise_append.1 h).2.2 m hm (key, value) List.mem_cons_self
    rw [List.append_cons] at h ⊢
    rw [List.foldl_cons]
    dsimp only
    rw [insert_of_lt hbefore, ih h]

theorem ofList_of_ordered (h : Ordered members) : ofList members = members :=
  foldl_insert_of_ordered h

theorem Ordered.countP_le_one (h : Ordered members) (key : String) :
    members.countP (·.1 == key) ≤ 1 := by
  induction members with
  | nil => exact Nat.zero_le 1
  | cons head rest ih =>
    obtain ⟨hhead, hrest⟩ := List.pairwise_cons.1 h
    rw [List.countP_cons]
    by_cases hkey : head.1 = key
    · have hnone : rest.countP (·.1 == key) = 0 := by
        refine List.countP_eq_zero.2 ?_
        intro m hm heq
        have hlt := hhead m hm
        rw [hkey, ← eq_of_beq heq] at hlt
        exact String.lt_irrefl _ hlt
      rw [hnone, Nat.zero_add]
      split
      · exact Nat.le_refl 1
      · exact Nat.zero_le 1
    · have hbeq : (head.1 == key) = false := beq_false_of_ne hkey
      rw [hbeq]
      exact ih hrest

theorem find?_foldl_insert (key : String) (written : List (String × α)) :
    find? key (written.foldl (fun members (key, value) => insert key value members) members) =
      (List.lookup key written.reverse).or (find? key members) := by
  induction written generalizing members with
  | nil => rfl
  | cons head rest ih =>
    obtain ⟨k, value⟩ := head
    rw [List.foldl_cons, ih, find?_insert, List.reverse_cons, List.lookup_append, Option.or_assoc]
    congr 1
    by_cases hkey : k = key
    · subst hkey
      simp
    · have hbeq : (key == k) = false := by simpa using Ne.symm hkey
      simp [hkey, List.lookup_cons, hbeq]

theorem find?_ofList (key : String) (written : List (String × α)) :
    find? key (ofList written) = List.lookup key written.reverse := by
  rw [ofList, find?_foldl_insert, find?_nil, Option.or_none]

end FeatureFlags.Members
