import Mathlib.Data.List.TakeWhile
import FeatureFlags.Text

/-! # White space

What is trimmed off a text is what Unicode calls white space, so that more of it on either side of a
text makes no difference once the text is trimmed. -/

namespace FeatureFlags

namespace CodeSet

def Ordered (s : CodeSet) : Prop :=
  s.ranges.toList.Pairwise fun a b => a.1 ≤ b.1 ∧ a.2 ≤ b.2

instance (s : CodeSet) : Decidable s.Ordered :=
  inferInstanceAs (Decidable (s.ranges.toList.Pairwise fun a b => a.1 ≤ b.1 ∧ a.2 ≤ b.2))

variable {s : CodeSet}

theorem Ordered.le (h : s.Ordered) {i j : Nat} {a b : Nat × Nat} (hij : i ≤ j)
    (ha : s.ranges[i]? = some a) (hb : s.ranges[j]? = some b) : a.1 ≤ b.1 ∧ a.2 ≤ b.2 := by
  rw [← Array.getElem?_toList] at ha hb
  obtain ⟨hi, rfl⟩ := List.getElem?_eq_some_iff.1 ha
  obtain ⟨hj, rfl⟩ := List.getElem?_eq_some_iff.1 hb
  rcases Nat.lt_or_eq_of_le hij with hlt | rfl
  · exact List.pairwise_iff_getElem.1 h i j hi hj hlt
  · exact ⟨Nat.le_refl _, Nat.le_refl _⟩

/-- The search leaves out no range that holds the code point. -/
theorem holdsBetween_iff (h : s.Ordered) (code start stop : Nat) (hstop : stop ≤ s.ranges.size) :
    s.holdsBetween code start stop = true ↔
      ∃ i r, start ≤ i ∧ i < stop ∧ s.ranges[i]? = some r ∧ r.1 ≤ code ∧ code ≤ r.2 := by
  fun_induction holdsBetween s code start stop with
  | case1 start stop hlt middle hnone =>
    have hsize := Array.getElem?_eq_none_iff.1 hnone
    omega
  | case2 start stop hlt middle low high hmiddle hlow ih =>
    rw [ih (by omega)]
    constructor
    · rintro ⟨i, r, hi, hmi, hr⟩
      exact ⟨i, r, hi, by omega, hr⟩
    · rintro ⟨i, r, hi, hs, hr, hfirst, hlast⟩
      have hlt : i < middle := by
        rcases Nat.lt_or_ge i middle with hlt | hge
        · exact hlt
        · have hle := (h.le hge hmiddle hr).1
          omega
      exact ⟨i, r, hi, hlt, hr, hfirst, hlast⟩
  | case3 start stop hlt middle low high hmiddle hlow hhigh ih =>
    rw [ih (by omega)]
    constructor
    · rintro ⟨i, r, hi, hmi, hr⟩
      exact ⟨i, r, by omega, hmi, hr⟩
    · rintro ⟨i, r, hi, hs, hr, hfirst, hlast⟩
      have hlt : middle < i := by
        rcases Nat.lt_or_ge middle i with hlt | hge
        · exact hlt
        · have hle := (h.le hge hr hmiddle).2
          omega
      exact ⟨i, r, hlt, hs, hr, hfirst, hlast⟩
  | case4 start stop hlt middle low high hmiddle hlow hhigh =>
    exact iff_of_true rfl ⟨middle, (low, high), by omega, by omega, hmiddle, by omega, by omega⟩
  | case5 start stop hge =>
    refine iff_of_false Bool.false_ne_true ?_
    rintro ⟨i, r, hi, hs, -⟩
    omega

theorem contains_iff (h : s.Ordered) (c : Char) :
    s.contains c = true ↔ ∃ r ∈ s.ranges.toList, r.1 ≤ c.toNat ∧ c.toNat ≤ r.2 := by
  rw [contains, holdsBetween_iff h _ _ _ (Nat.le_refl _)]
  constructor
  · rintro ⟨i, r, -, -, hr, hin⟩
    exact ⟨r, Array.mem_toList_iff.2 (Array.mem_of_getElem? hr), hin⟩
  · rintro ⟨r, hmem, hin⟩
    obtain ⟨i, hi, rfl⟩ := List.getElem_of_mem hmem
    exact ⟨i, _, Nat.zero_le i, by simpa using hi, by simp, hin⟩

end CodeSet

theorem Unicode.whiteSpace_eq : setOf Property.whiteSpace =
    ⟨#[(0x9, 0xd), (0x20, 0x20), (0x85, 0x85), (0xa0, 0xa0), (0x1680, 0x1680), (0x2000, 0x200a),
      (0x2028, 0x2029), (0x202f, 0x202f), (0x205f, 0x205f), (0x3000, 0x3000)]⟩ := by
  -- The kernel evaluates a fold over a list of characters, but none over a string.
  rw [setOf, numbers, String.foldl_eq_foldl_toList]
  decide +kernel

namespace Text

def IsWhiteSpace (text : String) : Prop :=
  ∀ c ∈ text.toList, (Unicode.setOf Unicode.Property.whiteSpace).contains c = true

theorem isBlank_iff (c : Char) :
    isBlank c = true ↔ (Unicode.setOf Unicode.Property.whiteSpace).contains c = true := by
  rw [Unicode.whiteSpace_eq, CodeSet.contains_iff (by decide)]
  simp [isBlank]
  omega

theorem isWhiteSpace_iff {text : String} :
    IsWhiteSpace text ↔ ∀ c ∈ text.toList, isBlank c = true := by
  simp only [IsWhiteSpace, isBlank_iff]

/-- It is decided over the characters of the text, not over all that there are. -/
instance (text : String) : Decidable (IsWhiteSpace text) :=
  have : Decidable (∀ c ∈ text.toList, isBlank c = true) := List.decidableBAll _ text.toList
  decidable_of_iff _ isWhiteSpace_iff.symm

theorem trim_eq_empty {text : String} :
    trim text = "" ↔ ∀ char ∈ text.toList, isBlank char = true := by
  have htrim : trim text = "" ↔ trimChars text.toList = [] := by
    rw [trim, String.ofList_eq_empty_iff]
  rw [htrim]
  constructor
  · intro h
    have hrest : ∀ char ∈ text.toList.dropWhile isBlank, isBlank char = true := by
      intro char hmem
      have hnil := List.reverse_eq_nil_iff.1 h
      exact List.dropWhile_eq_nil_iff.1 hnil char (List.mem_reverse.2 hmem)
    intro char hmem
    rw [← List.takeWhile_append_dropWhile (p := isBlank) (l := text.toList)] at hmem
    rcases List.mem_append.1 hmem with hfront | hback
    · exact List.mem_takeWhile_imp hfront
    · exact hrest char hback
  · intro h
    rw [trimChars, List.dropWhile_eq_nil_iff.2 h]
    rfl

theorem dropWhile_isBlank {text : List Char} (h : ∀ c ∈ text.head?, isBlank c = false) :
    text.dropWhile isBlank = text := by
  cases text with
  | nil => rfl
  | cons c text => exact List.dropWhile_cons_of_neg (by simp [h c rfl])

theorem trim_ofList {text : List Char} (hfirst : ∀ c ∈ text.head?, isBlank c = false)
    (hlast : ∀ c ∈ text.getLast?, isBlank c = false) :
    trim (String.ofList text) = String.ofList text := by
  have hreverse : text.reverse.dropWhile isBlank = text.reverse := by
    apply dropWhile_isBlank
    intro c hc
    rw [List.head?_reverse] at hc
    exact hlast c hc
  rw [trim, String.toList_ofList, trimChars, dropWhile_isBlank hfirst, hreverse,
    List.reverse_reverse]

theorem trim_quoted (body : List Char) :
    trim (String.ofList ('"' :: body ++ ['"'])) = String.ofList ('"' :: body ++ ['"']) := by
  apply trim_ofList
  · rintro c ⟨⟩
    decide
  · intro c hc
    rw [List.getLast?_concat] at hc
    cases hc
    decide

theorem trimChars_surrounded {before text after : List Char}
    (hbefore : ∀ c ∈ before, isBlank c = true) (hafter : ∀ c ∈ after, isBlank c = true) :
    trimChars (before ++ text ++ after) = trimChars text := by
  have hback : ∀ c ∈ after.reverse, isBlank c = true := by
    intro c hc
    exact hafter c (List.mem_reverse.1 hc)
  rw [trimChars, trimChars, List.append_assoc, List.dropWhile_append_of_pos hbefore,
    List.dropWhile_append]
  split
  · -- The text is blank as well, so that nothing is left of it with or without what follows.
    rename_i hblank
    rw [List.isEmpty_iff.1 hblank, List.dropWhile_eq_nil_iff.2 hafter]
  · rw [List.reverse_append, List.dropWhile_append_of_pos hback]

theorem trim_surrounded {before text after : String} (hbefore : IsWhiteSpace before)
    (hafter : IsWhiteSpace after) : trim (before ++ text ++ after) = trim text := by
  rw [trim, String.toList_append, String.toList_append,
    trimChars_surrounded (isWhiteSpace_iff.1 hbefore) (isWhiteSpace_iff.1 hafter), trim]

end Text

end FeatureFlags
