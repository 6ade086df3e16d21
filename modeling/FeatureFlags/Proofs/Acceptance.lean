import FeatureFlags.Proofs.Targets

/-! # What operators accept

Which values satisfy a constraint with some operator and target, said without what it is compiled to,
and that this is what its predicate evaluates. -/

namespace FeatureFlags

/-- Values equal targets of their own type only, and numbers are compared as doubles. -/
inductive Json.Equals : Json → Value → Prop
  | number {n : Number} {x : Binary64} (same : x.eq n.toBinary64 = true) :
      Equals (.number n) (.number x)
  | string (s : String) : Equals (.string s) (.string s)
  | boolean (b : Bool) : Equals (.bool b) (.boolean b)

def Json.Compares (holds : Binary64 → Binary64 → Bool) (target : Json) (value : Value) : Prop :=
  ∃ n x, target = .number n ∧ value = .number x ∧ holds x n.toBinary64 = true

def Json.IsFoundIn (target : Json) (value : Value) : Prop :=
  ∃ source pattern s, target = .string source ∧ Pattern.compile source = .ok pattern ∧
    value = .string s ∧ pattern.isFoundIn s = true

def Json.HasItem (target : Json) (value : Value) : Prop :=
  ∃ items, target = .array items ∧ ∃ item ∈ items, item.Equals value

def Json.IsElement (target : Json) (value : Value) : Prop :=
  ∃ elements, value = .array elements ∧ ∃ element ∈ elements, target.Equals element

/-- What a constraint with the operator and the target is satisfied by. -/
def Operator.Accepts (target : Json) (value : Value) : Operator → Prop
  | .eq => target.Equals value
  | .neq => ¬ target.Equals value
  | .lt => target.Compares Binary64.lt value
  | .lte => target.Compares Binary64.le value
  | .gt => target.Compares (fun x y => y.lt x) value
  | .gte => target.Compares (fun x y => y.le x) value
  | .ereg => target.IsFoundIn value
  | .nereg => ¬ target.IsFoundIn value
  | .isIn => target.HasItem value
  | .notIn => ¬ target.HasItem value
  | .contains => target.IsElement value
  | .notContains => ¬ target.IsElement value

theorem Scalar.matchesValue_eq_true {json : Json} {target : Scalar} (h : target.Decodes json)
    {value : Value} : target.matchesValue value = true ↔ json.Equals value := by
  cases h with
  | number n =>
    constructor
    · intro hmatches
      cases value with
      | number x => exact .number hmatches
      | null | boolean _ | string _ | array _ | object _ => cases hmatches
    · rintro ⟨hsame⟩
      exact hsame
  | string s =>
    constructor
    · intro hmatches
      cases value with
      | string t =>
        obtain rfl := eq_of_beq hmatches
        exact .string t
      | null | boolean _ | number _ | array _ | object _ => cases hmatches
    · rintro ⟨⟩
      exact beq_self_eq_true s
  | boolean b =>
    constructor
    · intro hmatches
      cases value with
      | boolean c =>
        obtain rfl := eq_of_beq hmatches
        exact .boolean c
      | null | number _ | string _ | array _ | object _ => cases hmatches
    · rintro ⟨⟩
      exact beq_self_eq_true b

theorem ScalarSet.containsValue_iff_hasItem {json : Json} {targets : ScalarSet}
    (h : targets.Decodes json) {value : Value} :
    targets.containsValue value = true ↔ json.HasItem value := by
  cases h with
  | numbers ns nonempty =>
    constructor
    · intro hcontains
      cases value with
      | number x =>
        obtain ⟨target, htarget, hsame⟩ := List.any_eq_true.1 hcontains
        obtain ⟨n, hn, rfl⟩ := List.mem_map.1 htarget
        exact ⟨_, rfl, .number n, List.mem_map_of_mem hn, .number hsame⟩
      | null | boolean _ | string _ | array _ | object _ => cases hcontains
    · rintro ⟨_, ⟨⟩, item, hitem, hequals⟩
      obtain ⟨n, hn, rfl⟩ := List.mem_map.1 hitem
      cases hequals with
      | number same => exact List.any_eq_true.2 ⟨_, List.mem_map_of_mem hn, same⟩
  | strings written targets increasing same =>
    constructor
    · intro hcontains
      cases value with
      | string s =>
        have hs : s ∈ written := (same s).1 (List.contains_iff_mem.1 hcontains)
        exact ⟨_, rfl, .string s, List.mem_map_of_mem hs, .string s⟩
      | null | boolean _ | number _ | array _ | object _ => cases hcontains
    · rintro ⟨_, ⟨⟩, item, hitem, hequals⟩
      obtain ⟨s, hs, rfl⟩ := List.mem_map.1 hitem
      cases hequals with
      | string => exact List.contains_iff_mem.2 ((same s).2 hs)

namespace Predicate

variable {json : Json} {value : Value}

theorem compareNumber_iff (holds : Binary64 → Binary64 → Bool) {target : Binary64}
    (h : ∃ n, json = .number n ∧ target = n.toBinary64) :
    compareNumber (fun x => holds x target) value = true ↔ json.Compares holds value := by
  obtain ⟨n, rfl, rfl⟩ := h
  constructor
  · intro hcompare
    cases value with
    | number x => exact ⟨n, x, rfl, rfl, hcompare⟩
    | null | boolean _ | string _ | array _ | object _ => cases hcompare
  · rintro ⟨_, x, ⟨⟩, rfl, hholds⟩
    exact hholds

theorem findIn_iff {pattern : Pattern}
    (h : ∃ source, json = .string source ∧ Pattern.compile source = .ok pattern) :
    findIn pattern value = true ↔ json.IsFoundIn value := by
  obtain ⟨source, rfl, hpattern⟩ := h
  constructor
  · intro hfind
    cases value with
    | string s => exact ⟨source, pattern, s, rfl, hpattern, rfl, hfind⟩
    | null | boolean _ | number _ | array _ | object _ => cases hfind
  · rintro ⟨_, other, s, ⟨⟩, hother, rfl, hfound⟩
    rw [hpattern] at hother
    cases hother
    exact hfound

theorem arrayContains_iff {target : Scalar} (h : target.Decodes json) :
    arrayContains target value = true ↔ json.IsElement value := by
  constructor
  · intro hcontains
    cases value with
    | array elements =>
      obtain ⟨element, helement, hmatches⟩ := List.any_eq_true.1 hcontains
      exact ⟨elements, rfl, element, helement, (Scalar.matchesValue_eq_true h).1 hmatches⟩
    | null | boolean _ | number _ | string _ | object _ => cases hcontains
  · rintro ⟨elements, rfl, element, helement, hequals⟩
    exact List.any_eq_true.2 ⟨element, helement, (Scalar.matchesValue_eq_true h).2 hequals⟩

theorem eval_eq_true {predicate : Predicate} (h : predicate.Decodes json) :
    predicate.eval value = true ↔ predicate.operator.Accepts json value := by
  have hnot : ∀ {holds : Bool} {p : Prop}, (holds = true ↔ p) → ((!holds) = true ↔ ¬ p) := by
    intro holds p hiff
    rw [Bool.not_eq_true', ← Bool.not_eq_true, hiff]
  cases predicate with
  | eq target => exact Scalar.matchesValue_eq_true h
  | neq target => exact hnot (Scalar.matchesValue_eq_true h)
  | lt target => exact compareNumber_iff Binary64.lt h
  | lte target => exact compareNumber_iff Binary64.le h
  | gt target => exact compareNumber_iff (fun x y => y.lt x) h
  | gte target => exact compareNumber_iff (fun x y => y.le x) h
  | ereg pattern => exact findIn_iff h
  | nereg pattern => exact hnot (findIn_iff h)
  | isIn targets => exact ScalarSet.containsValue_iff_hasItem h
  | notIn targets => exact hnot (ScalarSet.containsValue_iff_hasItem h)
  | contains target => exact arrayContains_iff h
  | notContains target => exact hnot (arrayContains_iff h)

end Predicate

end FeatureFlags
