import FeatureFlags.Proofs.Preparation

/-! # Targets of predicates

Which values an operator takes and what they decode to, said without the readers, and a predicate for
every value that is taken. Patterns are taken as they compile. -/

namespace FeatureFlags

namespace Json

def IsNumber (json : Json) : Prop := ∃ n, json = .number n

def IsString (json : Json) : Prop := ∃ s, json = .string s

def IsBool (json : Json) : Prop := ∃ b, json = .bool b

def IsUniform (json : Json) : Prop :=
  (∃ ns : List Number, json = .array (ns.map .number)) ∨
    ∃ ss : List String, json = .array (ss.map .string)

end Json

/-- The value is of a kind that the operator compares with. -/
def Operator.Takes (json : Json) : Operator → Prop
  | .eq | .neq => json.IsNumber ∨ json.IsString ∨ json.IsBool
  | .lt | .lte | .gt | .gte => json.IsNumber
  | .ereg | .nereg => json.IsString
  | .isIn | .notIn => json.IsUniform
  | .contains | .notContains => json.IsNumber ∨ json.IsString

def Operator.Searches (operator : Operator) : Prop := operator = .ereg ∨ operator = .nereg

inductive Scalar.Decodes : Json → Scalar → Prop
  | number (n : Number) : Decodes (.number n) (.number n.toBinary64)
  | string (s : String) : Decodes (.string s) (.string s)
  | boolean (b : Bool) : Decodes (.bool b) (.boolean b)

/-- Numbers are kept in order with their repeats. Of strings only the set counts, which is held in
increasing order; it is also what no items at all decode to. -/
inductive ScalarSet.Decodes : Json → ScalarSet → Prop
  | numbers (ns : List Number) (nonempty : ns ≠ []) :
      Decodes (.array (ns.map .number)) (.numbers (ns.map Number.toBinary64))
  | strings (written targets : List String) (increasing : targets.Pairwise (· < ·))
      (same : ∀ s, s ∈ targets ↔ s ∈ written) :
      Decodes (.array (written.map .string)) (.strings targets)

def Predicate.Decodes (json : Json) : Predicate → Prop
  | .eq target | .neq target | .contains target | .notContains target => target.Decodes json
  | .lt target | .lte target | .gt target | .gte target =>
    ∃ n, json = .number n ∧ target = n.toBinary64
  | .ereg pattern | .nereg pattern =>
    ∃ source, json = .string source ∧ Pattern.compile source = .ok pattern
  | .isIn targets | .notIn targets => targets.Decodes json

namespace ScalarSet

variable {s : String} {ss ts : List String}

theorem mem_insertString {t : String} : t ∈ insertString s ts ↔ t = s ∨ t ∈ ts := by
  induction ts with
  | nil => simp [insertString]
  | cons head rest ih =>
    rw [insertString]
    split
    · exact List.mem_cons
    · split
      · rename_i heq
        subst heq
        simp
      · rw [List.mem_cons, ih, List.mem_cons, or_left_comm]

theorem pairwise_insertString (h : ts.Pairwise (· < ·)) :
    (insertString s ts).Pairwise (· < ·) := by
  induction ts with
  | nil => exact List.pairwise_singleton _ _
  | cons head rest ih =>
    obtain ⟨hhead, hrest⟩ := List.pairwise_cons.1 h
    rw [insertString]
    split
    · rename_i hlt
      refine List.pairwise_cons.2 ⟨?_, h⟩
      intro t ht
      rcases List.mem_cons.1 ht with rfl | ht
      · exact hlt
      · exact String.lt_trans hlt (hhead t ht)
    · rename_i hnot
      split
      · exact h
      · rename_i hne
        have hlt : head < s := Std.lt_of_le_of_ne (String.not_lt.1 hnot) (Ne.symm hne)
        refine List.pairwise_cons.2 ⟨?_, ih hrest⟩
        intro t ht
        rcases mem_insertString.1 ht with rfl | ht
        · exact hlt
        · exact hhead t ht

theorem mem_foldr_insertString : s ∈ ss.foldr insertString [] ↔ s ∈ ss := by
  induction ss with
  | nil => rfl
  | cons head rest ih => rw [List.foldr_cons, mem_insertString, ih, List.mem_cons]

theorem pairwise_foldr_insertString : (ss.foldr insertString []).Pairwise (· < ·) := by
  induction ss with
  | nil => exact .nil
  | cons head rest ih => exact pairwise_insertString ih

theorem eq_of_same_members (hs : ss.Pairwise (· < ·)) (ht : ts.Pairwise (· < ·))
    (h : ∀ s, s ∈ ss ↔ s ∈ ts) : ss = ts := by
  have hnodup : ∀ {us : List String}, us.Pairwise (· < ·) → us.Nodup := by
    intro us hus
    apply hus.imp
    rintro a _ hlt rfl
    exact String.lt_irrefl a hlt
  have hperm : ss.Perm ts := (List.perm_ext_iff_of_nodup (hnodup hs) (hnodup ht)).2 h
  apply hperm.eq_of_pairwise _ hs ht
  intro a b _ _ hab hba
  exact absurd hba (String.lt_asymm hab)

theorem decodes_strings (ss : List String) :
    (strings (ss.foldr insertString [])).Decodes (.array (ss.map .string)) :=
  .strings ss _ pairwise_foldr_insertString fun _ => mem_foldr_insertString

end ScalarSet

theorem Scalar.ofJson?_eq_some {json : Json} {target : Scalar} :
    ofJson? json = some target ↔ target.Decodes json := by
  constructor
  · intro h
    cases json with
    | number n => cases h; exact .number n
    | string s => cases h; exact .string s
    | bool b => cases h; exact .boolean b
    | null => cases h
    | array items => cases h
    | object members => cases h
  · rintro (_ | _ | _) <;> rfl

namespace ScalarSet

theorem number?_eq_some {json : Json} {x : Binary64} :
    number? json = some x ↔ ∃ n, json = .number n ∧ x = n.toBinary64 := by
  cases json <;> simp [number?, eq_comm]

theorem string?_eq_some {json : Json} {s : String} :
    string? json = some s ↔ ∃ t, json = .string t ∧ s = t := by
  cases json <;> simp [string?, eq_comm]

theorem mapM_eq_some {α β : Type} {read : Json → Option β} {write : α → Json} {value : α → β}
    (hread : ∀ json b, read json = some b ↔ ∃ a, json = write a ∧ b = value a)
    {items : List Json} {bs : List β} :
    items.mapM read = some bs ↔ ∃ as : List α, items = as.map write ∧ bs = as.map value := by
  induction items generalizing bs with
  | nil =>
    constructor
    · intro h
      cases h
      exact ⟨[], rfl, rfl⟩
    · rintro ⟨as, has, rfl⟩
      rw [List.map_eq_nil_iff.1 has.symm]
      rfl
  | cons item rest ih =>
    rw [List.mapM_cons]
    constructor
    · intro h
      obtain ⟨b, hitem, h⟩ := Option.bind_eq_some_iff.1 h
      obtain ⟨cs, hrest, h⟩ := Option.bind_eq_some_iff.1 h
      cases h
      obtain ⟨a, rfl, rfl⟩ := (hread _ _).1 hitem
      obtain ⟨as, rfl, rfl⟩ := ih.1 hrest
      exact ⟨a :: as, rfl, rfl⟩
    · rintro ⟨_ | ⟨a, as⟩, has, rfl⟩
      · cases has
      · obtain ⟨rfl, rfl⟩ := List.cons.inj has
        rw [(hread _ _).2 ⟨a, rfl, rfl⟩, ih.2 ⟨as, rfl, rfl⟩]
        rfl

theorem mapM_number? {items : List Json} {xs : List Binary64} :
    items.mapM number? = some xs ↔
      ∃ ns : List Number, items = ns.map .number ∧ xs = ns.map Number.toBinary64 :=
  mapM_eq_some fun _ _ => number?_eq_some

theorem mapM_string? {items : List Json} {ss : List String} :
    items.mapM string? = some ss ↔ items = ss.map .string := by
  rw [mapM_eq_some fun _ _ => string?_eq_some]
  simp

theorem ofItems?_eq_some {items : List Json} {targets : ScalarSet} :
    ofItems? items = some targets ↔ targets.Decodes (.array items) := by
  constructor
  · intro h
    unfold ofItems? at h
    split at h
    · cases h
      exact decodes_strings []
    · obtain ⟨xs, hxs, rfl⟩ := Option.map_eq_some_iff.1 h
      obtain ⟨ns, hitems, rfl⟩ := mapM_number?.1 hxs
      have hnonempty : ns ≠ [] := by
        rintro rfl
        cases hitems
      rw [hitems]
      exact .numbers ns hnonempty
    · obtain ⟨ss, hss, rfl⟩ := Option.map_eq_some_iff.1 h
      rw [mapM_string?.1 hss]
      exact decodes_strings ss
    · cases h
  · -- `cases` needs a variable in place of the array.
    generalize hjson : Json.array items = json
    intro h
    cases h with
    | numbers ns nonempty =>
      obtain rfl := Json.array.inj hjson
      have hread := mapM_number?.2 ⟨ns, rfl, rfl⟩
      cases ns with
      | nil => exact absurd rfl nonempty
      | cons n ns => exact congrArg (Option.map numbers) hread
    | strings written targets increasing same =>
      obtain rfl := Json.array.inj hjson
      have htargets : written.foldr insertString [] = targets := by
        apply eq_of_same_members pairwise_foldr_insertString increasing
        intro s
        rw [mem_foldr_insertString, same]
      subst htargets
      have hread := mapM_string?.2 (rfl : written.map Json.string = written.map .string)
      cases written with
      | nil => rfl
      | cons s ss => exact congrArg (Option.map fun ss => strings (ss.foldr insertString [])) hread

end ScalarSet

namespace Predicate

theorem set?_eq_some {json : Json} {targets : ScalarSet} :
    set? json = some targets ↔ targets.Decodes json := by
  constructor
  · intro h
    cases json with
    | array items => exact ScalarSet.ofItems?_eq_some.1 h
    | null | bool _ | number _ | string _ | object _ => cases h
  · intro h
    cases h with
    | numbers ns nonempty => exact ScalarSet.ofItems?_eq_some.2 (.numbers ns nonempty)
    | strings written targets increasing same =>
      exact ScalarSet.ofItems?_eq_some.2 (.strings written targets increasing same)

theorem member?_eq_some {json : Json} {target : Scalar} :
    member? json = some target ↔ (json.IsNumber ∨ json.IsString) ∧ target.Decodes json := by
  constructor
  · intro h
    cases json with
    | number n => cases h; exact ⟨.inl ⟨n, rfl⟩, .number n⟩
    | string s => cases h; exact ⟨.inr ⟨s, rfl⟩, .string s⟩
    | null | bool _ | array _ | object _ => cases h
  · rintro ⟨⟨n, rfl⟩ | ⟨s, rfl⟩, hdecodes⟩
    · cases hdecodes; rfl
    · cases hdecodes; rfl

theorem exists_scalar? {json : Json} :
    (∃ target, scalar? json = some target) ↔ json.IsNumber ∨ json.IsString ∨ json.IsBool := by
  cases json <;> simp [scalar?, Scalar.ofJson?, Json.IsNumber, Json.IsString, Json.IsBool]

theorem exists_number? {json : Json} : (∃ x, number? json = some x) ↔ json.IsNumber := by
  cases json <;> simp [number?, ScalarSet.number?, Json.IsNumber]

theorem exists_member? {json : Json} :
    (∃ target, member? json = some target) ↔ json.IsNumber ∨ json.IsString := by
  cases json <;> simp [member?, Scalar.ofJson?, Json.IsNumber, Json.IsString]

theorem exists_set? {json : Json} : (∃ targets, set? json = some targets) ↔ json.IsUniform := by
  simp only [set?_eq_some]
  constructor
  · rintro ⟨_, h⟩
    cases h with
    | numbers ns nonempty => exact .inl ⟨ns, rfl⟩
    | strings written targets increasing same => exact .inr ⟨written, rfl⟩
  · rintro (⟨ns, rfl⟩ | ⟨ss, rfl⟩)
    · by_cases hempty : ns = []
      · subst hempty
        exact ⟨_, ScalarSet.decodes_strings []⟩
      · exact ⟨_, .numbers ns hempty⟩
    · exact ⟨_, ScalarSet.decodes_strings ss⟩

section

variable {c : ConstraintDefinition} {operator : Operator} {json : Json} {predicate : Predicate}
  {error : Error}

theorem decode_eq_ok {α : Type} {read : Option α} {make : α → Predicate} :
    (match read with
      | some a => .ok (make a)
      | none => .error error : Result Predicate) = .ok predicate ↔
      ∃ a, read = some a ∧ make a = predicate := by
  cases read <;> simp

theorem decode_of_unread {α : Type} {read : Option α} {make : α → Predicate} :
    (¬ ∃ a, read = some a) →
      (match read with
        | some a => .ok (make a)
        | none => .error error : Result Predicate) = .error error := by
  intro h
  cases read with
  | none => rfl
  | some a => exact absurd ⟨a, rfl⟩ h

theorem search_eq_ok {source property : String} {make : Pattern → Predicate} :
    (match Pattern.compile source with
      | .ok pattern => .ok (make pattern)
      | .error _ => .error (.invalidPattern property) : Result Predicate) = .ok predicate ↔
      ∃ pattern, Pattern.compile source = .ok pattern ∧ make pattern = predicate := by
  cases Pattern.compile source <;> simp

theorem compile_eq_ok :
    compile c operator json = .ok predicate ↔
      predicate.operator = operator ∧ operator.Takes json ∧ predicate.Decodes json := by
  constructor
  · intro h
    cases operator with
    | eq | neq =>
      obtain ⟨target, hread, rfl⟩ := decode_eq_ok.1 h
      exact ⟨rfl, exists_scalar?.1 ⟨target, hread⟩, Scalar.ofJson?_eq_some.1 hread⟩
    | lt | lte | gt | gte =>
      obtain ⟨target, hread, rfl⟩ := decode_eq_ok.1 h
      exact ⟨rfl, exists_number?.1 ⟨target, hread⟩, ScalarSet.number?_eq_some.1 hread⟩
    | ereg | nereg =>
      cases json with
      | string source =>
        obtain ⟨pattern, hpattern, rfl⟩ := search_eq_ok.1 h
        exact ⟨rfl, ⟨source, rfl⟩, source, rfl, hpattern⟩
      | null | bool _ | number _ | array _ | object _ => cases h
    | isIn | notIn =>
      obtain ⟨targets, hread, rfl⟩ := decode_eq_ok.1 h
      exact ⟨rfl, exists_set?.1 ⟨targets, hread⟩, set?_eq_some.1 hread⟩
    | contains | notContains =>
      obtain ⟨target, hread, rfl⟩ := decode_eq_ok.1 h
      obtain ⟨htakes, hdecodes⟩ := member?_eq_some.1 hread
      exact ⟨rfl, htakes, hdecodes⟩
  · rintro ⟨rfl, htakes, hdecodes⟩
    cases predicate with
    | eq target | neq target =>
      exact decode_eq_ok.2 ⟨target, Scalar.ofJson?_eq_some.2 hdecodes, rfl⟩
    | lt target | lte target | gt target | gte target =>
      exact decode_eq_ok.2 ⟨target, ScalarSet.number?_eq_some.2 hdecodes, rfl⟩
    | ereg pattern | nereg pattern =>
      obtain ⟨source, rfl, hpattern⟩ := hdecodes
      exact search_eq_ok.2 ⟨pattern, hpattern, rfl⟩
    | isIn targets | notIn targets =>
      exact decode_eq_ok.2 ⟨targets, set?_eq_some.2 hdecodes, rfl⟩
    | contains target | notContains target =>
      exact decode_eq_ok.2 ⟨target, member?_eq_some.2 ⟨htakes, hdecodes⟩, rfl⟩

theorem compile_of_not_takes (h : ¬ operator.Takes json) :
    compile c operator json = .error (.unsupportedValueType c.property operator c.value) := by
  cases operator with
  | eq | neq =>
    apply decode_of_unread
    intro hread
    exact h (exists_scalar?.1 hread)
  | lt | lte | gt | gte =>
    apply decode_of_unread
    intro hread
    exact h (exists_number?.1 hread)
  | ereg | nereg =>
    cases json with
    | string source => exact absurd ⟨source, rfl⟩ h
    | null | bool _ | number _ | array _ | object _ => rfl
  | isIn | notIn =>
    apply decode_of_unread
    intro hread
    exact h (exists_set?.1 hread)
  | contains | notContains =>
    apply decode_of_unread
    intro hread
    exact h (exists_member?.1 hread)

theorem compile_of_malformed {source : String} {fault : Pattern.Error} (h : operator.Searches)
    (hmalformed : Pattern.compile source = .error fault) :
    compile c operator (.string source) = .error (.invalidPattern c.property) := by
  rcases h with rfl | rfl
  · simp [compile, hmalformed]
  · simp [compile, hmalformed]

/-- A value of the right kind has a predicate, unless it is to be a pattern and is none. -/
theorem compile_of_takes (c : ConstraintDefinition) (h : operator.Takes json) :
    (∃ predicate, compile c operator json = .ok predicate) ∨
      operator.Searches ∧ ∃ source fault, json = .string source ∧
        Pattern.compile source = .error fault := by
  cases operator with
  | eq | neq =>
    obtain ⟨target, hread⟩ := exists_scalar?.2 h
    exact .inl ⟨_, decode_eq_ok.2 ⟨target, hread, rfl⟩⟩
  | lt | lte | gt | gte =>
    obtain ⟨target, hread⟩ := exists_number?.2 h
    exact .inl ⟨_, decode_eq_ok.2 ⟨target, hread, rfl⟩⟩
  | ereg | nereg =>
    obtain ⟨source, rfl⟩ := h
    cases hpattern : Pattern.compile source with
    | ok pattern => exact .inl ⟨_, search_eq_ok.2 ⟨pattern, hpattern, rfl⟩⟩
    | error fault => exact .inr ⟨by simp [Operator.Searches], source, fault, rfl, hpattern⟩
  | isIn | notIn =>
    obtain ⟨targets, hread⟩ := exists_set?.2 h
    exact .inl ⟨_, decode_eq_ok.2 ⟨targets, hread, rfl⟩⟩
  | contains | notContains =>
    obtain ⟨target, hread⟩ := exists_member?.2 h
    exact .inl ⟨_, decode_eq_ok.2 ⟨target, hread, rfl⟩⟩

end

end Predicate

end FeatureFlags
