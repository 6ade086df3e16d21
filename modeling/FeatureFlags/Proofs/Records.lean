import FeatureFlags.Proofs.Documents

/-! # Records written and read

What is written under a name is read under that name, whatever order the members stand in. The
scalars of a record are read as they were written, and so is a list whose items are. -/

namespace FeatureFlags.Document

variable {α : Type} {names : List String} {document : Document}

theorem wellFormed_of_lookup {name : String} {members : List (String × Document)}
    {part : Document} (hmembers : ∀ member ∈ members, member.2.WellFormed)
    (h : List.lookup name members = some part) : part.WellFormed := by
  obtain ⟨before, after, rfl, -⟩ := List.lookup_eq_some_iff.1 h
  exact hmembers (name, part) (List.mem_append_right _ List.mem_cons_self)

theorem wellFormed_of_fields? {fields : List (Option Document)} (hdocument : document.WellFormed)
    (h : document.fields? names = some fields) :
    ∀ field ∈ fields, ∀ part ∈ field, part.WellFormed := by
  intro field hfield part hpart
  rw [Option.mem_def] at hpart
  subst hpart
  cases hdocument with
  | object hmembers =>
    unfold fields? at h
    dsimp only at h
    split at h
    · cases h
    · cases h
      obtain ⟨name, -, hlookup⟩ := List.mem_map.1 hfield
      exact wellFormed_of_lookup hmembers hlookup
  | array hitems =>
    unfold fields? at h
    dsimp only at h
    split at h
    · cases h
      rcases List.mem_append.1 hfield with hmem | hmem
      · obtain ⟨item, hitem, heq⟩ := List.mem_map.1 hmem
        cases heq
        exact hitems part hitem
      · cases List.eq_of_mem_replicate hmem
    · cases h
  | _ => cases h

theorem lookup_ofMembers (name : String) (members : Members Json) :
    List.lookup name (ofMembers members) = (Members.find? name members).map ofJson := by
  induction members with
  | nil => rfl
  | cons member rest ih =>
    obtain ⟨key, json⟩ := member
    rw [ofMembers, List.lookup_cons, Members.find?]
    by_cases hkey : key = name
    · subst hkey
      simp
    · have hbeq : (name == key) = false := beq_false_of_ne (Ne.symm hkey)
      simp only [hbeq, hkey, if_false, ih]

theorem countP_ofMembers (name : String) (members : List (String × Json)) :
    (ofMembers members).countP (·.1 == name) = members.countP (·.1 == name) := by
  induction members with
  | nil => rfl
  | cons member rest ih => rw [ofMembers, List.countP_cons, List.countP_cons, ih]

/-- Of a record that was written as an object, each field is what was written last under its
name. -/
theorem fields?_ofMembers (names : List String) (written : List (String × Json)) :
    fields? names (ofJson (.ofMembers written)) =
      some (names.map fun name => (List.lookup name written.reverse).map ofJson) := by
  have honce : ¬ names.any (fun name =>
      decide (1 < (ofMembers (Members.ofList written)).countP (·.1 == name))) := by
    intro htwice
    obtain ⟨name, -, hcount⟩ := List.any_eq_true.1 htwice
    have hle := (Members.ordered_ofList written).countP_le_one name
    rw [countP_ofMembers] at hcount
    exact Nat.not_lt.2 hle (of_decide_eq_true hcount)
  rw [Json.ofMembers, ofJson, fields?, if_neg honce]
  simp only [lookup_ofMembers, Members.find?_ofList]

theorem asNatBelow?_ofNat {bound n : Nat} (h : n < bound) :
    asNatBelow? bound (ofJson (.ofNat n)) = some n := by
  have hrange : (0 : Int) ≤ n ∧ (n : Int) < bound := by omega
  rw [Json.ofNat, ofJson, asNatBelow?, if_pos hrange, Int.toNat_natCast]

@[simp] theorem asUInt64?_ofNat (n : UInt64) : asUInt64? (ofJson (.ofNat n.toNat)) = some n := by
  rw [asUInt64?, asNatBelow?_ofNat n.toNat_lt, Option.map_some, UInt64.ofNat_toNat]

@[simp] theorem asUInt32?_ofNat (n : UInt32) : asUInt32? (ofJson (.ofNat n.toNat)) = some n := by
  rw [asUInt32?, asNatBelow?_ofNat n.toNat_lt, Option.map_some, UInt32.ofNat_toNat]

@[simp] theorem asString?_string (s : String) : asString? (ofJson (.string s)) = some s := rfl

@[simp] theorem asBool?_bool (b : Bool) : asBool? (ofJson (.bool b)) = some b := rfl

theorem asBinary64?_ofBinary64 {x : Binary64} (h : x.isFinite = true) :
    asBinary64? (ofJson (.ofBinary64 x)) = some x := by
  simp [Json.ofBinary64, h, ofJson, asBinary64?, Number.toBinary64]

theorem isFinite_of_asBinary64? {x : Binary64} (hdocument : document.WellFormed)
    (h : asBinary64? document = some x) : x.isFinite = true := by
  cases hdocument with
  | number hliteral =>
    cases h
    exact hliteral.isFinite
  | _ => cases h

theorem asList?_map {read : Document → Option α} {write : α → Json} {items : List α}
    (h : ∀ a ∈ items, read (ofJson (write a)) = some a) :
    asList? read (ofJson (.array (items.map write))) = some items := by
  rw [ofJson, asList?]
  induction items with
  | nil => rfl
  | cons a rest ih =>
    obtain ⟨ha, hrest⟩ := List.forall_mem_cons.1 h
    simp [ofItems, ha, ih hrest]

theorem forall_of_mapM {read : Document → Option α} {P : α → Prop} {parts : List Document}
    (hread : ∀ part ∈ parts, ∀ a, read part = some a → P a) {items : List α}
    (h : parts.mapM read = some items) : ∀ a ∈ items, P a := by
  induction parts generalizing items with
  | nil =>
    cases h
    exact List.forall_mem_nil _
  | cons part rest ih =>
    obtain ⟨hpart, hrest⟩ := List.forall_mem_cons.1 hread
    rw [List.mapM_cons] at h
    obtain ⟨a, ha, h⟩ := Option.bind_eq_some_iff.1 h
    obtain ⟨others, hothers, h⟩ := Option.bind_eq_some_iff.1 h
    cases h
    exact List.forall_mem_cons.2 ⟨hpart a ha, ih hrest hothers⟩

theorem forall_of_asList? {read : Document → Option α} {P : α → Prop}
    (hread : ∀ item a, item.WellFormed → read item = some a → P a)
    (hdocument : document.WellFormed) {items : List α} (h : asList? read document = some items) :
    ∀ a ∈ items, P a := by
  cases hdocument with
  | array hparts =>
    refine forall_of_mapM ?_ h
    intro part hmem a ha
    exact hread part a (hparts part hmem) ha
  | _ => cases h

-- These are proved by rewriting: a computation that simp relies on is repeated by the kernel, and
-- there the bound of an integer whose value is not known runs too deep.
@[simp] theorem required_some (read : Document → Option α) (part : Document) :
    required read (some part) = read part := by rw [required]

@[simp] theorem orDefault_some (default : α) (read : Document → Option α) (part : Document) :
    orDefault default read (some part) = read part := by rw [orDefault]

@[simp] theorem optional_none (read : Document → Option α) : optional read none = some none := by
  rw [optional]

theorem optional_some (read : Document → Option α) {part : Document} (h : part ≠ .null) :
    optional read (some part) = (read part).map some := by
  rw [optional]
  exact h

theorem exists_of_required {read : Document → Option α} {field : Option Document} {a : α}
    (h : required read field = some a) : ∃ part ∈ field, read part = some a := by
  cases field with
  | none => cases h
  | some part => exact ⟨part, rfl, h⟩

/-- The default counts as read when the field is missing, so it has to pass on its own. -/
theorem of_orDefault {default : α} {read : Document → Option α} {P : α → Prop}
    {field : Option Document} (hdefault : P default)
    (hread : ∀ part ∈ field, ∀ a, read part = some a → P a) {a : α}
    (h : orDefault default read field = some a) : P a := by
  cases field with
  | none =>
    cases h
    exact hdefault
  | some part => exact hread part rfl a h

/-- What is written as `null` counts as missing. -/
theorem exists_of_optional {read : Document → Option α} {field : Option Document} {found : Option α}
    (h : optional read field = some found) {a : α} (ha : a ∈ found) :
    ∃ part ∈ field, part ≠ .null ∧ read part = some a := by
  rw [Option.mem_def] at ha
  subst ha
  cases field with
  | none => cases h
  | some part =>
    have hnull : part ≠ .null := by
      rintro rfl
      cases h
    rw [optional_some read hnull] at h
    obtain ⟨b, hb, heq⟩ := Option.map_eq_some_iff.1 h
    cases heq
    exact ⟨part, rfl, hnull, hb⟩

end FeatureFlags.Document
