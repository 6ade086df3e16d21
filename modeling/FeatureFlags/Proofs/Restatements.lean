import Mathlib.Logic.Relation
import FeatureFlags.Proofs.Layouts
import FeatureFlags.Proofs.Preparation

/-! # One record, written in several ways

The members of a record may be put in another order, members that nobody asks for may be added,
what a field says anyway may be left out, and the record may be written as the array of its fields:
what is read stays the same, also when this is done to a record that stands in a list of another
one. -/

namespace FeatureFlags

variable {limit : Option Nat} {kind inner : Kind} {field : FieldLayout}

namespace Document

variable {name other : String} {members before after : List (String × Document)} {part : Document}

theorem lookup_middle_ne (h : name ≠ other) :
    List.lookup name (before ++ (other, part) :: after) = List.lookup name (before ++ after) := by
  have hbeq : (name == other) = false := beq_false_of_ne h
  simp only [List.lookup_append, List.lookup_cons, hbeq]

theorem countP_middle_ne (h : name ≠ other) :
    (before ++ (other, part) :: after).countP (·.1 == name) =
      (before ++ after).countP (·.1 == name) := by
  have hbeq : (other == name) = false := beq_false_of_ne h.symm
  simp [hbeq]

theorem countP_removed_le : (before ++ after).countP (·.1 == name) ≤
    (before ++ (other, part) :: after).countP (·.1 == name) :=
  ((List.sublist_cons_self (other, part) after).append_left before).countP_le

theorem lookup_eq_none (h : members.countP (·.1 == name) = 0) :
    List.lookup name members = none := by
  rw [List.lookup_eq_none_iff]
  intro member hmember
  have hne : ¬ (member.1 == name) := List.countP_eq_zero.1 h member hmember
  apply bne_iff_ne.2
  rintro rfl
  exact hne (beq_self_eq_true member.1)

theorem lookup_middle (h : (before ++ (name, part) :: after).countP (·.1 == name) ≤ 1) :
    List.lookup name (before ++ (name, part) :: after) = some part ∧
      (before ++ after).countP (·.1 == name) = 0 := by
  simp only [List.countP_append, List.countP_cons, beq_self_eq_true, if_true] at h
  have hbefore : before.countP (·.1 == name) = 0 := by omega
  have hafter : after.countP (·.1 == name) = 0 := by omega
  constructor
  · rw [List.lookup_append, lookup_eq_none hbefore, List.lookup_cons]
    simp
  · rw [List.countP_append, hbefore, hafter]

theorem lookup_eq_some_iff_mem (h : members.countP (·.1 == name) ≤ 1) :
    List.lookup name members = some part ↔ (name, part) ∈ members := by
  constructor
  · intro hlookup
    obtain ⟨before, after, rfl, -⟩ := List.lookup_eq_some_iff.1 hlookup
    exact List.mem_append_right _ List.mem_cons_self
  · intro hmem
    obtain ⟨before, after, rfl⟩ := List.append_of_mem hmem
    exact (lookup_middle h).1

theorem lookup_perm (h : before.Perm after) (honce : before.countP (·.1 == name) ≤ 1) :
    List.lookup name before = List.lookup name after := by
  have honce' : after.countP (·.1 == name) ≤ 1 := h.countP_eq _ ▸ honce
  apply Option.ext
  intro part
  rw [lookup_eq_some_iff_mem honce, lookup_eq_some_iff_mem honce', h.mem_iff]

theorem fields?_object_eq_some {names : List String} {entries : List (Option Document)} :
    fields? names (.object members) = some entries ↔
      (∀ name ∈ names, members.countP (·.1 == name) ≤ 1) ∧
      entries = names.map fun name => List.lookup name members := by
  have hany : names.any (fun name => decide (1 < members.countP (·.1 == name))) = true ↔
      ¬ ∀ name ∈ names, members.countP (·.1 == name) ≤ 1 := by
    simp
  by_cases honce : ∀ name ∈ names, members.countP (·.1 == name) ≤ 1
  · rw [fields?, if_neg fun htwice => hany.1 htwice honce]
    constructor
    · rintro ⟨⟩
      exact ⟨honce, rfl⟩
    · rintro ⟨-, rfl⟩
      rfl
  · rw [fields?, if_pos (hany.2 honce)]
    constructor
    · intro h
      cases h
    · rintro ⟨h, -⟩
      exact absurd h honce

theorem fields?_array_eq_some {names : List String} {items : List Document}
    {entries : List (Option Document)} :
    fields? names (.array items) = some entries ↔
      items.length ≤ names.length ∧
      entries = items.map some ++ List.replicate (names.length - items.length) none := by
  by_cases hlength : items.length ≤ names.length
  · rw [fields?, if_pos hlength]
    simp [hlength, eq_comm]
  · rw [fields?, if_neg hlength]
    simp [hlength]

theorem fields?_array_middle {names : List String} {before after : List Document}
    {entries : List (Option Document)}
    (h : fields? names (.array (before ++ part :: after)) = some entries) :
    ∃ back, entries = before.map some ++ some part :: back ∧ ∀ other,
      fields? names (.array (before ++ other :: after)) =
        some (before.map some ++ some other :: back) := by
  obtain ⟨hlength, rfl⟩ := fields?_array_eq_some.1 h
  let rest := names.length - (before.length + (after.length + 1))
  refine ⟨after.map some ++ List.replicate rest none, by simp [rest], ?_⟩
  intro other
  exact fields?_array_eq_some.2 ⟨by simpa using hlength, by simp [rest]⟩

end Document

/-- One change to how a record is written. -/
inductive Restates (kind : Kind) : Document → Document → Prop
  | permuted {before after : List (String × Document)} (h : before.Perm after) :
      Restates kind (.object before) (.object after)
  | extended {name : String} (hname : name ∉ kind.names) (extra : Document)
      (before after : List (String × Document)) :
      Restates kind (.object (before ++ after)) (.object (before ++ (name, extra) :: after))
  | shortened {field : FieldLayout} {default : Document} (hfield : field ∈ kind.fields)
      (hdefault : field.default = some default) (before after : List (String × Document)) :
      Restates kind (.object (before ++ (field.name, default) :: after)) (.object (before ++ after))
  | listed {members : List (String × Document)} {items : List Document}
      (hitems : items.map some =
        kind.fields.map fun field => (List.lookup field.name members).or field.default) :
      Restates kind (.object members) (.array items)

inductive Lacks (kind : Kind) : Document → Document → Prop
  | intro {field : FieldLayout} (hfield : field ∈ kind.fields) (hdefault : field.default = none)
      (part : Document) (before after : List (String × Document)) :
      Lacks kind (.object (before ++ (field.name, part) :: after)) (.object (before ++ after))

namespace Kind.Legible

variable {before after : Document}

theorem object (hkind : kind.Legible limit) {members : List (String × Document)}
    {record : kind.Record} (h : kind.read? limit (.object members) = some record) :
    (∀ field ∈ kind.fields, members.countP (·.1 == field.name) ≤ 1) ∧
      ∀ field ∈ kind.fields, field.Holds limit (List.lookup field.name members) := by
  obtain ⟨entries, hentries, hholds⟩ := hkind.holds h
  obtain ⟨honce, rfl⟩ := Document.fields?_object_eq_some.1 hentries
  constructor
  · intro field hfield
    exact honce field.name (List.mem_map_of_mem hfield)
  · rw [Kind.names, List.map_map, List.forall₂_map_right_iff, List.forall₂_same] at hholds
    exact hholds

theorem object_congr (hkind : kind.Legible limit) {before after : List (String × Document)}
    (hbefore : ∀ field ∈ kind.fields, before.countP (·.1 == field.name) ≤ 1)
    (hafter : ∀ field ∈ kind.fields, after.countP (·.1 == field.name) ≤ 1)
    (h : ∀ field ∈ kind.fields,
      field.Alike limit (List.lookup field.name before) (List.lookup field.name after)) :
    kind.read? limit (.object before) = kind.read? limit (.object after) := by
  apply hkind.congr
  · exact Document.fields?_object_eq_some.2 ⟨by simpa [Kind.names] using hbefore, rfl⟩
  · exact Document.fields?_object_eq_some.2 ⟨by simpa [Kind.names] using hafter, rfl⟩
  · rw [Kind.names, List.map_map, List.map_map]
    exact AllAlike.map h

theorem array_congr (hkind : kind.Legible limit) {members : List (String × Document)}
    {items : List Document} (honce : ∀ field ∈ kind.fields, members.countP (·.1 == field.name) ≤ 1)
    (hitems : items.map some =
      kind.fields.map fun field => (List.lookup field.name members).or field.default) :
    kind.read? limit (.object members) = kind.read? limit (.array items) := by
  have hlength : items.length = kind.names.length := by
    have hlengths := congrArg List.length hitems
    simpa [Kind.names] using hlengths
  apply hkind.congr
  · exact Document.fields?_object_eq_some.2 ⟨by simpa [Kind.names] using honce, rfl⟩
  · exact Document.fields?_array_eq_some.2 ⟨Nat.le_of_eq hlength, rfl⟩
  · rw [hlength, Nat.sub_self, List.replicate_zero, List.append_nil, hitems, Kind.names,
      List.map_map]
    apply AllAlike.map
    intro field _
    change field.Alike limit (List.lookup field.name members) _
    apply FieldLayout.Alike.filled
    rw [Option.or_assoc, Option.or_self]

theorem restates (hkind : kind.Legible limit) (h : Restates kind before after)
    {record : kind.Record} (hrecord : kind.read? limit before = some record) :
    kind.read? limit after = some record := by
  rw [← hrecord]
  symm
  cases h with
  | permuted h =>
    obtain ⟨honce, -⟩ := hkind.object hrecord
    apply hkind.object_congr honce
    · intro field hfield
      rw [← h.countP_eq]
      exact honce field hfield
    · intro field hfield
      rw [Document.lookup_perm h (honce field hfield)]
      exact .refl _
  | @extended name hname extra front back =>
    have hne : ∀ field ∈ kind.fields, field.name ≠ name := by
      rintro field hfield rfl
      exact hname (List.mem_map_of_mem hfield)
    obtain ⟨honce, -⟩ := hkind.object hrecord
    apply hkind.object_congr honce
    · intro field hfield
      rw [Document.countP_middle_ne (hne field hfield)]
      exact honce field hfield
    · intro field hfield
      rw [Document.lookup_middle_ne (hne field hfield)]
      exact .refl _
  | @shortened field default hfield hdefault front back =>
    obtain ⟨honce, -⟩ := hkind.object hrecord
    obtain ⟨hlookup, hgone⟩ := Document.lookup_middle (honce field hfield)
    apply hkind.object_congr honce
    · intro other hother
      exact Nat.le_trans Document.countP_removed_le (honce other hother)
    · intro other hother
      by_cases hname : other.name = field.name
      · obtain rfl := Kind.field_eq hother hfield hname
        rw [hlookup, Document.lookup_eq_none hgone]
        apply FieldLayout.Alike.filled
        rw [hdefault]
        rfl
      · rw [Document.lookup_middle_ne hname]
        exact .refl _
  | listed hitems =>
    obtain ⟨honce, -⟩ := hkind.object hrecord
    exact hkind.array_congr honce hitems

theorem lacks (hkind : kind.Legible limit) (h : Lacks kind before after)
    {record : kind.Record} (hrecord : kind.read? limit before = some record) :
    kind.read? limit after = none := by
  obtain ⟨hfield, hdefault, part, front, back⟩ := h
  rename_i field
  obtain ⟨honce, -⟩ := hkind.object hrecord
  obtain ⟨-, hgone⟩ := Document.lookup_middle (honce field hfield)
  cases hafter : kind.read? limit (.object (front ++ back)) with
  | none => rfl
  | some _ =>
    obtain ⟨-, hholds⟩ := hkind.object hafter
    have hpresent := (hholds field hfield).present hdefault
    exact absurd (Document.lookup_eq_none hgone) hpresent

end Kind.Legible

/-- A record of one kind with a place for a record of another kind in one of its lists. -/
inductive Frame (kind inner : Kind) : (Document → Document) → Prop
  | member {field : FieldLayout} (hfield : field ∈ kind.fields) (hparts : field.parts = some inner)
      (before after : List (String × Document)) (front back : List Document) :
      Frame kind inner fun part =>
        .object (before ++ (field.name, .array (front ++ part :: back)) :: after)
  | item {field : FieldLayout} {before : List Document}
      (hfield : kind.fields[before.length]? = some field) (hparts : field.parts = some inner)
      (after front back : List Document) :
      Frame kind inner fun part => .array (before ++ .array (front ++ part :: back) :: after)

/-- A change to a record at the top or to one that stands in it, however deep. -/
inductive Within (change : Kind → Document → Document → Prop) : Kind → Document → Document → Prop
  | here {kind : Kind} {before after : Document} (h : change kind before after) :
      Within change kind before after
  | inside {kind inner : Kind} {frame : Document → Document} {before after : Document}
      (hframe : Frame kind inner frame) (h : Within change inner before after) :
      Within change kind (frame before) (frame after)

theorem forall₂_middle {before after : Document} {front back : List Document}
    (h : kind.read? limit before = kind.read? limit after) :
    List.Forall₂ (fun b a => kind.read? limit b = kind.read? limit a)
      (front ++ before :: back) (front ++ after :: back) := by
  have hsame : ∀ parts : List Document,
      List.Forall₂ (fun b a => kind.read? limit b = kind.read? limit a) parts parts :=
    fun _ => List.forall₂_same.2 fun _ _ => rfl
  exact List.rel_append (hsame front) (.cons h (hsame back))

namespace AllAlike

theorem refl {fields : List FieldLayout} {entries : List (Option Document)}
    (hlength : entries.length = fields.length) : AllAlike limit fields entries entries := by
  induction fields generalizing entries with
  | nil =>
    rw [List.eq_nil_of_length_eq_zero hlength]
    exact .nil
  | cons field rest ih =>
    cases entries with
    | nil => cases hlength
    | cons entry entries => exact .cons (.refl entry) (ih (Nat.succ.inj hlength))

theorem middle {fields : List FieldLayout} {front back : List (Option Document)}
    {b a : Option Document} (hlength : (front ++ b :: back).length = fields.length)
    (hfield : fields[front.length]? = some field) (h : field.Alike limit b a) :
    AllAlike limit fields (front ++ b :: back) (front ++ a :: back) := by
  induction front generalizing fields with
  | nil =>
    cases fields with
    | nil => cases hlength
    | cons other rest =>
      cases hfield
      exact .cons h (refl (Nat.succ.inj hlength))
  | cons entry front ih =>
    cases fields with
    | nil => cases hlength
    | cons other rest => exact .cons (.refl entry) (ih (Nat.succ.inj hlength) hfield)

end AllAlike

namespace Kind.Legible

variable {frame : Document → Document} {before after : Document}

theorem exists_part (hkind : kind.Legible limit) (hframe : Frame kind inner frame)
    {record : kind.Record} (h : kind.read? limit (frame before) = some record) :
    ∃ part, inner.read? limit before = some part := by
  cases hframe with
  | member hfield hparts =>
    obtain ⟨honce, hholds⟩ := hkind.object h
    obtain ⟨hlookup, -⟩ := Document.lookup_middle (honce _ hfield)
    apply (hholds _ hfield).readable inner hparts _ hlookup
    exact List.mem_append_right _ List.mem_cons_self
  | item hfield hparts =>
    obtain ⟨entries, hentries, hholds⟩ := hkind.holds h
    obtain ⟨last, rfl, -⟩ := Document.fields?_array_middle hentries
    obtain ⟨entry, hentry, hholds⟩ := forall₂_getElem? hholds hfield
    simp only [List.getElem?_append_right, List.length_map, Nat.le_refl, Nat.sub_self,
      List.getElem?_cons_zero, Option.some.injEq] at hentry
    apply hholds.readable inner hparts _ hentry.symm
    exact List.mem_append_right _ List.mem_cons_self

theorem frame_congr (hkind : kind.Legible limit) (hframe : Frame kind inner frame)
    {record : kind.Record} (h : kind.read? limit (frame before) = some record)
    (hpart : inner.read? limit before = inner.read? limit after) :
    kind.read? limit (frame before) = kind.read? limit (frame after) := by
  cases hframe with
  | @member field hfield hparts first last front back =>
    obtain ⟨honce, -⟩ := hkind.object h
    -- The names are the same, so none of them comes twice now; only the entry of `field` changes.
    have hstill : ∀ other ∈ kind.fields, (first ++ (field.name, .array (front ++ after :: back))
        :: last).countP (·.1 == other.name) ≤ 1 := by
      intro other hother
      have hcount := honce other hother
      simp only [List.countP_append, List.countP_cons] at hcount ⊢
      exact hcount
    apply hkind.object_congr honce hstill
    · intro other hother
      by_cases hname : other.name = field.name
      · obtain rfl := Kind.field_eq hother hfield hname
        obtain ⟨hbefore, -⟩ := Document.lookup_middle (honce other hother)
        obtain ⟨hafter, -⟩ := Document.lookup_middle (hstill other hother)
        rw [hbefore, hafter]
        exact .parts hparts (forall₂_middle hpart)
      · rw [Document.lookup_middle_ne hname, Document.lookup_middle_ne hname]
        exact .refl _
  | @item field first hfield hparts last front back =>
    obtain ⟨entries, hentries, -⟩ := hkind.holds h
    have hlength := Document.length_of_fields? hentries
    obtain ⟨rest, rfl, hchanged⟩ := Document.fields?_array_middle hentries
    apply hkind.congr hentries (hchanged _)
    apply AllAlike.middle (hlength.trans (List.length_map _))
    · rw [List.length_map]
      exact hfield
    · exact .parts hparts (forall₂_middle hpart)

end Kind.Legible

namespace Within

variable {before after : Document}

/-- Wherever one record is written in another form, the same is read. By induction on the way to
that record: what was read around it shows that it was read itself. -/
theorem restates (hlimit : limit ≠ some 0) (h : Within Restates kind before after)
    {record : kind.Record} (hrecord : kind.read? limit before = some record) :
    kind.read? limit after = some record := by
  induction h with
  | @here kind before after h => exact (kind.legible hlimit).restates h hrecord
  | @inside kind inner frame before after hframe _ ih =>
    have hkind := kind.legible hlimit
    obtain ⟨part, hpart⟩ := hkind.exists_part hframe hrecord
    have hsame : inner.read? limit before = inner.read? limit after := by rw [hpart, ih hpart]
    rw [← hkind.frame_congr hframe hrecord hsame]
    exact hrecord

theorem lacks (hlimit : limit ≠ some 0) (h : Within Lacks kind before after)
    {record : kind.Record} (hrecord : kind.read? limit before = some record) :
    kind.read? limit after = none := by
  induction h with
  | @here kind before after h => exact (kind.legible hlimit).lacks h hrecord
  | @inside kind inner frame before after hframe _ ih =>
    have hkind := kind.legible hlimit
    obtain ⟨part, hpart⟩ := hkind.exists_part hframe hrecord
    apply Option.eq_none_iff_forall_ne_some.2
    intro other hother
    -- If anything were read around the record that lacks the member, that one would be read, too.
    obtain ⟨part, hafter⟩ := hkind.exists_part hframe hother
    rw [ih hpart] at hafter
    cases hafter

end Within

structure ReadsByMeaning (kind : Kind) {α : Type} (read : Document → Option α) : Prop where
  restated : ∀ {before after : Document} {record : α}, read before = some record →
    Relation.ReflTransGen (Within Restates kind) before after → read after = some record
  lacking : ∀ {before after : Document} {record : α}, read before = some record →
    Within Lacks kind before after → read after = none

theorem Kind.readsByMeaning (kind : Kind) (hlimit : limit ≠ some 0) :
    ReadsByMeaning kind (kind.read? limit) := by
  constructor
  case restated =>
    intro before after record hrecord hsteps
    induction hsteps with
    | refl => exact hrecord
    | tail _ hstep ih => exact hstep.restates hlimit ih
  case lacking =>
    intro before after record hrecord h
    exact h.lacks hlimit hrecord

theorem Entity.null_context {before after : List (String × Document)} {entity : Entity}
    (h : ofDocumentWithin? limit (.object (before ++ ("context", .null) :: after)) = some entity) :
    entity.context = .null ∧
      ofDocumentWithin? limit (.object (before ++ after)) =
        some { entity with context := .object [] } := by
  unfold ofDocumentWithin? at h
  split at h
  · rename_i hfields
    obtain ⟨honce, hentries⟩ := Document.fields?_object_eq_some.1 hfields
    obtain ⟨hlookup, hgone⟩ := Document.lookup_middle (honce "context" (by decide))
    simp only [List.map_cons, List.map_nil, hlookup] at hentries
    cases hentries
    rw [Document.lookup_middle_ne (by decide), Document.lookup_middle_ne (by decide)] at h
    have hafter : Document.fields? ["id", "context", "bucketKey"] (.object (before ++ after)) = some
        [List.lookup "id" (before ++ after), none, List.lookup "bucketKey" (before ++ after)] := by
      refine Document.fields?_object_eq_some.2 ⟨?_, ?_⟩
      · intro name hname
        exact Nat.le_trans Document.countP_removed_le (honce name hname)
      · rw [List.map_cons, List.map_cons, Document.lookup_eq_none hgone]
        rfl
    obtain ⟨id, hid, h⟩ := Option.bind_eq_some_iff.1 h
    obtain ⟨context, hcontext, h⟩ := Option.bind_eq_some_iff.1 h
    obtain ⟨bucketKey, hbucketKey, h⟩ := Option.bind_eq_some_iff.1 h
    cases h
    cases hcontext
    refine ⟨rfl, ?_⟩
    simp only [ofDocumentWithin?, hafter, hid, hbucketKey]
    rfl
  · cases h

theorem FlagDefinition.ofDocumentWithin?_bare (id : UInt64) (enabled : Bool) :
    ofDocumentWithin? limit
        (.object [("id", .number (.int id.toNat)), ("enabled", .bool enabled)]) =
      some ⟨id, "", "", enabled, [], []⟩ := by
  have hid : Document.asUInt64? (.number (.int id.toNat)) = some id := Document.asUInt64?_ofNat id
  have hfields : Document.fields? ["id", "key", "description", "enabled", "segments", "variants"]
      (.object [("id", .number (.int id.toNat)), ("enabled", .bool enabled)]) =
        some [some (.number (.int id.toNat)), none, none, some (.bool enabled), none, none] := rfl
  simp only [ofDocumentWithin?, hfields, Document.required_some, hid]
  rfl

theorem Entity.ofDocumentWithin?_bare (id : String) :
    ofDocumentWithin? limit (.object [("id", .string id)]) = some ⟨id, .object [], none⟩ := rfl

/-- Flags and entities are read by what a document says, whatever the limit is, as long as it leaves
room for an empty context; the readers of texts and of JSON values are instances. The members that
have to be there are enough. -/
theorem decoding_by_meaning (hlimit : limit ≠ some 0) :
    ReadsByMeaning .flag (FlagDefinition.ofDocumentWithin? limit) ∧
    ReadsByMeaning .entity (Entity.ofDocumentWithin? limit) ∧
    (∀ (before after : List (String × Document)) (entity : Entity),
      Entity.ofDocumentWithin? limit (.object (before ++ ("context", .null) :: after)) =
        some entity →
      entity.context = .null ∧
      Entity.ofDocumentWithin? limit (.object (before ++ after)) =
        some { entity with context := .object [] }) ∧
    (∀ id enabled, FlagDefinition.ofDocumentWithin? limit
        (.object [("id", .number (.int id.toNat)), ("enabled", .bool enabled)]) =
      some ⟨id, "", "", enabled, [], []⟩) ∧
    ∀ id, Entity.ofDocumentWithin? limit (.object [("id", .string id)]) =
      some ⟨id, .object [], none⟩ := by
  refine ⟨Kind.flag.readsByMeaning hlimit, Kind.entity.readsByMeaning hlimit, ?_,
    FlagDefinition.ofDocumentWithin?_bare, Entity.ofDocumentWithin?_bare⟩
  intro before after entity h
  exact Entity.null_context h

def rankedSegments : Document :=
  .array [.object [
    ("id", .number (.int 1)), ("rank", .number (.int 999)), ("rolloutPercent", .number (.int 50))]]

def spelledOut : Document :=
  .object [("id", .number (.int 7)), ("enabled", .bool true), ("segments", rankedSegments)]

def rewritten : Document :=
  .array [
    .number (.int 7), .string "", .string "", .bool true,
    .array [.object [("id", .number (.int 1)), ("rolloutPercent", .number (.int 50))]],
    .array []]

theorem decoding_by_meaning_rewritten :
    ∃ flag, FlagDefinition.ofDocument? spelledOut = some flag ∧
      FlagDefinition.ofDocument? rewritten = some flag ∧
      FlagDefinition.ofDocument?
        (.object [("id", .number (.int 7)), ("segments", rankedSegments)]) = none := by
  have hlimit : some Variant.attachmentLevels ≠ some 0 := by decide
  obtain ⟨hreads, -⟩ := decoding_by_meaning hlimit
  have hsome : (FlagDefinition.ofDocument? spelledOut).isSome := by decide +kernel
  obtain ⟨flag, hflag⟩ := Option.isSome_iff_exists.1 hsome
  have hsegments : { name := "segments", default := some (.array []), parts := some .segment } ∈
      Kind.flag.fields := by simp [Kind.fields]
  have hrank : { name := "rank", default := some (.number (.int 999)) } ∈ Kind.segment.fields := by
    simp [Kind.fields]
  have henabled : { name := "enabled" } ∈ Kind.flag.fields := by simp [Kind.fields]
  have hshorter : Restates .segment
      (.object [("id", .number (.int 1)), ("rank", .number (.int 999)),
        ("rolloutPercent", .number (.int 50))])
      (.object [("id", .number (.int 1)), ("rolloutPercent", .number (.int 50))]) :=
    .shortened hrank rfl [("id", .number (.int 1))] [("rolloutPercent", .number (.int 50))]
  have hinside := Within.inside (.member hsegments rfl
    [("id", .number (.int 7)), ("enabled", .bool true)] [] [] []) (.here hshorter)
  have hlacks : Lacks .flag spelledOut
      (.object [("id", .number (.int 7)), ("segments", rankedSegments)]) :=
    .intro henabled rfl (.bool true) [("id", .number (.int 7))] [("segments", rankedSegments)]
  refine ⟨flag, hflag, hreads.restated hflag ?_, hreads.lacking hflag (.here hlacks)⟩
  exact .tail (.single hinside) (.here (.listed rfl))

end FeatureFlags
