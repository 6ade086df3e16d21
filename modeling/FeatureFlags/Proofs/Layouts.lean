import Mathlib.Data.List.Forall2
import Mathlib.Data.List.Nodup
import FeatureFlags.Context
import FeatureFlags.Definition
import FeatureFlags.Proofs.Records

/-! # The layouts of records

A flag is a record that lists records; an entity is a record too. A layout names the fields of such
a record in declared order, says which of them may be missing and what counts for them then, and
which list records themselves. What is read of a record depends only on what its layout tells
apart. -/

namespace FeatureFlags

inductive Kind where
  | flag
  | segment
  | constraint
  | distribution
  | variant
  | entity

structure FieldLayout where
  name : String
  /-- What a missing field counts as. Without it the field has to be there. -/
  default : Option Document := none
  parts : Option Kind := none

namespace Kind

def fields : Kind → List FieldLayout
  | flag => [
    { name := "id" },
    { name := "key", default := some (.string "") },
    { name := "description", default := some (.string "") },
    { name := "enabled" },
    { name := "segments", default := some (.array []), parts := some segment },
    { name := "variants", default := some (.array []), parts := some variant }]
  | segment => [
    { name := "id" },
    { name := "description", default := some (.string "") },
    { name := "rank", default := some (.number (.int 999)) },
    { name := "rolloutPercent" },
    { name := "constraints", default := some (.array []), parts := some constraint },
    { name := "distributions", default := some (.array []), parts := some distribution }]
  | constraint => [
    { name := "id", default := some (.number (.int 0)) },
    { name := "property" },
    { name := "operator" },
    { name := "value" }]
  | distribution => [
    { name := "id", default := some (.number (.int 0)) },
    { name := "variantId" },
    { name := "variantKey", default := some (.string "") },
    { name := "percent" }]
  | variant => [
    { name := "id" },
    { name := "key" },
    { name := "attachment", default := some .null }]
  | entity => [
    { name := "id" },
    { name := "context", default := some (.object []) },
    { name := "bucketKey", default := some .null }]

def names (kind : Kind) : List String := kind.fields.map (·.name)

abbrev Record : Kind → Type
  | flag => FlagDefinition
  | segment => SegmentDefinition
  | constraint => ConstraintDefinition
  | distribution => Distribution
  | variant => Variant
  | entity => Entity

def read? (limit : Option Nat) : (kind : Kind) → Document → Option kind.Record
  | flag => FlagDefinition.ofDocumentWithin? limit
  | segment => SegmentDefinition.ofDocument?
  | constraint => ConstraintDefinition.ofDocument?
  | distribution => Distribution.ofDocument?
  | variant => Variant.ofDocumentWithin? limit
  | entity => Entity.ofDocumentWithin? limit

theorem nodup_names (kind : Kind) : kind.names.Nodup := by
  cases kind <;> decide

theorem field_eq {kind : Kind} {field other : FieldLayout} (hfield : field ∈ kind.fields)
    (hother : other ∈ kind.fields) (hname : field.name = other.name) : field = other :=
  List.inj_on_of_nodup_map kind.nodup_names hfield hother hname

end Kind

variable {limit : Option Nat} {α : Type}

/-- Two entries for a field that come to the same: equal ones, with the default in place of none, or
two lists of records of which each two are read alike. -/
inductive FieldLayout.Alike (limit : Option Nat) (field : FieldLayout) :
    Option Document → Option Document → Prop
  | filled {before after : Option Document}
      (h : before.or field.default = after.or field.default) : field.Alike limit before after
  | parts {kind : Kind} {before after : List Document} (h : field.parts = some kind)
      (hparts : List.Forall₂ (fun b a => kind.read? limit b = kind.read? limit a) before after) :
      field.Alike limit (some (.array before)) (some (.array after))

theorem FieldLayout.Alike.refl {field : FieldLayout} (entry : Option Document) :
    field.Alike limit entry entry := .filled rfl

structure FieldLayout.Holds (limit : Option Nat) (field : FieldLayout) (entry : Option Document) :
    Prop where
  present : field.default = none → entry ≠ none
  readable : ∀ kind, field.parts = some kind → ∀ parts, entry = some (.array parts) →
    ∀ part ∈ parts, ∃ record, kind.read? limit part = some record

structure FieldLayout.ReadBy (limit : Option Nat) (field : FieldLayout)
    (read : Option Document → Option α) : Prop where
  congr : ∀ {before after : Option Document}, field.Alike limit before after →
    read before = read after
  holds : ∀ {entry : Option Document} {a : α}, read entry = some a → field.Holds limit entry

namespace FieldLayout

theorem readBy_required (name : String) (read : Document → Option α) :
    ReadBy limit { name } (Document.required read) where
  congr h := by
    cases h with
    | filled h =>
      rw [Option.or_none, Option.or_none] at h
      rw [h]
    | parts h => cases h
  holds h := by
    constructor
    case present =>
      rintro - rfl
      cases h
    case readable => nofun

theorem orDefault_eq_bind {default : Document} {value : α} {read : Document → Option α}
    (hread : read default = some value) (entry : Option Document) :
    Document.orDefault value read entry = (entry.or (some default)).bind read := by
  cases entry with
  | none => exact hread.symm
  | some part => rfl

theorem readBy_orDefault (name : String) {default : Document} {value : α}
    {read : Document → Option α} (hread : read default = some value) :
    ReadBy limit { name, default } (Document.orDefault value read) where
  congr h := by
    cases h with
    | filled h => rw [orDefault_eq_bind hread, orDefault_eq_bind hread, h]
    | parts h => cases h
  holds _ := by
    constructor <;> nofun

theorem readBy_optional (name : String) (read : Document → Option α) :
    ReadBy limit { name, default := some .null } (Document.optional read) where
  congr h := by
    have hnull : ∀ entry, Document.optional read entry =
        Document.optional read (entry.or (some .null)) := by
      intro entry
      cases entry <;> rfl
    cases h with
    | filled h => rw [hnull, h, ← hnull]
    | parts h => cases h
  holds _ := by
    constructor <;> nofun

theorem mapM_eq_of_forall₂ {read : Document → Option α} {before after : List Document}
    (h : List.Forall₂ (fun b a => read b = read a) before after) :
    before.mapM read = after.mapM read := by
  induction h with
  | nil => rfl
  | cons hhead _ ih => rw [List.mapM_cons, List.mapM_cons, hhead, ih]

theorem exists_of_mapM {read : Document → Option α} {parts : List Document} {records : List α}
    (h : parts.mapM read = some records) : ∀ part ∈ parts, ∃ record, read part = some record := by
  induction parts generalizing records with
  | nil => exact List.forall_mem_nil _
  | cons part rest ih =>
    rw [List.mapM_cons] at h
    obtain ⟨record, hrecord, h⟩ := Option.bind_eq_some_iff.1 h
    obtain ⟨others, hothers, -⟩ := Option.bind_eq_some_iff.1 h
    exact List.forall_mem_cons.2 ⟨⟨record, hrecord⟩, ih hothers⟩

theorem readBy_list (name : String) (kind : Kind) :
    ReadBy limit { name, default := some (.array []), parts := some kind }
      (Document.orDefault [] (Document.asList? (kind.read? limit))) where
  congr h := by
    have hnone : Document.asList? (kind.read? limit) (.array []) = some [] := rfl
    cases h with
    | filled h => rw [orDefault_eq_bind hnone, orDefault_eq_bind hnone, h]
    | parts h hparts =>
      cases h
      exact mapM_eq_of_forall₂ hparts
  holds h := by
    constructor
    case present => nofun
    case readable =>
      rintro _ ⟨⟩ parts rfl
      exact exists_of_mapM h

end FieldLayout

inductive AllAlike (limit : Option Nat) :
    List FieldLayout → List (Option Document) → List (Option Document) → Prop
  | nil : AllAlike limit [] [] []
  | cons {field : FieldLayout} {fields : List FieldLayout} {b a : Option Document}
      {before after : List (Option Document)} (hhead : field.Alike limit b a)
      (hrest : AllAlike limit fields before after) :
      AllAlike limit (field :: fields) (b :: before) (a :: after)

theorem AllAlike.map {fields : List FieldLayout} {before after : FieldLayout → Option Document}
    (h : ∀ field ∈ fields, field.Alike limit (before field) (after field)) :
    AllAlike limit fields (fields.map before) (fields.map after) := by
  induction fields with
  | nil => exact .nil
  | cons field rest ih =>
    obtain ⟨hfield, hrest⟩ := List.forall_mem_cons.1 h
    exact .cons hfield (ih hrest)

/-- The fields are read one after the other, each by a reader that takes it for what its layout
says, and what they come to is put together. -/
inductive ReadInTurn (limit : Option Nat) :
    List FieldLayout → (List (Option Document) → Option α) → Prop
  | done (a : α) : ReadInTurn limit [] fun _ => some a
  | next {β : Type} {field : FieldLayout} {fields : List FieldLayout}
      {read : Option Document → Option β} {rest : β → List (Option Document) → Option α}
      (hread : field.ReadBy limit read) (hrest : ∀ b, ReadInTurn limit fields (rest b)) :
      ReadInTurn limit (field :: fields) fun entries =>
        (read entries.head?.join).bind fun b => rest b entries.tail

namespace ReadInTurn

variable {fields : List FieldLayout} {read : List (Option Document) → Option α}

theorem congr (h : ReadInTurn limit fields read) {before after : List (Option Document)}
    (halike : AllAlike limit fields before after) : read before = read after := by
  induction h generalizing before after with
  | done a => rfl
  | @next β field fields read rest hread hrest ih =>
    obtain _ | ⟨hhead, hrest⟩ := halike
    rename_i b a before after
    change (read b).bind (fun b => rest b before) = (read a).bind (fun b => rest b after)
    rw [hread.congr hhead]
    congr 1
    funext b
    exact ih b hrest

theorem holds (h : ReadInTurn limit fields read) {entries : List (Option Document)}
    (hlength : entries.length = fields.length) {a : α} (ha : read entries = some a) :
    List.Forall₂ (fun field entry => field.Holds limit entry) fields entries := by
  induction h generalizing entries with
  | done _ =>
    rw [List.eq_nil_of_length_eq_zero hlength]
    exact .nil
  | @next β field fields read rest hread hrest ih =>
    cases entries with
    | nil => cases hlength
    | cons entry entries =>
      obtain ⟨b, hb, ha⟩ := Option.bind_eq_some_iff.1 ha
      exact .cons (hread.holds hb) (ih b (Nat.succ.inj hlength) ha)

end ReadInTurn

structure Kind.Legible (limit : Option Nat) (kind : Kind) : Prop where
  congr : ∀ {before after : Document} {entries changed : List (Option Document)},
    before.fields? kind.names = some entries → after.fields? kind.names = some changed →
    AllAlike limit kind.fields entries changed → kind.read? limit before = kind.read? limit after
  holds : ∀ {document : Document} {record : kind.Record}, kind.read? limit document = some record →
    ∃ entries, document.fields? kind.names = some entries ∧
      List.Forall₂ (fun field entry => field.Holds limit entry) kind.fields entries

namespace Document

theorem length_of_fields? {names : List String} {document : Document}
    {entries : List (Option Document)} (h : document.fields? names = some entries) :
    entries.length = names.length := by
  unfold fields? at h
  split at h
  · split at h
    · cases h
    · cases h
      exact List.length_map _
  · split at h
    · cases h
      simp only [List.length_append, List.length_map, List.length_replicate]
      omega
    · cases h
  · cases h

theorem asUInt64?_zero : asUInt64? (.number (.int 0)) = some 0 := by rfl

theorem asUInt32?_defaultRank :
    asUInt32? (.number (.int 999)) = some SegmentDefinition.defaultRank := by rfl

theorem asString?_empty : asString? (.string "") = some "" := rfl

end Document

theorem Value.ofDocument?_empty (hlimit : limit ≠ some 0) :
    ofDocument? limit (.object []) = some (.object []) := by
  match limit, hlimit with
  | none, _ => rfl
  | some (_ + 1), _ => rfl

namespace Kind

theorem legible_of_readInTurn {kind : Kind} {read : List (Option Document) → Option kind.Record}
    (h : ReadInTurn limit kind.fields read)
    (hread : ∀ document : Document,
      kind.read? limit document = (document.fields? kind.names).bind read) :
    kind.Legible limit := by
  constructor
  case congr =>
    intro before after entries changed hbefore hafter halike
    rw [hread, hread, hbefore, hafter, Option.bind_some, Option.bind_some, h.congr halike]
  case holds =>
    intro document record hrecord
    rw [hread] at hrecord
    obtain ⟨entries, hentries, hrecord⟩ := Option.bind_eq_some_iff.1 hrecord
    have hlength := (Document.length_of_fields? hentries).trans (List.length_map _)
    exact ⟨entries, hentries, h.holds hlength hrecord⟩

open Document FieldLayout

theorem legible_variant : variant.Legible limit := by
  refine legible_of_readInTurn
    (.next (readBy_required "id" asUInt64?) fun id =>
      .next (readBy_required "key" asString?) fun key =>
      .next (readBy_optional "attachment" (value? limit)) fun attachment =>
      .done { id, key, attachment }) ?_
  intro document
  simp only [read?, Variant.ofDocumentWithin?]
  change _ = (fields? ["id", "key", "attachment"] document).bind _
  cases h : fields? ["id", "key", "attachment"] document with
  | none => rfl
  | some entries =>
    match entries, length_of_fields? h with
    | [_, _, _], _ => rfl

theorem legible_distribution : distribution.Legible limit := by
  refine legible_of_readInTurn
    (.next (readBy_orDefault "id" asUInt64?_zero) fun id =>
      .next (readBy_required "variantId" asUInt64?) fun variantId =>
      .next (readBy_orDefault "variantKey" asString?_empty) fun variantKey =>
      .next (readBy_required "percent" asBinary64?) fun percent =>
      .done { id, variantId, variantKey, percent }) ?_
  intro document
  simp only [read?, Distribution.ofDocument?]
  change _ = (fields? ["id", "variantId", "variantKey", "percent"] document).bind _
  cases h : fields? ["id", "variantId", "variantKey", "percent"] document with
  | none => rfl
  | some entries =>
    match entries, length_of_fields? h with
    | [_, _, _, _], _ => rfl

theorem legible_constraint : constraint.Legible limit := by
  refine legible_of_readInTurn
    (.next (readBy_orDefault "id" asUInt64?_zero) fun id =>
      .next (readBy_required "property" asString?) fun property =>
      .next (readBy_required "operator" asString?) fun operator =>
      .next (readBy_required "value" asString?) fun value =>
      .done { id, property, operator, value }) ?_
  intro document
  simp only [read?, ConstraintDefinition.ofDocument?]
  change _ = (fields? ["id", "property", "operator", "value"] document).bind _
  cases h : fields? ["id", "property", "operator", "value"] document with
  | none => rfl
  | some entries =>
    match entries, length_of_fields? h with
    | [_, _, _, _], _ => rfl

theorem legible_segment : segment.Legible limit := by
  refine legible_of_readInTurn
    (.next (readBy_required "id" asUInt64?) fun id =>
      .next (readBy_orDefault "description" asString?_empty) fun description =>
      .next (readBy_orDefault "rank" asUInt32?_defaultRank) fun rank =>
      .next (readBy_required "rolloutPercent" asBinary64?) fun rolloutPercent =>
      .next (readBy_list "constraints" constraint) fun constraints =>
      .next (readBy_list "distributions" distribution) fun distributions =>
      .done { id, description, rank, rolloutPercent, constraints, distributions }) ?_
  intro document
  simp only [read?, SegmentDefinition.ofDocument?]
  change _ = (fields? ["id", "description", "rank", "rolloutPercent", "constraints",
    "distributions"] document).bind _
  cases h : fields? ["id", "description", "rank", "rolloutPercent", "constraints",
    "distributions"] document with
  | none => rfl
  | some entries =>
    match entries, length_of_fields? h with
    | [_, _, _, _, _, _], _ => rfl

theorem legible_flag : flag.Legible limit := by
  refine legible_of_readInTurn
    (.next (readBy_required "id" asUInt64?) fun id =>
      .next (readBy_orDefault "key" asString?_empty) fun key =>
      .next (readBy_orDefault "description" asString?_empty) fun description =>
      .next (readBy_required "enabled" asBool?) fun enabled =>
      .next (readBy_list "segments" segment) fun segments =>
      .next (readBy_list "variants" variant) fun variants =>
      .done { id, key, description, enabled, segments, variants }) ?_
  intro document
  simp only [read?, FlagDefinition.ofDocumentWithin?]
  change _ = (fields? ["id", "key", "description", "enabled", "segments", "variants"]
    document).bind _
  cases h : fields? ["id", "key", "description", "enabled", "segments", "variants"] document with
  | none => rfl
  | some entries =>
    match entries, length_of_fields? h with
    | [_, _, _, _, _, _], _ => rfl

theorem legible_entity (hlimit : limit ≠ some 0) : entity.Legible limit := by
  refine legible_of_readInTurn
    (.next (readBy_required "id" asString?) fun id =>
      .next (readBy_orDefault "context" (Value.ofDocument?_empty hlimit)) fun context =>
      .next (readBy_optional "bucketKey" asString?) fun bucketKey =>
      .done { id, context, bucketKey }) ?_
  intro document
  simp only [read?, Entity.ofDocumentWithin?]
  change _ = (fields? ["id", "context", "bucketKey"] document).bind _
  cases h : fields? ["id", "context", "bucketKey"] document with
  | none => rfl
  | some entries =>
    match entries, length_of_fields? h with
    | [_, _, _], _ => rfl

/-- Every reader takes its records for what their layout says. -/
theorem legible (hlimit : limit ≠ some 0) (kind : Kind) : kind.Legible limit := by
  cases kind with
  | flag => exact legible_flag
  | segment => exact legible_segment
  | constraint => exact legible_constraint
  | distribution => exact legible_distribution
  | variant => exact legible_variant
  | entity => exact legible_entity hlimit

end Kind

end FeatureFlags
