import FeatureFlags.Context
import FeatureFlags.Definition
import FeatureFlags.Proofs.Records

/-! # Flags and entities written and read again

Every record that JSON can represent is read again as it was written. What is read of a document can
always be represented: its percents are finite, and an attachment is never `null`. A number of a
context that is not finite has no literal, so what comes back in its place is `null`. -/

namespace FeatureFlags.Value

inductive AllFinite : Value → Prop
  | null : AllFinite .null
  | boolean (b : Bool) : AllFinite (.boolean b)
  | number {x : Binary64} (h : x.isFinite = true) : AllFinite (.number x)
  | string (s : String) : AllFinite (.string s)
  | array {items : List Value} (h : ∀ item ∈ items, AllFinite item) : AllFinite (.array items)
  | object {members : Context} (h : ∀ member ∈ members, AllFinite member.2) :
      AllFinite (.object members)

inductive Ordered : Value → Prop
  | null : Ordered .null
  | boolean (b : Bool) : Ordered (.boolean b)
  | number (x : Binary64) : Ordered (.number x)
  | string (s : String) : Ordered (.string s)
  | array {items : List Value} (h : ∀ item ∈ items, Ordered item) : Ordered (.array items)
  | object {members : Context} (hordered : Members.Ordered members)
      (h : ∀ member ∈ members, Ordered member.2) : Ordered (.object members)

def Reread (value : Value) : Prop := ofDocument? none (.ofJson value.toJson) = some value

theorem ofDocumentItems?_toItems {items : List Value} (h : ∀ item ∈ items, Reread item) :
    ofDocumentItems? none (Document.ofItems (toItems items)) = some items := by
  induction items with
  | nil => rfl
  | cons item rest ih =>
    obtain ⟨hitem, hrest⟩ := List.forall_mem_cons.1 h
    unfold Reread at hitem
    simp [toItems, Document.ofItems, ofDocumentItems?, hitem, ih hrest]

theorem ofDocumentMembers?_toMembers {members : List (String × Value)}
    (h : ∀ member ∈ members, Reread member.2) :
    ofDocumentMembers? none (Document.ofMembers (toMembers members)) = some members := by
  induction members with
  | nil => rfl
  | cons member rest ih =>
    obtain ⟨hmember, hrest⟩ := List.forall_mem_cons.1 h
    unfold Reread at hmember
    simp [toMembers, Document.ofMembers, ofDocumentMembers?, hmember, ih hrest]

/-- By induction on the order of the objects, since it goes down to the items and members. -/
theorem reread {value : Value} (hordered : value.Ordered) (hfinite : value.AllFinite) :
    value.Reread := by
  induction hordered with
  | null => rfl
  | boolean => rfl
  | number x =>
    cases hfinite with
    | number hx => simp [Reread, toJson, Json.ofBinary64, hx, Document.ofJson, ofDocument?,
        Number.toBinary64]
  | string => rfl
  | array _ ih =>
    cases hfinite with
    | array hitems =>
      have hread := ofDocumentItems?_toItems fun item hmem => ih item hmem (hitems item hmem)
      simp [Reread, toJson, Document.ofJson, ofDocument?, Document.innerLimit?, hread]
  | object hmembers _ ih =>
    cases hfinite with
    | object hvalues =>
      have hread := ofDocumentMembers?_toMembers fun member hmem =>
        ih member hmem (hvalues member hmem)
      simp [Reread, toJson, Document.ofJson, ofDocument?, Document.innerLimit?, hread,
        Members.ofList_of_ordered hmembers]

end FeatureFlags.Value

namespace FeatureFlags

open Document

variable {limit : Option Nat} {document : Document}

structure Distribution.Representable (distribution : Distribution) : Prop where
  percent : distribution.percent.isFinite = true

structure SegmentDefinition.Representable (segment : SegmentDefinition) : Prop where
  rolloutPercent : segment.rolloutPercent.isFinite = true
  distributions : ∀ distribution ∈ segment.distributions, distribution.Representable

/-- The attachment `null` would be read as a missing one. -/
structure Variant.Representable (variant : Variant) : Prop where
  attachment : ∀ json ∈ variant.attachment, json ≠ .null ∧ Canonical json

structure FlagDefinition.Representable (flag : FlagDefinition) : Prop where
  segments : ∀ segment ∈ flag.segments, segment.Representable
  variants : ∀ variant ∈ flag.variants, variant.Representable

theorem isFinite_of_required {field : Option Document} (hfield : ∀ part ∈ field, part.WellFormed)
    {x : Binary64} (h : required asBinary64? field = some x) : x.isFinite = true := by
  obtain ⟨part, hpart, hread⟩ := exists_of_required h
  exact isFinite_of_asBinary64? (hfield part hpart) hread

theorem forall_of_orDefault {α : Type} {read : Document → Option α} {P : α → Prop}
    (hread : ∀ item a, item.WellFormed → read item = some a → P a)
    {field : Option Document} (hfield : ∀ part ∈ field, part.WellFormed) {items : List α}
    (h : orDefault [] (asList? read) field = some items) : ∀ a ∈ items, P a := by
  refine of_orDefault (P := fun items => ∀ a ∈ items, P a) (List.forall_mem_nil _) ?_ h
  intro part hpart items hitems
  exact forall_of_asList? hread (hfield part hpart) hitems

theorem Distribution.representable_of_ofDocument? {distribution : Distribution}
    (hdocument : document.WellFormed) (h : ofDocument? document = some distribution) :
    distribution.Representable := by
  unfold ofDocument? at h
  split at h
  · rename_i id variantId variantKey percent hfields
    have hparts := wellFormed_of_fields? hdocument hfields
    simp only [Option.bind_eq_bind, Option.bind_eq_some_iff, Option.some.injEq] at h
    obtain ⟨_, -, _, -, _, -, x, hpercent, rfl⟩ := h
    exact ⟨isFinite_of_required (hparts percent (by simp)) hpercent⟩
  · cases h

theorem SegmentDefinition.representable_of_ofDocument? {segment : SegmentDefinition}
    (hdocument : document.WellFormed) (h : ofDocument? document = some segment) :
    segment.Representable := by
  unfold ofDocument? at h
  split at h
  · rename_i id description rank rolloutPercent constraints distributions hfields
    have hparts := wellFormed_of_fields? hdocument hfields
    simp only [Option.bind_eq_bind, Option.bind_eq_some_iff, Option.some.injEq] at h
    obtain ⟨_, -, _, -, _, -, x, hrollout, _, -, shares, hshares, rfl⟩ := h
    refine ⟨isFinite_of_required (hparts rolloutPercent (by simp)) hrollout, ?_⟩
    refine forall_of_orDefault ?_ (hparts distributions (by simp)) hshares
    intro item distribution hitem hread
    exact Distribution.representable_of_ofDocument? hitem hread
  · cases h

theorem Variant.representable_of_ofDocumentWithin? {variant : Variant}
    (h : ofDocumentWithin? limit document = some variant) : variant.Representable := by
  unfold ofDocumentWithin? at h
  split at h
  · simp only [Option.bind_eq_bind, Option.bind_eq_some_iff, Option.some.injEq] at h
    obtain ⟨_, -, _, -, attachment, hattachment, rfl⟩ := h
    refine ⟨?_⟩
    intro json hjson
    obtain ⟨part, -, hnull, hread⟩ := exists_of_optional hattachment hjson
    refine ⟨?_, canonical_of_value? hread⟩
    rintro rfl
    exact hnull (value?_eq_null hread)
  · cases h

theorem FlagDefinition.representable_of_ofDocumentWithin? {flag : FlagDefinition}
    (hdocument : document.WellFormed) (h : ofDocumentWithin? limit document = some flag) :
    flag.Representable := by
  unfold ofDocumentWithin? at h
  split at h
  · rename_i id key description enabled segments variants hfields
    have hparts := wellFormed_of_fields? hdocument hfields
    simp only [Option.bind_eq_bind, Option.bind_eq_some_iff, Option.some.injEq] at h
    obtain ⟨_, -, _, -, _, -, _, -, segments', hsegments, variants', hvariants, rfl⟩ := h
    constructor
    · refine forall_of_orDefault ?_ (hparts segments (by simp)) hsegments
      intro item segment hitem hread
      exact SegmentDefinition.representable_of_ofDocument? hitem hread
    · refine forall_of_orDefault ?_ (hparts variants (by simp)) hvariants
      intro item variant _ hread
      exact Variant.representable_of_ofDocumentWithin? hread
  · cases h

theorem ConstraintDefinition.ofDocument?_toJson (constraint : ConstraintDefinition) :
    ofDocument? (.ofJson constraint.toJson) = some constraint := by
  simp [ofDocument?, toJson, fields?_ofMembers, List.lookup_cons]

theorem Distribution.Representable.ofDocument?_toJson {distribution : Distribution}
    (h : distribution.Representable) :
    ofDocument? (.ofJson distribution.toJson) = some distribution := by
  have hpercent := asBinary64?_ofBinary64 h.percent
  simp [ofDocument?, toJson, fields?_ofMembers, List.lookup_cons, hpercent]

theorem SegmentDefinition.Representable.ofDocument?_toJson {segment : SegmentDefinition}
    (h : segment.Representable) : ofDocument? (.ofJson segment.toJson) = some segment := by
  have hrollout := asBinary64?_ofBinary64 h.rolloutPercent
  have hconstraints : asList? ConstraintDefinition.ofDocument?
      (.ofJson (.array (segment.constraints.map ConstraintDefinition.toJson))) =
        some segment.constraints :=
    asList?_map fun constraint _ => constraint.ofDocument?_toJson
  have hdistributions : asList? Distribution.ofDocument?
      (.ofJson (.array (segment.distributions.map Distribution.toJson))) =
        some segment.distributions :=
    asList?_map fun distribution hmem => (h.distributions distribution hmem).ofDocument?_toJson
  simp [ofDocument?, toJson, fields?_ofMembers, List.lookup_cons, hrollout, hconstraints,
    hdistributions]

theorem Variant.Representable.ofDocumentWithin?_toJson {variant : Variant}
    (h : variant.Representable) :
    ofDocumentWithin? none (.ofJson variant.toJson) = some variant := by
  obtain ⟨id, key, attachment⟩ := variant
  cases attachment with
  | none => simp [ofDocumentWithin?, toJson, fields?_ofMembers, List.lookup_cons]
  | some json =>
    obtain ⟨hnull, hcanonical⟩ := h.attachment json rfl
    have hread : optional (value? none) (some (.ofJson json)) = some (some json) := by
      rw [optional_some _ (mt ofJson_eq_null.1 hnull)]
      unfold Canonical at hcanonical
      rw [hcanonical, Option.map_some]
    simp [ofDocumentWithin?, toJson, fields?_ofMembers, List.lookup_cons, hread]

theorem FlagDefinition.Representable.ofJson?_toJson {flag : FlagDefinition}
    (h : flag.Representable) : ofJson? flag.toJson = some flag := by
  have hsegments : asList? SegmentDefinition.ofDocument?
      (.ofJson (.array (flag.segments.map SegmentDefinition.toJson))) = some flag.segments :=
    asList?_map fun segment hmem => (h.segments segment hmem).ofDocument?_toJson
  have hvariants : asList? (Variant.ofDocumentWithin? none)
      (.ofJson (.array (flag.variants.map Variant.toJson))) = some flag.variants :=
    asList?_map fun variant hmem => (h.variants variant hmem).ofDocumentWithin?_toJson
  simp [ofJson?, ofDocumentWithin?, toJson, fields?_ofMembers, List.lookup_cons, hsegments, hvariants]

theorem Entity.ofJson?_toJson {entity : Entity} (hordered : entity.context.Ordered)
    (hfinite : entity.context.AllFinite) : ofJson? entity.toJson = some entity := by
  obtain ⟨id, context, bucketKey⟩ := entity
  have hcontext : Value.ofDocument? none (.ofJson context.toJson) = some context :=
    Value.reread hordered hfinite
  cases bucketKey with
  | none => simp [ofJson?, ofDocumentWithin?, toJson, fields?_ofMembers, List.lookup_cons, hcontext]
  | some key =>
    simp [ofJson?, ofDocumentWithin?, toJson, fields?_ofMembers, List.lookup_cons, optional_some,
      hcontext]

theorem Entity.member?_bucketKey {entity : Entity} (h : entity.bucketKey = none) :
    entity.toJson.member? "bucketKey" = none := by
  simp [toJson, h, Json.ofMembers, Json.member?, Members.find?_ofList, List.lookup_cons]

theorem Entity.member?_context (entity : Entity) :
    entity.toJson.member? "context" = some entity.context.toJson := by
  obtain ⟨id, context, bucketKey⟩ := entity
  cases bucketKey <;>
    simp [toJson, Json.ofMembers, Json.member?, Members.find?_ofList, List.lookup_cons]

/-- How a flag can have come about by decoding: of a text, or of a JSON value whose numbers a text
can hold. -/
inductive FlagDefinition.Decoded (flag : FlagDefinition) : Prop
  | text {text : String} (h : (ofText? text).bind ofDocument? = some flag) : Decoded flag
  | value {json : Json} (hjson : (Document.ofJson json).WellFormed) (h : ofJson? json = some flag) :
      Decoded flag

theorem FlagDefinition.Decoded.representable {flag : FlagDefinition} (h : flag.Decoded) :
    flag.Representable := by
  cases h with
  | text h =>
    obtain ⟨document, hdocument, h⟩ := Option.bind_eq_some_iff.1 h
    exact representable_of_ofDocumentWithin? (wellFormed_ofText? hdocument) h
  | value hjson h => exact representable_of_ofDocumentWithin? hjson h

/-- A decoded flag, written and decoded again, is the same flag, and so is an entity without
infinite and undefined numbers in its context. The objects of a context are in key order, as those
that are read always are. A missing bucket key is left out, and a context that is `null` is written
as `null`. -/
theorem decoding_undoes_encoding :
    (∀ flag : FlagDefinition, flag.Decoded →
      FlagDefinition.ofJson? flag.toJson = some flag ∧
      (FlagDefinition.ofJson? flag.toJson).map FlagDefinition.toJson = some flag.toJson) ∧
    ∀ entity : Entity, entity.context.Ordered → entity.context.AllFinite →
      Entity.ofJson? entity.toJson = some entity ∧
      (Entity.ofJson? entity.toJson).map Entity.toJson = some entity.toJson ∧
      (entity.bucketKey = none → entity.toJson.member? "bucketKey" = none) ∧
      (entity.context = .null → entity.toJson.member? "context" = some .null) := by
  constructor
  · intro flag hdecoded
    have hagain := hdecoded.representable.ofJson?_toJson
    refine ⟨hagain, ?_⟩
    rw [hagain, Option.map_some]
  · intro entity hordered hfinite
    have hagain := Entity.ofJson?_toJson hordered hfinite
    refine ⟨hagain, ?_, Entity.member?_bucketKey, ?_⟩
    · rw [hagain, Option.map_some]
    · intro hnull
      rw [Entity.member?_context, hnull]
      rfl

def bannerText : String :=
  "\x7b\"id\":9,\"enabled\":true,\"segments\":[\x7b\"id\":1,\"rolloutPercent\":0.5\x7d]," ++
    "\"variants\":[[3,\"on\",\x7b\"width\":[2,null],\"color\":\"red\"\x7d]]\x7d"

def banner : FlagDefinition where
  id := 9
  key := ""
  description := ""
  enabled := true
  segments := [
    { id := 1, description := "", rank := 999, rolloutPercent := ⟨0x3fe0000000000000⟩,
      constraints := [], distributions := [] }]
  variants := [
    ⟨3, "on", some (.object [("color", .string "red"),
      ("width", .array [.number (.int 2), .null])])⟩]

def stranger : Entity := ⟨"bob", .null, none⟩

theorem decoding_undoes_encoding_banner :
    (ofText? bannerText).bind FlagDefinition.ofDocument? = some banner ∧
    FlagDefinition.ofJson? banner.toJson = some banner ∧
    stranger.context.Ordered ∧ stranger.context.AllFinite ∧
    Entity.ofJson? stranger.toJson = some stranger ∧
    stranger.toJson.member? "bucketKey" = none ∧
    stranger.toJson.member? "context" = some .null := by
  have hdecoded : (ofText? bannerText).bind FlagDefinition.ofDocument? = some banner := by
    decide +kernel
  have hordered : stranger.context.Ordered := .null
  have hfinite : stranger.context.AllFinite := .null
  obtain ⟨hagain, -, hkey, hcontext⟩ := decoding_undoes_encoding.2 stranger hordered hfinite
  exact ⟨hdecoded, (decoding_undoes_encoding.1 banner (.text hdecoded)).1, hordered, hfinite,
    hagain, hkey rfl, hcontext rfl⟩

end FeatureFlags
