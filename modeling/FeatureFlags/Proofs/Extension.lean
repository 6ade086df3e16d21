import FeatureFlags.Proofs.Widening

/-! # Extending a flag at its end

Segments behind all others and distributions behind those of a segment take nobody away from what has
been decided ahead of them: segments are tried in order, and the boundaries that a table has already
stay where they are when further ones follow. -/

namespace FeatureFlags

def FlagDefinition.withSegments (definition : FlagDefinition) (more : List SegmentDefinition) :
    FlagDefinition :=
  { definition with segments := definition.segments ++ more }

def SegmentDefinition.withDistributions (segment : SegmentDefinition) (more : List Distribution) :
    SegmentDefinition :=
  { segment with distributions := segment.distributions ++ more }

def FlagDefinition.withDistributions (definition : FlagDefinition) (position : Nat)
    (more : List Distribution) : FlagDefinition :=
  definition.adjust position (·.withDistributions more)

namespace Table

/-- The longer table has what the table has, and then further entries with the given variants. -/
structure ExtendedBy (table longer : Table) (more : List Variant) : Prop where
  boundaries : table.boundaries.toList <+: longer.boundaries.toList
  variants : longer.variants.toList = table.variants.toList ++ more

theorem sums_isPrefix_append (total : Nat) (widths more : List Nat) :
    sums total widths <+: sums total (widths ++ more) := by
  induction widths generalizing total with
  | nil => exact List.nil_prefix
  | cons width rest ih => exact (List.prefix_cons_inj _).2 (ih _)

theorem exists_extendedBy {variant? : UInt64 → Option Variant} {segment : SegmentDefinition}
    {more : List Distribution} {longer : Table}
    (h : compile variant? (segment.withDistributions more) = .ok longer) :
    ∃ table variants, compile variant? segment = .ok table ∧
      List.Forall₂ (fun d variant => variant? d.variantId = some variant) more variants ∧
      table.ExtendedBy longer variants := by
  obtain ⟨variants, widths, hvariants, hwidths, rfl⟩ := compile_eq_ok.1 h
  obtain ⟨front, further, rfl, hfront, hfurther⟩ := exists_append_of_forall₂ hvariants
  obtain ⟨narrow, wide, rfl, hnarrow, -⟩ := exists_append_of_forall₂ hwidths
  refine ⟨_, further, compile_eq_ok.2 ⟨front, narrow, hfront, hnarrow, rfl⟩, hfurther, ?_⟩
  exact ⟨sums_isPrefix_append 0 narrow wide, rfl⟩

namespace ExtendedBy

variable {table longer : Table} {more : List Variant} (h : table.ExtendedBy longer more)
  {sample : Nat} {variant : Variant}
include h

theorem getElem?_boundaries {i : Nat} (hi : i < table.boundaries.size) :
    longer.boundaries[i]? = table.boundaries[i]? := by
  obtain ⟨rest, hrest⟩ := h.boundaries
  rw [← Array.getElem?_toList, ← hrest, List.getElem?_append_left hi, Array.getElem?_toList]

theorem covers (hcovers : table.Covers sample) : longer.Covers sample := by
  obtain ⟨boundary, hmem, hlt⟩ := hcovers
  exact ⟨boundary, Array.mem_toList_iff.1 (h.boundaries.subset (Array.mem_toList_iff.2 hmem)), hlt⟩

theorem selects (hselects : table.Selects sample variant) : longer.Selects sample variant := by
  obtain ⟨i, boundary, hboundary, hlt, hfirst, hvariant⟩ := hselects
  have hi : i < table.boundaries.size := (Array.getElem?_eq_some_iff.1 hboundary).1
  refine ⟨i, boundary, (h.getElem?_boundaries hi).trans hboundary, hlt, ?_, ?_⟩
  · intro j earlier hj hearlier
    have hsame := h.getElem?_boundaries (Nat.lt_trans hj hi)
    exact hfirst j earlier hj (hsame.symm.trans hearlier)
  · have hsize : i < table.variants.toList.length := (Array.getElem?_eq_some_iff.1 hvariant).1
    rw [← Array.getElem?_toList, h.variants, List.getElem?_append_left hsize, Array.getElem?_toList]
    exact hvariant

/-- What the table does not cover is led to one of the further entries, if to any. -/
theorem mem_of_selects (hr : table.Regular) (hcovers : ¬ table.Covers sample)
    (hselects : longer.Selects sample variant) : variant ∈ more := by
  obtain ⟨i, boundary, hboundary, hlt, -, hvariant⟩ := hselects
  -- Were the boundary one of the table's own, the table would cover the sample.
  have hi : table.variants.toList.length ≤ i := by
    by_contra hbefore
    have hsize : i < table.boundaries.size := by
      have := hr.size_eq
      rw [Array.length_toList] at hbefore
      omega
    rw [h.getElem?_boundaries hsize] at hboundary
    exact hcovers ⟨boundary, Array.mem_of_getElem? hboundary, hlt⟩
  rw [← Array.getElem?_toList, h.variants, List.getElem?_append_right hi] at hvariant
  exact List.mem_of_getElem? hvariant

end ExtendedBy

end Table

namespace SegmentDefinition

section

variable {definition : FlagDefinition} {sharder : Sharder Id} {key : String} {context : Context}
  {segment : SegmentDefinition} {more : List Distribution} {longer : Table}

theorem widensTo_withDistributions
    (hlonger : Table.compile definition.variant? (segment.withDistributions more) = .ok longer) :
    segment.WidensTo definition sharder key context (segment.withDistributions more) := by
  obtain ⟨table, variants, htable, -, hextended⟩ := Table.exists_extendedBy hlonger
  have hcovers : segment.Passes definition sharder key context →
      table.Covers (segment.draw definition sharder key .bucket) := by
    intro hp
    obtain ⟨other, hother, hcovers⟩ := hp.bucket
    rw [htable] at hother
    cases hother
    exact hcovers
  constructor
  case id => rfl
  case rank => rfl
  case passes =>
    intro hp
    exact ⟨hp.rollout, hp.constraints, longer, hlonger, hextended.covers (hcovers hp)⟩
  case selects =>
    intro hp variant hselects
    have hreg := Table.regular_of_compile htable
    obtain ⟨found, hfound⟩ := (Table.covers_iff hreg _).1 (hcovers hp)
    have hfound := (Table.lookup_eq_some_iff hreg _).1 hfound
    have hlong : (segment.withDistributions more).Selects definition sharder key found :=
      ⟨longer, hlonger, hextended.selects hfound⟩
    rw [hselects.unique hlong]
    exact ⟨table, htable, hfound⟩

theorem exists_distribution_of_selects
    (hlonger : Table.compile definition.variant? (segment.withDistributions more) = .ok longer)
    (hnot : ¬ segment.Passes definition sharder key context)
    (hp : (segment.withDistributions more).Passes definition sharder key context)
    {variant : Variant}
    (hselects : (segment.withDistributions more).Selects definition sharder key variant) :
    ∃ distribution ∈ more, definition.variant? distribution.variantId = some variant := by
  obtain ⟨table, variants, htable, hvariants, hextended⟩ := Table.exists_extendedBy hlonger
  have hcovers : ¬ table.Covers (segment.draw definition sharder key .bucket) := fun hcovers =>
    hnot ⟨hp.rollout, hp.constraints, table, htable, hcovers⟩
  obtain ⟨other, hother, hselects⟩ := hselects
  rw [hlonger] at hother
  cases hother
  have hmem := hextended.mem_of_selects (Table.regular_of_compile htable) hcovers hselects
  exact forall₂_mem_right hvariants hmem

end

end SegmentDefinition

namespace FlagDefinition

section

variable {definition : FlagDefinition} {sharder : Sharder Id} {key : String} {context : Context}

theorem passes_withSegments {more : List SegmentDefinition} {segment : SegmentDefinition} :
    segment.Passes (definition.withSegments more) sharder key context ↔
      segment.Passes definition sharder key context :=
  passes_of_segments _

/-- What decides goes on to decide, since whatever is added comes behind it. -/
theorem DecidedBy.withSegments {position : Nat} {segment : SegmentDefinition} {variant : Variant}
    (h : definition.DecidedBy sharder key context position segment variant)
    {more : List SegmentDefinition}
    (hrank : ∀ earlier ∈ definition.segments, ∀ later ∈ more, earlier.rank ≤ later.rank) :
    (definition.withSegments more).DecidedBy sharder key context position segment variant := by
  have hposition : position < definition.segments.length :=
    (List.getElem?_eq_some_iff.1 h.defined).1
  refine ⟨?_, passes_withSegments.2 h.passes, ?_, h.selects⟩
  · rw [FlagDefinition.withSegments, List.getElem?_append_left hposition]
    exact h.defined
  · intro other rival hother hp hne
    rw [FlagDefinition.withSegments] at hother
    by_cases hold : other < definition.segments.length
    · rw [List.getElem?_append_left hold] at hother
      exact h.first other rival hother (passes_withSegments.1 hp) hne
    -- A further segment has a later position, which settles the case of equal ranks.
    · rw [List.getElem?_append_right (by omega)] at hother
      have hle := hrank segment (List.mem_of_getElem? h.defined) rival
        (List.mem_of_getElem? hother)
      rcases UInt32.lt_or_eq_of_le hle with hlt | heq
      · exact Or.inl hlt
      · exact Or.inr ⟨heq, by omega⟩

end

theorem exists_longer_table {definition : FlagDefinition} {position : Nat}
    {segment : SegmentDefinition} {more : List Distribution} {after : Flag}
    (hsegment : definition.segments[position]? = some segment)
    (hafter : (definition.withDistributions position more).prepare = .ok after) :
    ∃ longer, Table.compile definition.variant? (segment.withDistributions more) = .ok longer := by
  obtain ⟨segments, hsegments, -⟩ := prepare_eq_ok.1 hafter
  obtain ⟨compiled, -, hcompile⟩ := forall₂_getElem? hsegments (segments_adjust hsegment)
  obtain ⟨-, -, longer, -, -, hlonger, -⟩ := Segment.compile_eq_ok.1 hcompile
  exact ⟨longer, hlonger⟩

end FlagDefinition

namespace Flag

theorem matched_withSegments {definition : FlagDefinition} {before after : Flag}
    (hbefore : definition.prepare = .ok before) {more : List SegmentDefinition}
    (hrank : ∀ earlier ∈ definition.segments, ∀ later ∈ more, earlier.rank ≤ later.rank)
    (hafter : (definition.withSegments more).prepare = .ok after) {sharder : Sharder Id}
    {entity : Entity} {a : Assignment} (h : before.verdict sharder entity = .ok (.matched a)) :
    after.verdict sharder entity = .ok (.matched a) := by
  obtain ⟨hon, context, hobject, hdecision⟩ := verdict_eq_matched h
  obtain ⟨position, segment, variant, hdecided, rfl⟩ := decidedBy_of_decision hbefore hdecision
  have hafterOn : after.enabled = true :=
    (enabled_of_prepare hafter).trans ((enabled_of_prepare hbefore).symm.trans hon)
  have hmatched := (decision_eq_matched_of_prepare hafter).2
    ⟨position, segment, variant, hdecided.withSegments hrank, rfl⟩
  rw [verdict_of_object hafterOn hobject, hmatched]
  rfl

/-- Further segments behind all others, none of them with a lower rank, change no assignment. Nor do
further distributions of a segment change what that segment or an earlier one has decided; in any
other case either the result stays or the segment now gives the variant of one of the further
distributions, where a later segment or none decided before. -/
theorem extensions_reassign_nobody {definition : FlagDefinition} {before : Flag}
    (hbefore : definition.prepare = .ok before) (entity : Entity) (sharder : Sharder Id) :
    let key := entity.samplingKey
    let old := Id.run (before.evaluateWith .silent sharder entity)
    (∀ (more : List SegmentDefinition) (after : Flag),
      (∀ earlier ∈ definition.segments, ∀ later ∈ more, earlier.rank ≤ later.rank) →
      (definition.withSegments more).prepare = .ok after →
      ∀ a, old = .ok (.matched a) →
        Id.run (after.evaluateWith .silent sharder entity) = .ok (.matched a)) ∧
    ∀ (position : Nat) (segment : SegmentDefinition) (more : List Distribution) (after : Flag),
      definition.segments[position]? = some segment →
      (definition.withDistributions position more).prepare = .ok after →
      let new := Id.run (after.evaluateWith .silent sharder entity)
      (∀ context other rival gift, entity.context = .object context →
        definition.DecidedBy sharder key context other rival gift →
        other = position ∨ SegmentDefinition.Precedes other rival position segment → new = old) ∧
      (new = old ∨
        ∃ context oldDecision newDecision variant, entity.context = .object context ∧
          old = .ok oldDecision ∧ new = .ok newDecision ∧
          definition.MovesTo sharder key context position (·.withDistributions more) segment variant
            oldDecision newDecision ∧
          ∃ distribution ∈ more, definition.variant? distribution.variantId = some variant) := by
  intro key old
  have hold : old = before.verdict sharder entity := evaluateWith_silent sharder before entity
  constructor
  · intro more after hrank hafter a hmatched
    rw [hold] at hmatched
    rw [evaluateWith_silent]
    exact matched_withSegments hbefore hrank hafter hmatched
  · intro position segment more after hsegment hafter new
    have hnew : new = after.verdict sharder entity := evaluateWith_silent sharder after entity
    obtain ⟨longer, hlonger⟩ := FlagDefinition.exists_longer_table hsegment hafter
    obtain ⟨hmoves, hkeeps⟩ := verdict_adjust hsegment hbefore hafter sharder entity fun _ =>
      SegmentDefinition.widensTo_withDistributions hlonger
    rw [hold, hnew]
    refine ⟨hkeeps, ?_⟩
    rcases hmoves with
      heq | ⟨context, hcontext, hnot, oldDecision, newDecision, variant, ho, hn, hmoves⟩
    · exact Or.inl heq
    · have hfurther := SegmentDefinition.exists_distribution_of_selects hlonger hnot
        (FlagDefinition.passes_adjust.1 hmoves.decided.passes) hmoves.decided.selects
      exact Or.inr ⟨context, oldDecision, newDecision, variant, hcontext, ho, hn, hmoves, hfurther⟩

def uneven : Sharder Id := fun salt _ _ => if salt.size < 10 then 85000 else 10000

theorem extensions_reassign_nobody_checkout : ∃ before later longer variant,
    checkout.prepare = .ok before ∧
    (checkout.withSegments [⟨3, "again", 5, ⟨0x4059000000000000⟩, [],
      [⟨0, 2, "", ⟨0x4059000000000000⟩⟩]⟩]).prepare = .ok later ∧
    (checkout.withDistributions 1 [⟨0, 2, "", ⟨0x4034000000000000⟩⟩]).prepare = .ok longer ∧
    Id.run (before.evaluateWith .silent uneven tester) =
      .ok (.matched ⟨7, "checkout", 1, 1, "control", none⟩) ∧
    Id.run (later.evaluateWith .silent uneven tester) =
      .ok (.matched ⟨7, "checkout", 1, 1, "control", none⟩) ∧
    Id.run (longer.evaluateWith .silent uneven tester) =
      .ok (.matched ⟨7, "checkout", 2, 2, "treatment", none⟩) ∧
    checkout.MovesTo uneven "ann" [("beta", .boolean true)] 1
      (·.withDistributions [⟨0, 2, "", ⟨0x4034000000000000⟩⟩])
      (checkout.segments.get ⟨1, by decide⟩) variant
      (.matched ⟨7, "checkout", 1, 1, "control", none⟩)
      (.matched ⟨7, "checkout", 2, 2, "treatment", none⟩) := by
  obtain ⟨before, hbefore⟩ := Result.exists_eq_ok.2
    (by decide +kernel : checkout.prepare.isOk = true)
  obtain ⟨later, hlater⟩ := Result.exists_eq_ok.2
    (by decide +kernel : (checkout.withSegments [⟨3, "again", 5, ⟨0x4059000000000000⟩, [],
      [⟨0, 2, "", ⟨0x4059000000000000⟩⟩]⟩]).prepare.isOk = true)
  obtain ⟨longer, hlonger⟩ := Result.exists_eq_ok.2
    (by decide +kernel : (checkout.withDistributions 1
      [⟨0, 2, "", ⟨0x4034000000000000⟩⟩]).prepare.isOk = true)
  have hold : Id.run (before.evaluateWith .silent uneven tester) =
      .ok (.matched ⟨7, "checkout", 1, 1, "control", none⟩) :=
    Result.eq_of_map_eq_some hbefore
      (f := fun flag => Id.run (flag.evaluateWith .silent uneven tester)) (by decide +kernel)
  have hnew : Id.run (longer.evaluateWith .silent uneven tester) =
      .ok (.matched ⟨7, "checkout", 2, 2, "treatment", none⟩) :=
    Result.eq_of_map_eq_some hlonger
      (f := fun flag => Id.run (flag.evaluateWith .silent uneven tester)) (by decide +kernel)
  obtain ⟨hsegments, hdistributions⟩ := extensions_reassign_nobody hbefore tester uneven
  have hstays := hsegments _ later (by decide) hlater _ hold
  rcases (hdistributions 1 _ _ longer rfl hlonger).2 with
    heq | ⟨context, oldDecision, newDecision, variant, hcontext, ho, hn, hmoves, -⟩
  · rw [hold, hnew] at heq
    simp at heq
  · rw [hold] at ho
    rw [hnew] at hn
    cases ho
    cases hn
    cases hcontext
    exact ⟨before, later, longer, variant, hbefore, hlater, hlonger, hold, hstays, hnew, hmoves⟩

end Flag

end FeatureFlags
