import FeatureFlags.Proofs.FirstMatch

/-! # Changing one segment

Where one segment of a flag comes to admit more entities, and gives those that it has admitted before
what it gave them then, entities move to that segment, and only from later ones or from none at
all. -/

namespace FeatureFlags

def FlagDefinition.adjust (definition : FlagDefinition) (position : Nat)
    (change : SegmentDefinition → SegmentDefinition) : FlagDefinition :=
  { definition with segments := definition.segments.modify position change }

theorem SegmentDefinition.Precedes.congr {i j : Nat} {s s' t t' : SegmentDefinition}
    (hs : s'.rank = s.rank) (ht : t'.rank = t.rank) (h : Precedes i s j t) :
    Precedes i s' j t' := by
  unfold Precedes
  rwa [hs, ht]

section

variable (definition : FlagDefinition) (sharder : Sharder Id) (key : String) (context : Context)

/-- The wider segment comes in the same place. If the other one passes its gates then so does the
wider one, and it selects nothing but what the other one does. -/
structure SegmentDefinition.WidensTo (segment wider : SegmentDefinition) : Prop where
  id : wider.id = segment.id
  rank : wider.rank = segment.rank
  passes : segment.Passes definition sharder key context →
    wider.Passes definition sharder key context
  selects : segment.Passes definition sharder key context → ∀ variant,
    wider.Selects definition sharder key variant → segment.Selects definition sharder key variant

/-- After the change the segment decides and gives the variant, where a later segment or none decided
before. -/
structure FlagDefinition.MovesTo (position : Nat) (change : SegmentDefinition → SegmentDefinition)
    (segment : SegmentDefinition) (variant : Variant) (old new : Decision) : Prop where
  decided : (definition.adjust position change).DecidedBy sharder key context position
    (change segment) variant
  given : new = .matched (definition.assignment segment variant)
  left : old = .noSegmentMatched ∨
    ∃ other rival gift, definition.DecidedBy sharder key context other rival gift ∧
      SegmentDefinition.Precedes position segment other rival ∧
      old = .matched (definition.assignment rival gift)

end

namespace FlagDefinition

section

variable {definition : FlagDefinition} {position : Nat}
  {change : SegmentDefinition → SegmentDefinition} {segment : SegmentDefinition}
  {sharder : Sharder Id} {key : String} {context : Context}

theorem segments_adjust_of_ne {other : Nat} (hne : other ≠ position) :
    (definition.adjust position change).segments[other]? = definition.segments[other]? := by
  simp [adjust, Ne.symm hne]

theorem passes_of_segments (segments : List SegmentDefinition) {rival : SegmentDefinition} :
    rival.Passes { definition with segments := segments } sharder key context ↔
      rival.Passes definition sharder key context :=
  ⟨fun h => ⟨h.rollout, h.constraints, h.bucket⟩, fun h => ⟨h.rollout, h.constraints, h.bucket⟩⟩

theorem passes_adjust {rival : SegmentDefinition} :
    rival.Passes (definition.adjust position change) sharder key context ↔
      rival.Passes definition sharder key context :=
  passes_of_segments _

variable (hsegment : definition.segments[position]? = some segment)
include hsegment

theorem segments_adjust :
    (definition.adjust position change).segments[position]? = some (change segment) := by
  simp [adjust, hsegment]

variable (hwider : segment.WidensTo definition sharder key context (change segment))
include hwider

theorem decidedBy_of_adjust_of_ne {other : Nat} {rival : SegmentDefinition} {variant : Variant}
    (hne : other ≠ position)
    (h : (definition.adjust position change).DecidedBy sharder key context other rival variant) :
    definition.DecidedBy sharder key context other rival variant := by
  refine ⟨(segments_adjust_of_ne hne).symm.trans h.defined, passes_adjust.1 h.passes, ?_, h.selects⟩
  intro j t hj hp hjo
  by_cases hpos : j = position
  · subst hpos
    cases Option.some.inj (hsegment.symm.trans hj)
    exact (h.first j (change segment) (segments_adjust hsegment)
      (passes_adjust.2 (hwider.passes hp)) hjo).congr rfl hwider.rank.symm
  · exact h.first j t ((segments_adjust_of_ne hpos).trans hj) (passes_adjust.2 hp) hjo

theorem decidedBy_of_adjust {variant : Variant} (hp : segment.Passes definition sharder key context)
    (h : (definition.adjust position change).DecidedBy sharder key context position
      (change segment) variant) :
    definition.DecidedBy sharder key context position segment variant := by
  refine ⟨hsegment, hp, ?_, hwider.selects hp variant h.selects⟩
  intro j t hj ht hne
  exact (h.first j t ((segments_adjust_of_ne hne).trans hj) (passes_adjust.2 ht) hne).congr
    hwider.rank.symm rfl

variable {before after : Flag} (hbefore : definition.prepare = .ok before)
  (hafter : (definition.adjust position change).prepare = .ok after)
include hbefore hafter

/-- Either nothing changes, or the segment has not passed its gates before and decides now. -/
theorem decision_adjust :
    after.decision sharder key context after.segments =
        before.decision sharder key context before.segments ∨
      ¬ segment.Passes definition sharder key context ∧
        ∃ variant, definition.MovesTo sharder key context position change segment variant
          (before.decision sharder key context before.segments)
          (after.decision sharder key context after.segments) := by
  have hassignment : ∀ variant, (definition.adjust position change).assignment (change segment)
      variant = definition.assignment segment variant := by
    intro variant
    simp [assignment, adjust, hwider.id]
  cases hnew : after.decision sharder key context after.segments with
  | noSegmentMatched =>
    have hnone := (Flag.decision_eq_noSegmentMatched_of_prepare hafter).1 hnew
    refine Or.inl ((Flag.decision_eq_noSegmentMatched_of_prepare hbefore).2 ?_).symm
    intro t ht hp
    obtain ⟨j, hj⟩ := List.mem_iff_getElem?.1 ht
    by_cases hpos : j = position
    · subst hpos
      cases Option.some.inj (hsegment.symm.trans hj)
      exact hnone _ (List.mem_of_getElem? (segments_adjust hsegment))
        (passes_adjust.2 (hwider.passes hp))
    · exact hnone t (List.mem_of_getElem? ((segments_adjust_of_ne hpos).trans hj))
        (passes_adjust.2 hp)
  | matched a =>
    obtain ⟨other, rival, variant, hd, rfl⟩ := Flag.decidedBy_of_decision hafter hnew
    by_cases hpos : other = position
    · subst hpos
      cases Option.some.inj ((segments_adjust hsegment).symm.trans hd.defined)
      -- The segment decides now. It may have been its own gates alone that kept it from doing so.
      by_cases hp : segment.Passes definition sharder key context
      · have hself := decidedBy_of_adjust hsegment hwider hp hd
        rw [hassignment]
        exact Or.inl ((Flag.decision_eq_matched_of_prepare hbefore).2
          ⟨other, segment, variant, hself, rfl⟩).symm
      · refine Or.inr ⟨hp, variant, hd, congrArg _ (hassignment variant), ?_⟩
        cases hold : before.decision sharder key context before.segments with
        | noSegmentMatched => exact Or.inl rfl
        | matched b =>
          obtain ⟨j, t, gift, hj, rfl⟩ := Flag.decidedBy_of_decision hbefore hold
          have hne : j ≠ other := by
            rintro rfl
            cases Option.some.inj (hsegment.symm.trans hj.defined)
            exact hp hj.passes
          have hlater := hd.first j t ((segments_adjust_of_ne hne).trans hj.defined)
            (passes_adjust.2 hj.passes) hne
          exact Or.inr ⟨j, t, gift, hj, hlater.congr hwider.rank.symm rfl, rfl⟩
    · have hother := decidedBy_of_adjust_of_ne hsegment hwider hpos hd
      exact Or.inl ((Flag.decision_eq_matched_of_prepare hbefore).2
        ⟨other, rival, variant, hother, rfl⟩).symm

theorem decision_adjust_of_decidedBy {other : Nat} {rival : SegmentDefinition} {gift : Variant}
    (hdecided : definition.DecidedBy sharder key context other rival gift)
    (hearly : other = position ∨ SegmentDefinition.Precedes other rival position segment) :
    after.decision sharder key context after.segments =
      before.decision sharder key context before.segments := by
  have hmatch := (Flag.decision_eq_matched_of_prepare hbefore).2 ⟨other, rival, gift, hdecided, rfl⟩
  rcases decision_adjust hsegment hwider hbefore hafter with
    heq | ⟨-, variant, -, -, hnone | ⟨j, t, w, hj, hlater, -⟩⟩
  · exact heq
  · rw [hnone] at hmatch
    contradiction
  · obtain ⟨rfl, rfl, -⟩ := hdecided.unique hj
    rcases hearly with rfl | hearly
    · cases Option.some.inj (hsegment.symm.trans hj.defined)
      exact absurd hlater hlater.asymm
    · exact absurd hlater hearly.asymm

end

end FlagDefinition

/-- Of two flags that are both enabled or both not, the results are equal, or each is a decision of
its own in a context that is an object. -/
theorem Flag.verdict_eq_or_decisions {before after : Flag} (h : after.enabled = before.enabled)
    (sharder : Sharder Id) (entity : Entity) :
    after.verdict sharder entity = before.verdict sharder entity ∨
      ∃ context, entity.context = .object context ∧
        before.verdict sharder entity =
          .ok (before.decision sharder entity.samplingKey context before.segments) ∧
        after.verdict sharder entity =
          .ok (after.decision sharder entity.samplingKey context after.segments) := by
  obtain ⟨hoff, hverdict⟩ | ⟨hon, hnone, hverdict⟩ | ⟨context, hon, hobject, hverdict⟩ :=
    before.verdict_cases sharder entity
  · left
    rw [hverdict, verdict_of_disabled (h.trans hoff)]
  · left
    rw [hverdict, verdict_of_no_object (h.trans hon) hnone]
  · right
    exact ⟨context, Value.object?_eq_some.1 hobject, hverdict,
      verdict_of_object (h.trans hon) hobject⟩

/-- Where one segment is widened the result stays, or the entity did not pass that segment before and
moves to it. Whoever it or an earlier one has decided for keeps the result. -/
theorem Flag.verdict_adjust {definition : FlagDefinition} {position : Nat}
    {segment : SegmentDefinition} (hsegment : definition.segments[position]? = some segment)
    {change : SegmentDefinition → SegmentDefinition} {before after : Flag}
    (hbefore : definition.prepare = .ok before)
    (hafter : (definition.adjust position change).prepare = .ok after) (sharder : Sharder Id)
    (entity : Entity)
    (hwider : ∀ context,
      segment.WidensTo definition sharder entity.samplingKey context (change segment)) :
    (after.verdict sharder entity = before.verdict sharder entity ∨
      ∃ context, entity.context = .object context ∧
        ¬ segment.Passes definition sharder entity.samplingKey context ∧
        ∃ old new variant, before.verdict sharder entity = .ok old ∧
          after.verdict sharder entity = .ok new ∧
          definition.MovesTo sharder entity.samplingKey context position change segment variant old
            new) ∧
    ∀ context other rival gift, entity.context = .object context →
      definition.DecidedBy sharder entity.samplingKey context other rival gift →
      other = position ∨ SegmentDefinition.Precedes other rival position segment →
      after.verdict sharder entity = before.verdict sharder entity := by
  have hsame : after.enabled = before.enabled :=
    (enabled_of_prepare hafter).trans (enabled_of_prepare hbefore).symm
  rcases verdict_eq_or_decisions hsame sharder entity with heq | ⟨context, hcontext, hb, ha⟩
  · exact ⟨Or.inl heq, fun _ _ _ _ _ _ _ => heq⟩
  · rw [hb, ha, hcontext]
    constructor
    · rcases FlagDefinition.decision_adjust hsegment (hwider context) hbefore hafter with
        heq | ⟨hnot, variant, hmoves⟩
      · exact Or.inl (congrArg _ heq)
      · exact Or.inr ⟨context, rfl, hnot, _, _, variant, rfl, rfl, hmoves⟩
    · rintro _ other rival gift ⟨⟩ hdecided hearly
      exact congrArg _ (FlagDefinition.decision_adjust_of_decidedBy hsegment (hwider context)
        hbefore hafter hdecided hearly)

end FeatureFlags
