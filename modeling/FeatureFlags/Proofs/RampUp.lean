import FeatureFlags.Proofs.Widening

/-! # Widening a rollout

Where nothing but the rollout of one segment grows, entities move to that segment, and only from
later ones or from none at all. -/

namespace FeatureFlags

def SegmentDefinition.withRollout (segment : SegmentDefinition) (percent : Binary64) :
    SegmentDefinition :=
  { segment with rolloutPercent := percent }

def FlagDefinition.withRollout (definition : FlagDefinition) (position : Nat)
    (percent : Binary64) : FlagDefinition :=
  definition.adjust position (·.withRollout percent)

/-- With the wider rollout the segment decides, where a later segment or none decided before. -/
def FlagDefinition.TakesOver (definition : FlagDefinition) (position : Nat)
    (segment : SegmentDefinition) (percent : Binary64) (sharder : Sharder Id) (key : String)
    (context : Context) (old new : Decision) : Prop :=
  ∃ variant, definition.MovesTo sharder key context position (·.withRollout percent) segment variant
    old new

theorem SegmentDefinition.widensTo_withRollout {definition : FlagDefinition}
    {segment : SegmentDefinition} {percent : Binary64} {sharder : Sharder Id} {key : String}
    {context : Context} {low high : Nat} (hlow : bucketsOf? segment.rolloutPercent = some low)
    (hhigh : bucketsOf? percent = some high) (hle : low ≤ high) :
    segment.WidensTo definition sharder key context (segment.withRollout percent) where
  id := rfl
  rank := rfl
  passes hp := by
    obtain ⟨⟨buckets, hb, hdraw⟩, hall, hbucket⟩ := hp
    rw [hlow] at hb
    cases hb
    exact ⟨⟨high, hhigh, Nat.lt_of_lt_of_le hdraw hle⟩, hall, hbucket⟩
  selects _ _ hselects := hselects

/-- Widening the rollout of one segment changes nothing for an entity, or it moves the entity to
that segment from a later one or from none. So whoever the segment or an earlier one has decided
for keeps what was decided. -/
theorem Flag.rollout_monotone {definition : FlagDefinition} {position : Nat}
    {segment : SegmentDefinition} (hsegment : definition.segments[position]? = some segment)
    {percent : Binary64} {low high : Nat} (hlow : bucketsOf? segment.rolloutPercent = some low)
    (hhigh : bucketsOf? percent = some high) (hle : low ≤ high) {before after : Flag}
    (hbefore : definition.prepare = .ok before)
    (hafter : (definition.withRollout position percent).prepare = .ok after)
    (entity : Entity) (sharder : Sharder Id) :
    let key := entity.samplingKey
    let old := Id.run (before.evaluateWith .silent sharder entity)
    let new := Id.run (after.evaluateWith .silent sharder entity)
    (new = old ∨
      ∃ context oldDecision newDecision, entity.context = .object context ∧
        old = .ok oldDecision ∧ new = .ok newDecision ∧
        definition.TakesOver position segment percent sharder key context oldDecision
          newDecision) ∧
    (∀ context other rival gift, entity.context = .object context →
      definition.DecidedBy sharder key context other rival gift →
      other = position ∨ SegmentDefinition.Precedes other rival position segment → new = old) := by
  intro key old new
  have hold : old = before.verdict sharder entity := evaluateWith_silent sharder before entity
  have hnew : new = after.verdict sharder entity := evaluateWith_silent sharder after entity
  obtain ⟨hmoves, hkeeps⟩ := verdict_adjust hsegment hbefore hafter sharder entity fun _ =>
    SegmentDefinition.widensTo_withRollout hlow hhigh hle
  rw [hold, hnew]
  refine ⟨?_, hkeeps⟩
  rcases hmoves with heq | ⟨context, hcontext, -, oldDecision, newDecision, variant, ho, hn, hmoves⟩
  · exact Or.inl heq
  · exact Or.inr ⟨context, oldDecision, newDecision, hcontext, ho, hn, variant, hmoves⟩

theorem Flag.rollout_monotone_checkout : ∃ before after,
    checkout.prepare = .ok before ∧
    (checkout.withRollout 1 ⟨0x4051800000000000⟩).prepare = .ok after ∧
    Id.run (before.evaluateWith .silent (fun _ _ _ => 60000) tester) =
      .ok (.matched ⟨7, "checkout", 1, 1, "control", none⟩) ∧
    Id.run (after.evaluateWith .silent (fun _ _ _ => 60000) tester) =
      .ok (.matched ⟨7, "checkout", 2, 2, "treatment", none⟩) ∧
    checkout.TakesOver 1 (checkout.segments.get ⟨1, by decide⟩) ⟨0x4051800000000000⟩
      (fun _ _ _ => 60000) "ann" [("beta", .boolean true)]
      (.matched ⟨7, "checkout", 1, 1, "control", none⟩)
      (.matched ⟨7, "checkout", 2, 2, "treatment", none⟩) := by
  obtain ⟨before, hbefore⟩ := Result.exists_eq_ok.2
    (by decide +kernel : checkout.prepare.isOk = true)
  obtain ⟨after, hafter⟩ := Result.exists_eq_ok.2
    (by decide +kernel : (checkout.withRollout 1 ⟨0x4051800000000000⟩).prepare.isOk = true)
  have hold : Id.run (before.evaluateWith .silent (fun _ _ _ => 60000) tester) =
      .ok (.matched ⟨7, "checkout", 1, 1, "control", none⟩) :=
    Result.eq_of_map_eq_some hbefore
      (f := fun flag => Id.run (flag.evaluateWith .silent (fun _ _ _ => 60000) tester))
      (by decide +kernel)
  have hnew : Id.run (after.evaluateWith .silent (fun _ _ _ => 60000) tester) =
      .ok (.matched ⟨7, "checkout", 2, 2, "treatment", none⟩) :=
    Result.eq_of_map_eq_some hafter
      (f := fun flag => Id.run (flag.evaluateWith .silent (fun _ _ _ => 60000) tester))
      (by decide +kernel)
  have hlow : bucketsOf? ⟨0x4049000000000000⟩ = some 50000 := by decide +kernel
  have hhigh : bucketsOf? ⟨0x4051800000000000⟩ = some 70000 := by decide +kernel
  refine ⟨before, after, hbefore, hafter, hold, hnew, ?_⟩
  rcases (rollout_monotone rfl hlow hhigh (by decide) hbefore hafter tester
    fun _ _ _ => 60000).1 with heq | ⟨context, oldDecision, newDecision, hcontext, ho, hn, htakes⟩
  · rw [hold, hnew] at heq
    simp at heq
  · rw [hold] at ho
    rw [hnew] at hn
    cases ho
    cases hn
    cases hcontext
    exact htakes

end FeatureFlags
