import FeatureFlags.Proofs.Gates
import FeatureFlags.Proofs.Order

/-! # The first match wins

Which segment decides is said of the definition alone: of all segments that pass their gates it is
the least by rank and position. The prepared flag finds the same one by trying its segments in
order and stopping at the first that selects a variant. -/

namespace FeatureFlags

namespace SegmentDefinition

/-- Evaluation order, of segments together with their positions in the definition. -/
def Precedes (position : Nat) (segment : SegmentDefinition) (other : Nat)
    (rival : SegmentDefinition) : Prop :=
  segment.rank < rival.rank ∨ segment.rank = rival.rank ∧ position < other

theorem Precedes.asymm {i j : Nat} {s t : SegmentDefinition} (h : Precedes i s j t) :
    ¬ Precedes j t i s := by
  rcases h with h | ⟨h, hij⟩
  · rintro (k | ⟨k, -⟩)
    · exact UInt32.lt_asymm h k
    · exact UInt32.lt_irrefl _ (k ▸ h)
  · rintro (k | ⟨-, hji⟩)
    · exact UInt32.lt_irrefl _ (h ▸ k)
    · omega

end SegmentDefinition

namespace FlagDefinition

/-- The segment at the position decides, and it gives the variant: it passes its gates, every other
segment that does comes later, and the variant is the one that its table selects. -/
structure DecidedBy (definition : FlagDefinition) (sharder : Sharder Id) (key : String)
    (context : Context) (position : Nat) (segment : SegmentDefinition) (variant : Variant) :
    Prop where
  defined : definition.segments[position]? = some segment
  passes : segment.Passes definition sharder key context
  first : ∀ (other : Nat) (rival : SegmentDefinition), definition.segments[other]? = some rival →
    rival.Passes definition sharder key context → other ≠ position →
    SegmentDefinition.Precedes position segment other rival
  selects : segment.Selects definition sharder key variant

def assignment (definition : FlagDefinition) (segment : SegmentDefinition) (variant : Variant) :
    Assignment where
  flagId := definition.id
  flagKey := definition.key
  segmentId := segment.id
  variantId := variant.id
  variantKey := variant.key
  variantAttachment := variant.attachment

end FlagDefinition

theorem SegmentDefinition.Selects.unique {definition : FlagDefinition} {sharder : Sharder Id}
    {key : String} {segment : SegmentDefinition} {v w : Variant}
    (hv : segment.Selects definition sharder key v)
    (hw : segment.Selects definition sharder key w) : v = w := by
  obtain ⟨table, ht, hv⟩ := hv
  obtain ⟨other, ho, hw⟩ := hw
  rw [ht] at ho
  cases ho
  have hreg := Table.regular_of_compile ht
  rw [← Table.lookup_eq_some_iff hreg] at hv hw
  exact Option.some.inj (hv.symm.trans hw)

theorem FlagDefinition.DecidedBy.unique {definition : FlagDefinition} {sharder : Sharder Id}
    {key : String} {context : Context} {i j : Nat} {s t : SegmentDefinition} {v w : Variant}
    (h : definition.DecidedBy sharder key context i s v)
    (k : definition.DecidedBy sharder key context j t w) : i = j ∧ s = t ∧ v = w := by
  have hij : i = j := by
    by_contra hne
    exact (h.first j t k.defined k.passes (Ne.symm hne)).asymm
      (k.first i s h.defined h.passes hne)
  subst hij
  have hst : s = t := Option.some.inj (h.defined.symm.trans k.defined)
  subst hst
  exact ⟨rfl, rfl, h.selects.unique k.selects⟩

namespace Flag

section

variable {sharder : Sharder Id} {key : String} {context : Context} {flag : Flag}

def selecting (sharder : Sharder Id) (key : String) (context : Context) (segment : Segment) :
    Bool :=
  (segment.outcome sharder key context).isOk

theorem selecting_iff {segment : Segment} : selecting sharder key context segment = true ↔
    ∃ variant, segment.outcome sharder key context = .ok variant := by
  unfold selecting
  cases segment.outcome sharder key context with
  | ok variant => simp [Except.isOk, Except.toBool]
  | error miss => simp [Except.isOk, Except.toBool]

theorem decision_eq_matched_iff {segments : List Segment} {a : Assignment} :
    flag.decision sharder key context segments = .matched a ↔
      ∃ segment variant, segments.find? (selecting sharder key context) = some segment ∧
        segment.outcome sharder key context = .ok variant ∧ a = flag.assignment segment variant := by
  induction segments with
  | nil => simp [decision]
  | cons segment rest ih =>
    unfold decision
    rw [List.find?_cons, selecting]
    cases h : segment.outcome sharder key context with
    | error miss => simpa [Except.isOk, Except.toBool] using ih
    | ok variant =>
      simp only [Except.isOk, Except.toBool, Decision.matched.injEq, Option.some.injEq]
      constructor
      · rintro rfl
        exact ⟨segment, variant, rfl, h, rfl⟩
      · rintro ⟨s, v, rfl, hv, rfl⟩
        rw [h] at hv
        cases hv
        rfl

theorem decision_eq_noSegmentMatched_iff {segments : List Segment} :
    flag.decision sharder key context segments = .noSegmentMatched ↔
      segments.find? (selecting sharder key context) = none := by
  induction segments with
  | nil => simp [decision]
  | cons segment rest ih =>
    unfold decision
    rw [List.find?_cons, selecting]
    cases h : segment.outcome sharder key context with
    | error miss => simpa [Except.isOk, Except.toBool] using ih
    | ok variant => simp [Except.isOk, Except.toBool]

end

section

variable {definition : FlagDefinition} {flag : Flag} (hflag : definition.prepare = .ok flag)
  {sharder : Sharder Id} {key : String} {context : Context}
include hflag

theorem enabled_of_prepare : flag.enabled = definition.enabled := by
  obtain ⟨segments, -, rfl⟩ := FlagDefinition.prepare_eq_ok.1 hflag
  rfl

theorem decision_eq_noSegmentMatched_of_prepare :
    flag.decision sharder key context flag.segments = .noSegmentMatched ↔
      ∀ segment ∈ definition.segments, ¬ segment.Passes definition sharder key context := by
  obtain ⟨segments, hs, rfl⟩ := FlagDefinition.prepare_eq_ok.1 hflag
  rw [decision_eq_noSegmentMatched_iff, Segment.find?_ordered_eq_none]
  constructor
  · intro h d hd hp
    obtain ⟨segment, hmem, hc⟩ := forall₂_mem hs hd
    have hsel := selecting_iff.2 ((Segment.exists_outcome_iff_of_compile hc).2 hp)
    rw [h segment hmem] at hsel
    contradiction
  · intro h segment hmem
    obtain ⟨d, hd, hc⟩ := forall₂_mem_right hs hmem
    rw [← Bool.not_eq_true, selecting_iff, Segment.exists_outcome_iff_of_compile hc]
    exact h d hd

theorem exists_decision_of_prepare :
    (∃ a, flag.decision sharder key context flag.segments = .matched a) ↔
      ∃ segment ∈ definition.segments, segment.Passes definition sharder key context := by
  cases h : flag.decision sharder key context flag.segments with
  | noSegmentMatched =>
    have hnone := (decision_eq_noSegmentMatched_of_prepare hflag).1 h
    constructor
    · rintro ⟨a, ha⟩
      contradiction
    · rintro ⟨segment, hmem, hp⟩
      exact absurd hp (hnone segment hmem)
  | matched a =>
    refine ⟨fun _ => ?_, fun _ => ⟨a, rfl⟩⟩
    by_contra hn
    have hnone := (decision_eq_noSegmentMatched_of_prepare hflag).2 fun segment hmem hp =>
      hn ⟨segment, hmem, hp⟩
    rw [h] at hnone
    contradiction

theorem decidedBy_of_decision {a : Assignment}
    (h : flag.decision sharder key context flag.segments = .matched a) :
    ∃ position segment variant,
      definition.DecidedBy sharder key context position segment variant ∧
      a = definition.assignment segment variant := by
  obtain ⟨segments, hs, rfl⟩ := FlagDefinition.prepare_eq_ok.1 hflag
  obtain ⟨segment, variant, hfind, hout, rfl⟩ := decision_eq_matched_iff.1 h
  obtain ⟨i, hi, -, hfirst⟩ := Segment.find?_ordered_eq_some hfind
  obtain ⟨d, hd, hc⟩ := forall₂_getElem?_right hs hi
  obtain ⟨hp, hsel⟩ := (Segment.outcome_eq_ok_iff_of_compile hc).1 hout
  refine ⟨i, d, variant, ⟨hd, hp, ?_, hsel⟩, ?_⟩
  · intro j rival hj hrival hne
    obtain ⟨other, ho, hco⟩ := forall₂_getElem? hs hj
    have hselect := selecting_iff.2 ((Segment.exists_outcome_iff_of_compile hco).2 hrival)
    have := hfirst j other ho hselect hne
    rwa [Segment.rank_of_compile hc, Segment.rank_of_compile hco] at this
  · simp [assignment, FlagDefinition.assignment, Segment.id_of_compile hc]

theorem decision_eq_matched_of_prepare {a : Assignment} :
    flag.decision sharder key context flag.segments = .matched a ↔
      ∃ position segment variant,
        definition.DecidedBy sharder key context position segment variant ∧
        a = definition.assignment segment variant := by
  constructor
  · exact decidedBy_of_decision hflag
  · rintro ⟨i, s, v, hd, rfl⟩
    obtain ⟨b, hb⟩ := (exists_decision_of_prepare hflag).2
      ⟨s, List.mem_of_getElem? hd.defined, hd.passes⟩
    obtain ⟨j, t, w, he, rfl⟩ := decidedBy_of_decision hflag hb
    obtain ⟨-, rfl, rfl⟩ := hd.unique he
    exact hb

end

/-- A disabled flag never matches. An enabled one refuses contexts that are no objects; for an
object it matches exactly if some segment of the definition passes its gates, and hands out what the
first of these gives. -/
theorem first_match_wins {definition : FlagDefinition} {flag : Flag}
    (hflag : definition.prepare = .ok flag) (entity : Entity) (sharder : Sharder Id) :
    let result := Id.run (flag.evaluateWith .silent sharder entity)
    let key := entity.samplingKey
    (definition.enabled = false → result = .ok .noSegmentMatched) ∧
    (definition.enabled = true →
      (result = .error .invalidEntityContext ↔ ∀ context, entity.context ≠ .object context) ∧
      ∀ context, entity.context = .object context →
        ((∃ a, result = .ok (.matched a)) ↔
          ∃ segment ∈ definition.segments, segment.Passes definition sharder key context) ∧
        (∀ a, result = .ok (.matched a) ↔ ∃ position segment variant,
          definition.DecidedBy sharder key context position segment variant ∧
          a = definition.assignment segment variant) ∧
        (result = .ok .noSegmentMatched ↔
          ∀ segment ∈ definition.segments, ¬ segment.Passes definition sharder key context)) := by
  intro result key
  have hresult : result = flag.verdict sharder entity := evaluateWith_silent sharder flag entity
  have henabled := enabled_of_prepare hflag
  refine ⟨?_, ?_⟩
  · intro hoff
    rw [hresult]
    exact verdict_of_disabled (henabled.trans hoff)
  · intro hon
    replace hon := henabled.trans hon
    refine ⟨?_, ?_⟩
    · cases hcontext : entity.context.object? with
      | none =>
        rw [hresult, verdict_of_no_object hon hcontext, eq_self, true_iff]
        intro context hobject
        rw [Value.object?_eq_some.2 hobject] at hcontext
        contradiction
      | some context =>
        rw [hresult, verdict_of_object hon hcontext]
        simp [Value.object?_eq_some.1 hcontext]
    · intro context hcontext
      have hdecision : result = .ok (flag.decision sharder key context flag.segments) := by
        rw [hresult]
        exact verdict_of_object hon (Value.object?_eq_some.2 hcontext)
      simp only [hdecision, Except.ok.injEq]
      exact ⟨exists_decision_of_prepare hflag, fun a => decision_eq_matched_of_prepare hflag,
        decision_eq_noSegmentMatched_of_prepare hflag⟩

def checkout : FlagDefinition where
  id := 7
  key := "checkout"
  description := ""
  enabled := true
  segments := [
    { id := 1, description := "everyone", rank := 5, rolloutPercent := ⟨0x4059000000000000⟩,
      constraints := [], distributions := [⟨0, 1, "", ⟨0x4059000000000000⟩⟩] },
    { id := 2, description := "testers", rank := 2, rolloutPercent := ⟨0x4049000000000000⟩,
      constraints := [⟨0, "beta", "EQ", "true"⟩],
      distributions := [⟨0, 1, "", ⟨0x4044000000000000⟩⟩, ⟨0, 2, "", ⟨0x4044000000000000⟩⟩] }]
  variants := [⟨1, "control", none⟩, ⟨2, "treatment", none⟩]

def tester : Entity := ⟨"ann", .object [("beta", .boolean true)], none⟩

theorem first_match_wins_checkout : ∃ flag position segment variant,
    checkout.prepare = .ok flag ∧
    Id.run (flag.evaluateWith .silent (fun _ _ _ => 45000) tester) =
      .ok (.matched ⟨7, "checkout", 2, 2, "treatment", none⟩) ∧
    checkout.DecidedBy (fun _ _ _ => 45000) "ann" [("beta", .boolean true)] position segment
      variant ∧
    ⟨7, "checkout", 2, 2, "treatment", none⟩ = checkout.assignment segment variant := by
  obtain ⟨flag, hflag⟩ := Result.exists_eq_ok.2
    (by decide +kernel : checkout.prepare.isOk = true)
  have hresult : Id.run (flag.evaluateWith .silent (fun _ _ _ => 45000) tester) =
      .ok (.matched ⟨7, "checkout", 2, 2, "treatment", none⟩) :=
    Result.eq_of_map_eq_some hflag
      (f := fun flag => Id.run (flag.evaluateWith .silent (fun _ _ _ => 45000) tester))
      (by decide +kernel)
  have hwins := first_match_wins hflag tester fun _ _ _ => 45000
  obtain ⟨position, segment, variant, hdecided, hassignment⟩ :=
    (((hwins.2 rfl).2 _ rfl).2.1 _).1 hresult
  exact ⟨flag, position, segment, variant, hflag, hresult, hdecided, hassignment⟩

end Flag

end FeatureFlags
