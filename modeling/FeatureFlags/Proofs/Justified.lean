import FeatureFlags.Proofs.FirstMatch

/-! # What an assignment rests on

Whatever an entity is assigned can be read off the definition of the flag: a segment whose gates
admit the entity, a share of that segment that is not empty, and the variant that was declared for
it last. -/

namespace FeatureFlags

namespace Table

/-- Where running sums pass a sample that they have not reached before, what is added is not
zero. -/
theorem width_pos_of_sums {total sample i boundary width : Nat} {widths : List Nat}
    (htotal : total ≤ sample) (hwidth : widths[i]? = some width)
    (hboundary : (sums total widths)[i]? = some boundary) (hsample : sample < boundary)
    (hearlier : ∀ j earlier : Nat, j < i → (sums total widths)[j]? = some earlier →
      earlier ≤ sample) : 0 < width := by
  induction widths generalizing total i with
  | nil => cases hwidth
  | cons head rest ih =>
    rw [sums] at hboundary hearlier
    cases i with
    | zero =>
      have hhead : head = width := Option.some.inj hwidth
      have hsum : min (total + head) maxBoundary = boundary := Option.some.inj hboundary
      omega
    | succ i =>
      have hnext : min (total + head) maxBoundary ≤ sample :=
        hearlier 0 _ (Nat.succ_pos i) rfl
      refine ih hnext hwidth hboundary ?_
      intro j earlier hj hget
      exact hearlier (j + 1) earlier (Nat.succ_lt_succ hj) hget

theorem exists_distribution_of_selects {variant? : UInt64 → Option Variant}
    {segment : SegmentDefinition} {table : Table} (h : compile variant? segment = .ok table)
    {sample : Nat} {variant : Variant} (hselects : table.Selects sample variant) :
    ∃ distribution ∈ segment.distributions, variant? distribution.variantId = some variant ∧
      ∃ width, bucketsOf? distribution.percent = some width ∧ 0 < width := by
  obtain ⟨variants, widths, hvariants, hwidths, rfl⟩ := compile_eq_ok.1 h
  obtain ⟨i, boundary, hboundary, hsample, hearlier, hvariant⟩ := hselects
  simp only [List.getElem?_toArray] at hboundary hearlier hvariant
  obtain ⟨distribution, hdistribution, hfound⟩ := forall₂_getElem?_right hvariants hvariant
  obtain ⟨width, hwidth, hbuckets⟩ := forall₂_getElem? hwidths hdistribution
  refine ⟨distribution, List.mem_of_getElem? hdistribution, hfound, width, hbuckets, ?_⟩
  exact width_pos_of_sums (Nat.zero_le sample) hwidth hboundary hsample hearlier

end Table

def Distribution.withoutVariantKey (distribution : Distribution) : Distribution :=
  { distribution with variantKey := "" }

def SegmentDefinition.withoutVariantKeys (segment : SegmentDefinition) : SegmentDefinition :=
  { segment with distributions := segment.distributions.map Distribution.withoutVariantKey }

/-- The definition with the variant keys of all distributions left out. -/
def FlagDefinition.withoutVariantKeys (definition : FlagDefinition) : FlagDefinition :=
  { definition with segments := definition.segments.map SegmentDefinition.withoutVariantKeys }

theorem Table.compile_withoutVariantKeys (variant? : UInt64 → Option Variant)
    (segment : SegmentDefinition) :
    compile variant? segment.withoutVariantKeys = compile variant? segment := by
  unfold compile SegmentDefinition.withoutVariantKeys
  rw [List.mapM_map]
  rfl

theorem Segment.compile_withoutVariantKeys (flagId : UInt64) (variant? : UInt64 → Option Variant)
    (segment : SegmentDefinition) :
    compile flagId variant? segment.withoutVariantKeys = compile flagId variant? segment := by
  unfold compile
  rw [Table.compile_withoutVariantKeys]
  rfl

namespace FlagDefinition

theorem prepare_withoutVariantKeys (definition : FlagDefinition) :
    definition.withoutVariantKeys.prepare = definition.prepare := by
  have hcompile : Segment.compile definition.id definition.variant? ∘
      SegmentDefinition.withoutVariantKeys = Segment.compile definition.id definition.variant? :=
    funext fun segment => Segment.compile_withoutVariantKeys _ _ segment
  unfold prepare
  rw [← hcompile, ← List.mapM_map]
  rfl

structure Justifies (definition : FlagDefinition) (context : Context) (a : Assignment) : Prop where
  flagId : a.flagId = definition.id
  flagKey : a.flagKey = definition.key
  segment : ∃ segment ∈ definition.segments, segment.id = a.segmentId ∧
    (∃ rollout, bucketsOf? segment.rolloutPercent = some rollout ∧ 0 < rollout) ∧
    (∀ c ∈ segment.constraints, ∃ constraint, Constraint.compile c = .ok constraint ∧
      constraint.eval context = true) ∧
    ∃ distribution ∈ segment.distributions, distribution.variantId = a.variantId ∧
      ∃ width, bucketsOf? distribution.percent = some width ∧ 0 < width
  variant : ∃ variant,
    LastWith (fun variant => variant.id = a.variantId) definition.variants variant ∧
    a.variantKey = variant.key ∧ a.variantAttachment = variant.attachment

theorem DecidedBy.justifies {definition : FlagDefinition} {sharder : Sharder Id} {key : String}
    {context : Context} {position : Nat} {segment : SegmentDefinition} {variant : Variant}
    (h : definition.DecidedBy sharder key context position segment variant) :
    definition.Justifies context (definition.assignment segment variant) := by
  obtain ⟨table, htable, hselects⟩ := h.selects
  obtain ⟨distribution, hmem, hfound, width, hwidth, hpos⟩ :=
    Table.exists_distribution_of_selects htable hselects
  have hlast := variant?_eq_some.1 hfound
  have hid : variant.id = distribution.variantId := hlast.prop
  constructor
  case flagId => rfl
  case flagKey => rfl
  case segment =>
    obtain ⟨rollout, hrollout, hdraw⟩ := h.passes.rollout
    refine ⟨segment, List.mem_of_getElem? h.defined, rfl, ?_, h.passes.constraints, ?_⟩
    · exact ⟨rollout, hrollout, Nat.zero_lt_of_lt hdraw⟩
    · exact ⟨distribution, hmem, hid.symm, width, hwidth, hpos⟩
  case variant =>
    rw [← hid] at hlast
    exact ⟨variant, hlast, rfl, rfl⟩

end FlagDefinition

/-- Whatever an entity is assigned, the definition of the flag provides for it. Definitions that
differ in nothing but the variant keys of their distributions are prepared to the same flag. -/
theorem Flag.assignment_justified {definition : FlagDefinition} {flag : Flag}
    (hflag : definition.prepare = .ok flag) (entity : Entity) (sharder : Sharder Id)
    {a : Assignment}
    (hmatched : Id.run (flag.evaluateWith .silent sharder entity) = .ok (.matched a)) :
    (∃ context, entity.context = .object context ∧ definition.Justifies context a) ∧
    ∀ other : FlagDefinition, other.withoutVariantKeys = definition.withoutVariantKeys →
      other.prepare = .ok flag := by
  constructor
  · rw [evaluateWith_silent] at hmatched
    obtain ⟨-, context, hobject, hdecision⟩ := verdict_eq_matched hmatched
    obtain ⟨position, segment, variant, hdecided, rfl⟩ := decidedBy_of_decision hflag hdecision
    exact ⟨context, Value.object?_eq_some.1 hobject, hdecided.justifies⟩
  · intro other hsame
    calc other.prepare
        = other.withoutVariantKeys.prepare := other.prepare_withoutVariantKeys.symm
      _ = definition.withoutVariantKeys.prepare := by rw [hsame]
      _ = definition.prepare := definition.prepare_withoutVariantKeys
      _ = .ok flag := hflag

theorem Flag.assignment_justified_checkout : ∃ flag,
    checkout.prepare = .ok flag ∧
    Id.run (flag.evaluateWith .silent (fun _ _ _ => 45000) tester) =
      .ok (.matched ⟨7, "checkout", 2, 2, "treatment", none⟩) ∧
    checkout.Justifies [("beta", .boolean true)] ⟨7, "checkout", 2, 2, "treatment", none⟩ := by
  obtain ⟨flag, hflag⟩ := Result.exists_eq_ok.2
    (by decide +kernel : checkout.prepare.isOk = true)
  have hmatched : Id.run (flag.evaluateWith .silent (fun _ _ _ => 45000) tester) =
      .ok (.matched ⟨7, "checkout", 2, 2, "treatment", none⟩) :=
    Result.eq_of_map_eq_some hflag
      (f := fun flag => Id.run (flag.evaluateWith .silent (fun _ _ _ => 45000) tester))
      (by decide +kernel)
  obtain ⟨⟨context, hcontext, hjustifies⟩, -⟩ := assignment_justified hflag tester _ hmatched
  cases hcontext
  exact ⟨flag, hflag, hmatched, hjustifies⟩

end FeatureFlags
