import Mathlib.Data.List.Forall2
import FeatureFlags.Proofs.Order

/-! # What it takes to prepare a definition

Preparing succeeds exactly if every part of a definition is in order, and then the prepared flag is
made of the prepared parts. One statement for each step says both. -/

namespace FeatureFlags

section

variable {α β : Type} {R : α → β → Prop} {as : List α} {bs : List β}

theorem forall₂_getElem? (h : List.Forall₂ R as bs) {i : Nat} {a : α} (ha : as[i]? = some a) :
    ∃ b, bs[i]? = some b ∧ R a b := by
  induction h generalizing i with
  | nil => cases ha
  | cons hab _ ih =>
    cases i with
    | zero => cases ha; exact ⟨_, rfl, hab⟩
    | succ i => exact ih ha

theorem forall₂_getElem?_right (h : List.Forall₂ R as bs) {i : Nat} {b : β}
    (hb : bs[i]? = some b) : ∃ a, as[i]? = some a ∧ R a b :=
  forall₂_getElem? h.flip hb

theorem forall₂_mem (h : List.Forall₂ R as bs) {a : α} (ha : a ∈ as) : ∃ b ∈ bs, R a b := by
  obtain ⟨i, hi⟩ := List.mem_iff_getElem?.1 ha
  obtain ⟨b, hb, hab⟩ := forall₂_getElem? h hi
  exact ⟨b, List.mem_of_getElem? hb, hab⟩

theorem forall₂_mem_right (h : List.Forall₂ R as bs) {b : β} (hb : b ∈ bs) : ∃ a ∈ as, R a b :=
  forall₂_mem h.flip hb

theorem exists_append_of_forall₂ {before after : List α} (h : List.Forall₂ R (before ++ after) bs) :
    ∃ front back, bs = front ++ back ∧ List.Forall₂ R before front ∧ List.Forall₂ R after back :=
  ⟨bs.take before.length, bs.drop before.length, (List.take_append_drop _ _).symm,
    (List.forall₂_take_append bs before after h.flip).flip,
    (List.forall₂_drop_append bs before after h.flip).flip⟩

theorem forall₂_append_cons {before after : List α} {a : α}
    (h : List.Forall₂ R (before ++ a :: after) bs) :
    ∃ front b back, bs = front ++ b :: back ∧ R a b ∧ List.Forall₂ R after back := by
  induction before generalizing bs with
  | nil =>
    obtain _ | ⟨hab, hrest⟩ := h
    exact ⟨[], _, _, rfl, hab, hrest⟩
  | cons head before ih =>
    obtain _ | ⟨-, hrest⟩ := h
    obtain ⟨front, b, back, rfl, hab, hback⟩ := ih hrest
    exact ⟨_ :: front, b, back, rfl, hab, hback⟩

end

section

variable {α : Type} {xs : List α} {a : α}

/-- The item has the property, and nothing behind it in the list does. -/
def LastWith (p : α → Prop) (xs : List α) (a : α) : Prop :=
  ∃ before after, xs = before ++ a :: after ∧ p a ∧ ∀ later ∈ after, ¬ p later

theorem LastWith.prop {p : α → Prop} (h : LastWith p xs a) : p a := by
  obtain ⟨before, after, -, hp, -⟩ := h
  exact hp

theorem exists_lastWith {p : α → Prop} (h : ∃ x ∈ xs, p x) : ∃ x, LastWith p xs x := by
  induction xs with
  | nil =>
    obtain ⟨x, hx, -⟩ := h
    cases hx
  | cons head rest ih =>
    by_cases hrest : ∃ x ∈ rest, p x
    · obtain ⟨x, before, after, rfl, hx, hlater⟩ := ih hrest
      exact ⟨x, head :: before, after, rfl, hx, hlater⟩
    · obtain ⟨x, hx, hp⟩ := h
      have hhead : x = head := by
        rcases List.mem_cons.1 hx with heq | hmem
        · exact heq
        · exact absurd ⟨x, hmem, hp⟩ hrest
      subst hhead
      exact ⟨x, [], rest, rfl, hp, fun later hlater hq => hrest ⟨later, hlater, hq⟩⟩

theorem find?_reverse_eq_some {q : α → Bool} :
    xs.reverse.find? q = some a ↔ LastWith (fun x => q x = true) xs a := by
  rw [List.find?_eq_some_iff_append]
  constructor
  · rintro ⟨hq, behind, front, hxs, hbehind⟩
    refine ⟨front.reverse, behind.reverse, ?_, hq, ?_⟩
    · rw [← List.reverse_reverse xs, hxs]
      simp
    · intro later hlater
      simpa using hbehind later (List.mem_reverse.1 hlater)
  · rintro ⟨before, after, rfl, hq, hlater⟩
    refine ⟨hq, after.reverse, before.reverse, by simp, ?_⟩
    intro x hx
    simpa using hlater x (List.mem_reverse.1 hx)

end

theorem forall₂_lastWith {α β : Type} {R : α → β → Prop} {as : List α} {bs : List β} {p : α → Prop}
    {q : β → Prop} (h : List.Forall₂ R as bs) (hpq : ∀ a b, R a b → (p a ↔ q b)) {a : α}
    (ha : LastWith p as a) : ∃ b, R a b ∧ LastWith q bs b := by
  obtain ⟨before, after, rfl, hp, hlater⟩ := ha
  obtain ⟨front, b, back, rfl, hab, hback⟩ := forall₂_append_cons h
  refine ⟨b, hab, front, back, rfl, (hpq a b hab).1 hp, ?_⟩
  intro y hy hq
  obtain ⟨x, hx, hxy⟩ := forall₂_mem_right hback hy
  exact hlater x hx ((hpq x y hxy).2 hq)

namespace Result

variable {α β : Type}

theorem bind_eq_ok {x : Result α} {f : α → Result β} {b : β} :
    x >>= f = .ok b ↔ ∃ a, x = .ok a ∧ f a = .ok b := by
  cases x with
  | error e => simp [bind, Except.bind]
  | ok a => simp [bind, Except.bind]

theorem exists_eq_ok {x : Result α} : (∃ a, x = .ok a) ↔ x.isOk = true := by
  cases x with
  | error e => simp [Except.isOk, Except.toBool]
  | ok a => simp [Except.isOk, Except.toBool]

theorem eq_of_map_eq_some {x : Result α} {f : α → β} {a : α} {b : β} (hx : x = .ok a)
    (h : x.toOption.map f = some b) : f a = b := by
  rw [hx] at h
  exact Option.some.inj h

theorem mapM_eq_ok {f : α → Result β} {as : List α} {bs : List β} :
    as.mapM f = .ok bs ↔ List.Forall₂ (fun a b => f a = .ok b) as bs := by
  induction as generalizing bs with
  | nil => cases bs <;> simp [pure, Except.pure]
  | cons a as ih =>
    rw [List.mapM_cons, bind_eq_ok]
    constructor
    · rintro ⟨b, hb, hbs⟩
      obtain ⟨rest, hrest, hpure⟩ := bind_eq_ok.1 hbs
      cases hpure
      exact .cons hb (ih.1 hrest)
    · rintro (_ | ⟨hb, hbs⟩)
      exact ⟨_, hb, bind_eq_ok.2 ⟨_, ih.2 hbs, rfl⟩⟩

theorem mapM_eq_error {f : α → Result β} {as : List α} {error : Error} :
    as.mapM f = .error error ↔ ∃ before a after, as = before ++ a :: after ∧
      (∀ earlier ∈ before, ∃ b, f earlier = .ok b) ∧ f a = .error error := by
  induction as with
  | nil => simp [pure, Except.pure]
  | cons head rest ih =>
    rw [List.mapM_cons]
    cases hhead : f head with
    | error failure =>
      constructor
      · intro h
        cases h
        exact ⟨[], head, rest, rfl, List.forall_mem_nil _, hhead⟩
      · rintro ⟨before, a, after, hsplit, hbefore, ha⟩
        rcases List.cons_eq_append_iff.1 hsplit with ⟨rfl, hcons⟩ | ⟨tail, rfl, -⟩
        · cases hcons
          rw [hhead] at ha
          cases ha
          rfl
        · obtain ⟨b, hb⟩ := hbefore head List.mem_cons_self
          rw [hhead] at hb
          contradiction
    | ok b =>
      have hrest : ((Except.ok b : Result β) >>= fun b => rest.mapM f >>= fun bs => pure (b :: bs)) =
          .error error ↔ rest.mapM f = .error error := by
        cases rest.mapM f <;> simp [bind, Except.bind, pure, Except.pure]
      rw [hrest, ih]
      constructor
      · rintro ⟨before, a, after, rfl, hbefore, ha⟩
        exact ⟨head :: before, a, after, rfl, List.forall_mem_cons.2 ⟨⟨b, hhead⟩, hbefore⟩, ha⟩
      · rintro ⟨before, a, after, hsplit, hbefore, ha⟩
        rcases List.cons_eq_append_iff.1 hsplit with ⟨rfl, hcons⟩ | ⟨tail, rfl, hrest⟩
        · cases hcons
          rw [hhead] at ha
          contradiction
        · exact ⟨tail, a, after, hrest, (List.forall_mem_cons.1 hbefore).2, ha⟩

end Result

def Binary64.IsPercent (x : Binary64) : Prop :=
  x.isFinite = true ∧ 0 ≤ x.units ∧ x.units ≤ 100 * one

theorem bucketsOf?_eq_some {percent : Binary64} {buckets : Nat} :
    bucketsOf? percent = some buckets ↔
      percent.IsPercent ∧ (percent.scale bucketsPerPercent).roundHalfUp = buckets := by
  unfold bucketsOf? Binary64.IsPercent
  by_cases h : percent.isFinite = true ∧ 0 ≤ percent.units ∧ percent.units ≤ 100 * Binary64.one
  · simp [h]
  · rw [if_neg (by simpa using h)]
    simp [h]

theorem bucketsOf_eq_ok {segmentId : UInt64} {percent : Binary64} {buckets : Nat} :
    bucketsOf segmentId percent = .ok buckets ↔ bucketsOf? percent = some buckets := by
  unfold bucketsOf
  split
  · rename_i h
    simp [h]
  · rename_i h
    simp [h]

theorem Constraint.compile_eq_ok {c : ConstraintDefinition} {constraint : Constraint} :
    compile c = .ok constraint ↔
      (c.property ≠ "" ∧ c.operator ≠ "" ∧ Text.trim c.value ≠ "") ∧
      ∃ operator target predicate, Operator.ofName? c.operator = some operator ∧
        Json.ofText? (Text.trim c.value) = some target ∧
        Predicate.compile c operator target = .ok predicate ∧
        constraint = ⟨c.property, predicate⟩ := by
  have hmissing : (c.property.isEmpty || c.operator.isEmpty || (Text.trim c.value).isEmpty) = true ↔
      ¬ (c.property ≠ "" ∧ c.operator ≠ "" ∧ Text.trim c.value ≠ "") := by
    simp only [Bool.or_eq_true, String.isEmpty_iff, ne_eq, ← not_or, not_not, or_assoc]
  unfold compile
  dsimp only
  by_cases hgiven : c.property ≠ "" ∧ c.operator ≠ "" ∧ Text.trim c.value ≠ ""
  · rw [if_neg (not_not.2 hgiven ∘ hmissing.1)]
    cases Operator.ofName? c.operator with
    | none => simp
    | some operator =>
      cases Json.ofText? (Text.trim c.value) with
      | none => simp
      | some target =>
        dsimp only
        rw [Result.bind_eq_ok]
        constructor
        · rintro ⟨predicate, hpredicate, hpure⟩
          cases hpure
          exact ⟨hgiven, operator, target, predicate, rfl, rfl, hpredicate, rfl⟩
        · rintro ⟨-, _, _, predicate, ⟨⟩, ⟨⟩, hpredicate, rfl⟩
          exact ⟨predicate, hpredicate, rfl⟩
  · rw [if_pos (hmissing.2 hgiven)]
    simp [hgiven]

namespace ConstraintSet

theorem compile_eq_ok {definitions : List ConstraintDefinition} {set : ConstraintSet} :
    compile definitions = .ok set ↔
      List.Forall₂ (fun c constraint => Constraint.compile c = .ok constraint) definitions
        set.constraints := by
  unfold compile
  rw [Result.bind_eq_ok]
  constructor
  · rintro ⟨constraints, hc, hpure⟩
    cases hpure
    exact Result.mapM_eq_ok.1 hc
  · intro h
    exact ⟨set.constraints, Result.mapM_eq_ok.2 h, rfl⟩

end ConstraintSet

namespace Table

theorem ofPercents_eq_ok {segmentId : UInt64} {shares : List (Variant × Binary64)} {table : Table} :
    ofPercents segmentId shares = .ok table ↔
      ∃ widths, List.Forall₂ (fun share width => bucketsOf? share.2 = some width) shares widths ∧
        table = ⟨(sums 0 widths).toArray, (shares.map (·.1)).toArray⟩ := by
  unfold ofPercents
  rw [Result.bind_eq_ok]
  simp only [Result.mapM_eq_ok, bucketsOf_eq_ok]
  constructor
  · rintro ⟨widths, hw, hpure⟩
    cases hpure
    exact ⟨widths, hw, rfl⟩
  · rintro ⟨widths, hw, rfl⟩
    exact ⟨widths, hw, rfl⟩

theorem share_eq_ok {variant? : UInt64 → Option Variant} {segmentId : UInt64} {d : Distribution}
    {share : Variant × Binary64} :
    (match variant? d.variantId with
      | some variant => (.ok (variant, d.percent) : Result (Variant × Binary64))
      | none => .error (.unknownVariant segmentId d.variantId)) = .ok share ↔
    variant? d.variantId = some share.1 ∧ d.percent = share.2 := by
  cases variant? d.variantId with
  | none => simp
  | some variant => simp [Prod.ext_iff]

theorem exists_shares {variant? : UInt64 → Option Variant} {ds : List Distribution}
    {variants : List Variant} {widths : List Nat} :
    (∃ shares : List (Variant × Binary64),
      List.Forall₂ (fun d share => variant? d.variantId = some share.1 ∧ d.percent = share.2)
        ds shares ∧
      List.Forall₂ (fun share width => bucketsOf? share.2 = some width) shares widths ∧
      shares.map (·.1) = variants) ↔
    List.Forall₂ (fun d variant => variant? d.variantId = some variant) ds variants ∧
      List.Forall₂ (fun d width => bucketsOf? d.percent = some width) ds widths := by
  constructor
  · rintro ⟨shares, hd, hw, rfl⟩
    refine ⟨List.forall₂_map_right_iff.2 (hd.imp fun _ _ h => h.1), ?_⟩
    induction hd generalizing widths with
    | nil => cases hw; exact .nil
    | cons h _ ih =>
      obtain _ | ⟨hb, hrest⟩ := hw
      exact .cons (h.2 ▸ hb) (ih hrest)
  · rintro ⟨hv, hw⟩
    induction hv generalizing widths with
    | nil => cases hw; exact ⟨[], .nil, .nil, rfl⟩
    | @cons d variant _ _ h _ ih =>
      obtain _ | ⟨hb, hrest⟩ := hw
      obtain ⟨shares, hd, hs, hm⟩ := ih hrest
      refine ⟨(variant, d.percent) :: shares, .cons ⟨h, rfl⟩ hd, .cons hb hs, ?_⟩
      rw [List.map_cons, hm]

theorem compile_eq_ok {variant? : UInt64 → Option Variant} {segment : SegmentDefinition}
    {table : Table} :
    compile variant? segment = .ok table ↔
      ∃ variants widths,
        List.Forall₂ (fun d variant => variant? d.variantId = some variant)
          segment.distributions variants ∧
        List.Forall₂ (fun d width => bucketsOf? d.percent = some width)
          segment.distributions widths ∧
        table = ⟨(sums 0 widths).toArray, variants.toArray⟩ := by
  unfold compile
  rw [Result.bind_eq_ok]
  simp only [Result.mapM_eq_ok, ofPercents_eq_ok]
  constructor
  · rintro ⟨shares, hs, widths, hw, rfl⟩
    have hd := hs.imp fun _ _ h => share_eq_ok.1 h
    obtain ⟨hv, hp⟩ := exists_shares.1 ⟨shares, hd, hw, rfl⟩
    exact ⟨_, widths, hv, hp, rfl⟩
  · rintro ⟨variants, widths, hv, hp, rfl⟩
    obtain ⟨shares, hd, hw, rfl⟩ := exists_shares.2 ⟨hv, hp⟩
    exact ⟨shares, hd.imp fun _ _ h => share_eq_ok.2 h, widths, hw, rfl⟩

end Table

namespace Segment

theorem compile_eq_ok {flagId : UInt64} {variant? : UInt64 → Option Variant}
    {definition : SegmentDefinition} {segment : Segment} :
    compile flagId variant? definition = .ok segment ↔
      ∃ rollout set table,
        bucketsOf? definition.rolloutPercent = some rollout ∧
        ConstraintSet.compile definition.constraints = .ok set ∧
        Table.compile variant? definition = .ok table ∧
        segment = ⟨flagId, definition.id, definition.rank, rollout, set, table⟩ := by
  unfold compile
  simp only [Result.bind_eq_ok, bucketsOf_eq_ok]
  constructor
  · rintro ⟨rollout, hr, set, hs, table, ht, hpure⟩
    cases hpure
    exact ⟨rollout, set, table, hr, hs, ht, rfl⟩
  · rintro ⟨rollout, set, table, hr, hs, ht, rfl⟩
    exact ⟨rollout, hr, set, hs, table, ht, rfl⟩

theorem flagId_of_compile {flagId : UInt64} {variant? : UInt64 → Option Variant}
    {definition : SegmentDefinition} {segment : Segment}
    (h : compile flagId variant? definition = .ok segment) : segment.flagId = flagId := by
  obtain ⟨rollout, set, table, -, -, -, rfl⟩ := compile_eq_ok.1 h
  rfl

end Segment

namespace FlagDefinition

theorem variant?_eq_some {definition : FlagDefinition} {id : UInt64} {variant : Variant} :
    definition.variant? id = some variant ↔
      LastWith (fun variant => variant.id = id) definition.variants variant := by
  rw [variant?, find?_reverse_eq_some]
  simp only [beq_iff_eq]

theorem prepare_eq_ok {definition : FlagDefinition} {flag : Flag} :
    definition.prepare = .ok flag ↔
      ∃ segments,
        List.Forall₂ (fun d segment =>
            Segment.compile definition.id definition.variant? d = .ok segment)
          definition.segments segments ∧
        flag = ⟨definition.id, definition.key, definition.enabled, Segment.ordered segments⟩ := by
  unfold prepare
  rw [Result.bind_eq_ok]
  simp only [Result.mapM_eq_ok]
  constructor
  · rintro ⟨segments, hs, hpure⟩
    cases hpure
    exact ⟨segments, hs, rfl⟩
  · rintro ⟨segments, hs, rfl⟩
    exact ⟨segments, hs, rfl⟩

theorem id_of_prepare {definition : FlagDefinition} {flag : Flag}
    (h : definition.prepare = .ok flag) : flag.id = definition.id := by
  obtain ⟨segments, -, rfl⟩ := prepare_eq_ok.1 h
  rfl

theorem key_of_prepare {definition : FlagDefinition} {flag : Flag}
    (h : definition.prepare = .ok flag) : flag.key = definition.key := by
  obtain ⟨segments, -, rfl⟩ := prepare_eq_ok.1 h
  rfl

/-- Every segment of a prepared flag comes from one of its definition. -/
theorem exists_compile_of_mem {definition : FlagDefinition} {flag : Flag}
    (h : definition.prepare = .ok flag) {segment : Segment} (hmem : segment ∈ flag.segments) :
    ∃ d ∈ definition.segments,
      Segment.compile definition.id definition.variant? d = .ok segment := by
  obtain ⟨segments, hs, rfl⟩ := prepare_eq_ok.1 h
  exact forall₂_mem_right hs ((Segment.ordered_perm segments).mem_iff.1 hmem)

theorem flagId_of_mem {definition : FlagDefinition} {flag : Flag}
    (h : definition.prepare = .ok flag) {segment : Segment} (hmem : segment ∈ flag.segments) :
    segment.flagId = definition.id := by
  obtain ⟨d, -, hd⟩ := exists_compile_of_mem h hmem
  exact Segment.flagId_of_compile hd

end FlagDefinition

end FeatureFlags
