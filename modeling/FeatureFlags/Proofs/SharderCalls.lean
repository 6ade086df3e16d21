import FeatureFlags.Proofs.Bystanders

/-! # How a sharder is called

The samples of an evaluation are asked for one at a time, and a sharder may answer each call as it
likes. Which calls are made, and what the evaluation comes to, follows from the answers in the order
in which they are given. -/

namespace FeatureFlags

structure Call where
  salt : ByteArray
  key : ByteArray
  total : Nat
  answer : Nat

/-- Byte arrays are compared by what they hold, since there is more than one instance for them. -/
instance : DecidableEq Call := fun a b =>
  decidable_of_iff (a.salt.data = b.salt.data ∧ a.key.data = b.key.data ∧ a.total = b.total ∧
    a.answer = b.answer) (by
      obtain ⟨⟨salt⟩, ⟨key⟩, total, answer⟩ := a
      obtain ⟨⟨otherSalt⟩, ⟨otherKey⟩, otherTotal, otherAnswer⟩ := b
      simp)

namespace Sharder

variable {σ : Type}

def traced (sharder : Sharder (StateM σ)) : Sharder (StateM (σ × List Call)) :=
  fun salt key total (memory, calls) =>
    let (answer, memory) := (sharder salt key total).run memory
    (answer, memory, calls ++ [⟨salt, key, total, answer⟩])

/-- Called like this, one call after the other, the sharder gives these answers. Its memory may
change from call to call. -/
inductive Answers (sharder : Sharder (StateM σ)) : σ → List Call → σ → Prop where
  | nil (memory : σ) : Answers sharder memory [] memory
  | cons {memory between after : σ} {call : Call} {calls : List Call} :
      (sharder call.salt call.key call.total).run memory = (call.answer, between) →
      Answers sharder between calls after → Answers sharder memory (call :: calls) after

theorem Answers.append {sharder : Sharder (StateM σ)} {memory between after : σ}
    {calls more : List Call} (h : sharder.Answers memory calls between)
    (hmore : sharder.Answers between more after) : sharder.Answers memory (calls ++ more) after := by
  induction h with
  | nil => exact hmore
  | cons hcall _ ih => exact .cons hcall (ih hmore)

theorem Answers.of_append {sharder : Sharder (StateM σ)} {memory after : σ}
    {calls more : List Call} (h : sharder.Answers memory (calls ++ more) after) :
    ∃ between, sharder.Answers memory calls between ∧ sharder.Answers between more after := by
  induction calls generalizing memory with
  | nil => exact ⟨memory, .nil memory, h⟩
  | cons call calls ih =>
    cases h with
    | cons hcall hrest =>
      obtain ⟨between, hbefore, hafter⟩ := ih hrest
      exact ⟨between, .cons hcall hbefore, hafter⟩

theorem Answers.traced {sharder : Sharder (StateM σ)} {memory after : σ} {calls : List Call}
    (h : sharder.Answers memory calls after) (earlier : List Call) :
    sharder.traced.Answers (memory, earlier) calls (after, earlier ++ calls) := by
  induction h generalizing earlier with
  | nil memory =>
    rw [List.append_nil]
    exact .nil _
  | @cons memory between after call calls hcall _ ih =>
    have hrun : (sharder.traced call.salt call.key call.total).run (memory, earlier) =
        (call.answer, between, earlier ++ [call]) := by
      unfold Sharder.traced
      simp only [StateT.run] at hcall ⊢
      rw [hcall]
    rw [List.append_cons]
    exact .cons hrun (ih _)

theorem answers_scripted (calls : List Call) (rest : List Nat) :
    scripted.Answers (calls.map (·.answer) ++ rest) calls rest := by
  induction calls with
  | nil => exact .nil rest
  | cons call calls ih => exact .cons rfl ih

end Sharder

structure Visit where
  segment : Segment
  rollout : Nat
  bucket? : Option Nat

def Purpose.call (flagId segmentId : UInt64) (key : String) (purpose : Purpose) (answer : Nat) :
    Call :=
  ⟨(purpose.salt flagId segmentId).toUTF8, key.toUTF8, 100000, answer⟩

namespace Visit

def calls (visit : Visit) (flagId : UInt64) (key : String) : List Call :=
  Purpose.rollout.call flagId visit.segment.id key visit.rollout ::
    visit.bucket?.toList.map (Purpose.bucket.call flagId visit.segment.id key)

/-- The sharder is asked for a bucket sample exactly if the rollout sample lies below the threshold
and all constraints match. -/
def Proper (visit : Visit) (context : Context) : Prop :=
  visit.bucket?.isSome = true ↔ visit.rollout < visit.segment.rollout ∧
    ∀ constraint ∈ visit.segment.constraints.constraints, constraint.eval context = true

def variant? (visit : Visit) : Option Variant :=
  visit.bucket?.bind visit.segment.table.lookup

def outcome (visit : Visit) : Except Miss Variant :=
  match visit.bucket?, visit.variant? with
  | some _, some variant => .ok variant
  | some _, none => .error .distribution
  | none, _ => .error (if visit.rollout < visit.segment.rollout then .constraints else .rollout)

theorem outcome_of_some {visit : Visit} {variant : Variant} (h : visit.variant? = some variant) :
    visit.outcome = .ok variant := by
  obtain ⟨bucket, hbucket, -⟩ := Option.bind_eq_some_iff.1 h
  simp [outcome, h, hbucket]

theorem outcome_of_none {visit : Visit} (h : visit.variant? = none) :
    ∃ miss, visit.outcome = .error miss := by
  cases hbucket : visit.bucket? with
  | none => simp [outcome, hbucket]
  | some bucket => simp [outcome, h, hbucket]

end Visit

section

variable {m : Type → Type} [Monad m] [LawfulMonad m] (context : Context)

theorem ConstraintSet.evalEach_silent (constraints : List Constraint) :
    evalEach (Observer.silent (m := m)).constraint context constraints =
      return constraints.all (·.eval context) := by
  induction constraints with
  | nil => rfl
  | cons constraint rest ih =>
    have heval : constraint.evalValue (constraint.lookup context) = constraint.eval context := rfl
    simp only [evalEach, heval]
    cases h : constraint.eval context with
    | false => simp [Observer.silent, h]
    | true => simpa [Observer.silent, h] using ih

theorem Segment.evaluate_silent (sharder : Sharder m) (segment : Segment) (key : String) :
    segment.evaluate .silent sharder key context = (do
      let rollout ← segment.sample sharder .rollout key
      if rollout < segment.rollout ∧ segment.satisfied context = true then do
        let bucket ← segment.sample sharder .bucket key
        return Visit.outcome ⟨segment, rollout, some bucket⟩
      else return Visit.outcome ⟨segment, rollout, none⟩) := by
  have hsatisfied : segment.constraints.constraints.all (·.eval context) =
      segment.satisfied context := rfl
  unfold evaluate passGates
  simp only [ConstraintSet.evalEach_silent, hsatisfied, bind_assoc, pure_bind]
  simp only [Observer.silent, pure_bind]
  refine bind_congr fun rollout => ?_
  by_cases hin : rollout < segment.rollout
  · cases segment.satisfied context with
    | false => simp [hin, Visit.outcome]
    | true =>
      simp only [hin, and_self, if_true, bind_assoc]
      refine bind_congr fun bucket => ?_
      cases hlookup : segment.table.lookup bucket with
      | none => simp [hlookup, Visit.outcome, Visit.variant?]
      | some variant => simp [hlookup, Visit.outcome, Visit.variant?]
  · simp [hin, Visit.outcome]

end

section

variable {σ : Type}

theorem StateM.run_bind_of {α β : Type} {x : StateM σ α} {f : α → StateM σ β} {before after : σ}
    {a : α} (h : x.run before = (a, after)) : (x >>= f).run before = (f a).run after := by
  rw [StateT.run_bind, h]
  rfl

variable {sharder : Sharder (StateM σ)} {memory after : σ} {key : String} {context : Context}

namespace Visit

theorem proper_iff {visit : Visit} : visit.Proper context ↔
    (visit.bucket?.isSome = true ↔
      visit.rollout < visit.segment.rollout ∧ visit.segment.satisfied context = true) := by
  unfold Proper Segment.satisfied
  rw [List.all_eq_true]

theorem run_evaluate {visit : Visit} (hproper : visit.Proper context)
    (hanswers : sharder.Answers memory (visit.calls visit.segment.flagId key) after) :
    (visit.segment.evaluate .silent sharder key context).run memory = (visit.outcome, after) := by
  obtain ⟨segment, rollout, bucket?⟩ := visit
  rw [proper_iff] at hproper
  rw [Segment.evaluate_silent]
  cases hanswers with
  | @cons _ between _ _ _ hcall hrest =>
    have hrollout : (segment.sample sharder .rollout key).run memory = (rollout, between) := hcall
    rw [StateM.run_bind_of hrollout]
    cases bucket? with
    | none =>
      cases hrest
      have hshut : ¬ (rollout < segment.rollout ∧ segment.satisfied context = true) := by
        simpa using hproper
      rw [if_neg hshut]
      rfl
    | some bucket =>
      cases hrest with
      | cons hcall hnil =>
        cases hnil
        have hbucket : (segment.sample sharder .bucket key).run between = (bucket, after) := hcall
        have hopen : rollout < segment.rollout ∧ segment.satisfied context = true := by
          simpa using hproper
        rw [if_pos hopen, StateM.run_bind_of hbucket]
        rfl

end Visit

theorem Segment.exists_visit (sharder : Sharder (StateM σ)) (memory : σ) (key : String)
    (context : Context) (segment : Segment) :
    ∃ (visit : Visit) (after : σ), visit.segment = segment ∧ visit.Proper context ∧
      sharder.Answers memory (visit.calls segment.flagId key) after := by
  obtain ⟨⟨rollout, between⟩, hrollout⟩ :
      ∃ told, (segment.sample sharder .rollout key).run memory = told := ⟨_, rfl⟩
  by_cases hopen : rollout < segment.rollout ∧ segment.satisfied context = true
  · obtain ⟨⟨bucket, after⟩, hbucket⟩ :
        ∃ told, (segment.sample sharder .bucket key).run between = told := ⟨_, rfl⟩
    refine ⟨⟨segment, rollout, some bucket⟩, after, rfl, ?_, ?_⟩
    · rw [Visit.proper_iff]
      simpa using hopen
    · exact .cons hrollout (.cons hbucket (.nil after))
  · refine ⟨⟨segment, rollout, none⟩, between, rfl, ?_, ?_⟩
    · rw [Visit.proper_iff]
      simpa using hopen
    · exact .cons hrollout (.nil between)

end

namespace Flag

/-- The segments are tried one after the other, with these answers for them, until one selects a
variant. -/
inductive Tries (flag : Flag) (context : Context) : List Segment → List Visit → Decision → Prop where
  | exhausted : flag.Tries context [] [] .noSegmentMatched
  | matched {visit : Visit} {rest : List Segment} {variant : Variant} :
      visit.Proper context → visit.variant? = some variant →
      flag.Tries context (visit.segment :: rest) [visit]
        (.matched (flag.assignment visit.segment variant))
  | missed {visit : Visit} {rest : List Segment} {visits : List Visit} {decision : Decision} :
      visit.Proper context → visit.variant? = none → flag.Tries context rest visits decision →
      flag.Tries context (visit.segment :: rest) (visit :: visits) decision

/-- The calls that are made to evaluate the flag for the entity, and the result that the answers
lead to. No call is made for a disabled flag or a context that is no object. Otherwise there are
calls for all segments if none selects a variant, and else for those up to and including the first
that does. -/
inductive Asks (flag : Flag) (entity : Entity) : List Call → Result Decision → Prop where
  | disabled : flag.enabled = false → flag.Asks entity [] (.ok .noSegmentMatched)
  | noObject : flag.enabled = true → (∀ context, entity.context ≠ .object context) →
      flag.Asks entity [] (.error .invalidEntityContext)
  | exhausted {context : Context} {visits : List Visit} :
      flag.enabled = true → entity.context = .object context →
      flag.segments = visits.map (·.segment) →
      (∀ visit ∈ visits, visit.Proper context ∧ visit.variant? = none) →
      flag.Asks entity (visits.flatMap (·.calls flag.id entity.samplingKey)) (.ok .noSegmentMatched)
  | matched {context : Context} {before : List Visit} {last : Visit} {rest : List Segment}
      {variant : Variant} :
      flag.enabled = true → entity.context = .object context →
      flag.segments = before.map (·.segment) ++ last.segment :: rest →
      (∀ visit ∈ before, visit.Proper context ∧ visit.variant? = none) →
      last.Proper context → last.variant? = some variant →
      flag.Asks entity ((before ++ [last]).flatMap (·.calls flag.id entity.samplingKey))
        (.ok (.matched (flag.assignment last.segment variant)))

section

variable {flag : Flag} {context : Context} {segments : List Segment} {visits : List Visit}
  {decision : Decision}

theorem Tries.cases (h : flag.Tries context segments visits decision) :
    (segments = visits.map (·.segment) ∧
      (∀ visit ∈ visits, visit.Proper context ∧ visit.variant? = none) ∧
      decision = .noSegmentMatched) ∨
    ∃ before last rest variant, visits = before ++ [last] ∧
      segments = before.map (·.segment) ++ last.segment :: rest ∧
      (∀ visit ∈ before, visit.Proper context ∧ visit.variant? = none) ∧
      last.Proper context ∧ last.variant? = some variant ∧
      decision = .matched (flag.assignment last.segment variant) := by
  induction h with
  | exhausted => exact Or.inl ⟨rfl, List.forall_mem_nil _, rfl⟩
  | @matched visit rest variant hproper hvariant =>
    exact Or.inr ⟨[], visit, rest, variant, rfl, rfl, List.forall_mem_nil _, hproper, hvariant, rfl⟩
  | @missed visit rest visits decision hproper hnone _ ih =>
    rcases ih with ⟨rfl, hmiss, hdecision⟩ |
      ⟨before, last, rest, variant, rfl, rfl, hmiss, hlast, hvariant, hdecision⟩
    · exact Or.inl ⟨rfl, List.forall_mem_cons.2 ⟨⟨hproper, hnone⟩, hmiss⟩, hdecision⟩
    · exact Or.inr ⟨visit :: before, last, rest, variant, rfl, rfl,
        List.forall_mem_cons.2 ⟨⟨hproper, hnone⟩, hmiss⟩, hlast, hvariant, hdecision⟩

theorem Tries.asks {entity : Entity} (h : flag.Tries context flag.segments visits decision)
    (hon : flag.enabled = true) (hcontext : entity.context = .object context) :
    flag.Asks entity (visits.flatMap (·.calls flag.id entity.samplingKey)) (.ok decision) := by
  rcases h.cases with ⟨hsegments, hmiss, rfl⟩ |
    ⟨before, last, rest, variant, rfl, hsegments, hmiss, hproper, hvariant, rfl⟩
  · exact .exhausted hon hcontext hsegments hmiss
  · exact .matched hon hcontext hsegments hmiss hproper hvariant

variable {flagId : UInt64} (hid : ∀ segment ∈ segments, segment.flagId = flagId)
include hid

theorem Tries.run_firstMatch {σ : Type} {sharder : Sharder (StateM σ)} {memory after : σ}
    {key : String} (h : flag.Tries context segments visits decision)
    (hanswers : sharder.Answers memory (visits.flatMap (·.calls flagId key)) after) :
    (flag.firstMatch .silent sharder key context segments).run memory = (decision, after) := by
  induction h generalizing memory with
  | exhausted =>
    cases hanswers
    rfl
  | @matched visit rest variant hproper hvariant =>
    rw [List.flatMap_singleton, ← hid visit.segment List.mem_cons_self] at hanswers
    rw [firstMatch, StateM.run_bind_of (Visit.run_evaluate hproper hanswers),
      Visit.outcome_of_some hvariant]
    rfl
  | @missed visit rest visits decision hproper hnone _ ih =>
    obtain ⟨hvisit, hrest⟩ := List.forall_mem_cons.1 hid
    rw [List.flatMap_cons, ← hvisit] at hanswers
    obtain ⟨between, hfirst, hlater⟩ := hanswers.of_append
    obtain ⟨miss, hmiss⟩ := Visit.outcome_of_none hnone
    rw [firstMatch, StateM.run_bind_of (Visit.run_evaluate hproper hfirst), hmiss]
    rw [hvisit] at hlater
    exact ih hrest hlater

theorem exists_tries {σ : Type} (sharder : Sharder (StateM σ)) (memory : σ) (key : String)
    (flag : Flag) (context : Context) :
    ∃ visits decision after, flag.Tries context segments visits decision ∧
      sharder.Answers memory (visits.flatMap (·.calls flagId key)) after := by
  induction segments generalizing memory with
  | nil => exact ⟨[], .noSegmentMatched, memory, .exhausted, .nil memory⟩
  | cons segment rest ih =>
    obtain ⟨hsegment, hrest⟩ := List.forall_mem_cons.1 hid
    obtain ⟨visit, between, rfl, hproper, hvisit⟩ := segment.exists_visit sharder memory key context
    rw [hsegment] at hvisit
    cases hvariant : visit.variant? with
    | some variant =>
      refine ⟨[visit], _, between, .matched hproper hvariant, ?_⟩
      rwa [List.flatMap_singleton]
    | none =>
      obtain ⟨visits, decision, after, htries, hanswers⟩ := ih hrest between
      exact ⟨visit :: visits, decision, after, .missed hproper hvariant htries,
        hvisit.append hanswers⟩

end

theorem evaluateWith_eq_evaluateSegments {m : Type → Type} [Monad m] [LawfulMonad m]
    (sharder : Sharder m) (flag : Flag) (entity : Entity) :
    flag.evaluateWith .silent sharder entity = flag.evaluateSegments .silent sharder entity := by
  simp [evaluateWith, Observer.silent]

/-- Some calls are made, and a sharder of any kind that answers them in the same way leads to the same
result. -/
theorem exists_asks {flag : Flag} (hid : ∀ segment ∈ flag.segments, segment.flagId = flag.id)
    (entity : Entity) {σ : Type} (sharder : Sharder (StateM σ)) (memory : σ) :
    ∃ calls result after, flag.Asks entity calls result ∧ sharder.Answers memory calls after ∧
      ∀ {τ : Type} {other : Sharder (StateM τ)} {start stop : τ}, other.Answers start calls stop →
        (flag.evaluateWith .silent other entity).run start = (result, stop) := by
  simp only [evaluateWith_eq_evaluateSegments]
  cases hon : flag.enabled with
  | false =>
    refine ⟨[], _, memory, .disabled hon, .nil memory, ?_⟩
    intro τ other start stop hnil
    cases hnil
    simp only [evaluateSegments, hon, Bool.false_eq_true, if_false]
    rfl
  | true =>
    cases hcontext : entity.context.object? with
    | none =>
      have hnone := Value.object?_eq_none.1 hcontext
      refine ⟨[], _, memory, .noObject hon hnone, .nil memory, ?_⟩
      intro τ other start stop hnil
      cases hnil
      simp only [evaluateSegments, hon, hcontext, if_true]
      rfl
    | some context =>
      obtain ⟨visits, decision, after, htries, hanswers⟩ :=
        exists_tries hid sharder memory entity.samplingKey flag context
      refine ⟨_, _, after, htries.asks hon (Value.object?_eq_some.1 hcontext), hanswers, ?_⟩
      intro τ other start stop hother
      simp only [evaluateSegments, hon, hcontext, if_true]
      rw [StateT.run_map, htries.run_firstMatch hid hother]
      rfl

/-- Whatever a sharder answers from call to call, an evaluation of a prepared flag makes the calls
that its segments ask for, one after the other. The result is the one that the answers lead to: read
off a script, they bring about the same calls and the same result, and no more of the script is
used. -/
theorem sharder_called_in_order {definition : FlagDefinition} {flag : Flag}
    (hflag : definition.prepare = .ok flag) (entity : Entity) {σ : Type}
    (sharder : Sharder (StateM σ)) (memory : σ) :
    ∃ calls result after,
      (flag.evaluateWith .silent sharder entity).run memory = (result, after) ∧
      (flag.evaluateWith .silent sharder.traced entity).run (memory, []) =
        (result, after, calls) ∧
      sharder.Answers memory calls after ∧ flag.Asks entity calls result ∧
      ∀ rest, (flag.evaluateWith .silent Sharder.scripted.traced entity).run
        (calls.map (·.answer) ++ rest, []) = (result, rest, calls) := by
  have hid : ∀ segment ∈ flag.segments, segment.flagId = flag.id := by
    intro segment hmem
    rw [FlagDefinition.flagId_of_mem hflag hmem, FlagDefinition.id_of_prepare hflag]
  obtain ⟨calls, result, after, hasks, hanswers, hrun⟩ := exists_asks hid entity sharder memory
  refine ⟨calls, result, after, hrun hanswers, hrun (hanswers.traced []), hanswers, hasks, ?_⟩
  intro rest
  exact hrun ((Sharder.answers_scripted calls rest).traced [])

theorem sharder_called_in_order_checkout :
    let calls : List Call := [
      ⟨"7:2:rollout:".toUTF8, "ann".toUTF8, 100000, 45000⟩,
      ⟨"7:2:".toUTF8, "ann".toUTF8, 100000, 900000⟩,
      ⟨"7:1:rollout:".toUTF8, "ann".toUTF8, 100000, 99999⟩,
      ⟨"7:1:".toUTF8, "ann".toUTF8, 100000, 70000⟩]
    let result : Result Decision := .ok (.matched ⟨7, "checkout", 1, 1, "control", none⟩)
    ∃ flag, checkout.prepare = .ok flag ∧
      Id.run ((flag.evaluateWith .silent Sharder.scripted.traced tester).run
        ([45000, 900000, 99999, 70000, 5], [])) = (result, [5], calls) ∧
      flag.Asks tester calls result := by
  intro calls result
  obtain ⟨flag, hflag⟩ := Result.exists_eq_ok.2
    (by decide +kernel : checkout.prepare.isOk = true)
  have hrun : Id.run ((flag.evaluateWith .silent Sharder.scripted.traced tester).run
      ([45000, 900000, 99999, 70000, 5], [])) = (result, [5], calls) :=
    Result.eq_of_map_eq_some hflag
      (f := fun flag => Id.run ((flag.evaluateWith .silent Sharder.scripted.traced tester).run
        ([45000, 900000, 99999, 70000, 5], [])))
      (by decide +kernel)
  obtain ⟨made, told, after, -, htraced, -, hasks, -⟩ :=
    sharder_called_in_order hflag tester Sharder.scripted [45000, 900000, 99999, 70000, 5]
  have hsame : (told, after, made) = (result, [5], calls) := htraced.symm.trans hrun
  cases hsame
  exact ⟨flag, hflag, hrun, hasks⟩

end Flag

end FeatureFlags
