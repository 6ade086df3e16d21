import FeatureFlags.Proofs.FirstMatch
import FeatureFlags.Details.Recorder

/-! # Observers have no say

An observer has a memory of its own and a sharder may have effects of its own. To forget the memory
of the observer turns an evaluation that is watched into the one that nobody watches: the result is
the same, and the sharder is asked the same in the same order. -/

namespace FeatureFlags

section

variable {σ : Type} {m : Type → Type} [Monad m] {α β : Type}

def aside (noted : StateM σ α) : StateT σ m α := fun memory => return noted.run memory

/-- An observer whose memory lies next to the effects of a sharder. The memory can be of any type,
so what is kept of the flag and what is kept of the segment in hand may both be in it. -/
def Observer.aside (observer : Observer (StateM σ)) : Observer (StateT σ m) where
  flag flag := FeatureFlags.aside (observer.flag flag)
  segment segment := FeatureFlags.aside (observer.segment segment)
  rolloutSample sample := FeatureFlags.aside (observer.rolloutSample sample)
  constraint constraint value satisfied :=
    FeatureFlags.aside (observer.constraint constraint value satisfied)
  bucketSample sample := FeatureFlags.aside (observer.bucketSample sample)
  outcome outcome := FeatureFlags.aside (observer.outcome outcome)
  result result := FeatureFlags.aside (observer.result result)

def Sharder.watched (sharder : Sharder m) : Sharder (StateT σ m) :=
  fun salt key total => StateT.lift (sharder salt key total)

/-- From whatever memory it starts, the watched computation is the plain one once its memory is
forgotten. -/
def Forgets (watched : StateT σ m α) (plain : m α) : Prop :=
  ∀ memory, Prod.fst <$> watched.run memory = plain

variable [LawfulMonad m]

namespace Forgets

theorem pure (a : α) : Forgets (Pure.pure a : StateT σ m α) (Pure.pure a) := by
  intro memory
  simp

theorem bind {watched : StateT σ m α} {plain : m α} {next : α → StateT σ m β} {after : α → m β}
    (h : Forgets watched plain) (hnext : ∀ a, Forgets (next a) (after a)) :
    Forgets (watched >>= next) (plain >>= after) := by
  intro memory
  have hrest : ∀ told : α × σ, Prod.fst <$> (next told.1).run told.2 = after told.1 := by
    intro told
    exact hnext told.1 told.2
  calc Prod.fst <$> (watched >>= next).run memory
      = watched.run memory >>= fun told => Prod.fst <$> (next told.1).run told.2 := by
        rw [StateT.run_bind, map_bind]
    _ = watched.run memory >>= fun told => after told.1 := by simp only [hrest]
    _ = (Prod.fst <$> watched.run memory) >>= after := by rw [bind_map_left]
    _ = plain >>= after := by rw [h memory]

theorem map {watched : StateT σ m α} {plain : m α} (f : α → β) (h : Forgets watched plain) :
    Forgets (f <$> watched) (f <$> plain) := by
  rw [map_eq_pure_bind, map_eq_pure_bind]
  exact h.bind fun a => pure (f a)

theorem aside (noted : StateM σ Unit) : Forgets (m := m) (FeatureFlags.aside noted)
    (Pure.pure ()) := by
  intro memory
  change Prod.fst <$> (Pure.pure (noted.run memory) : m (Unit × σ)) = _
  rw [map_pure]

theorem lift (plain : m α) : Forgets (σ := σ) (StateT.lift plain) plain := by
  intro memory
  simp

end Forgets

variable (observer : Observer (StateM σ)) (sharder : Sharder m)

theorem ConstraintSet.forgets_evalEach (context : Context) (constraints : List Constraint) :
    Forgets (evalEach (observer.aside (m := m)).constraint context constraints)
      (evalEach (Observer.silent (m := m)).constraint context constraints) := by
  induction constraints with
  | nil => exact .pure true
  | cons constraint rest ih =>
    simp only [evalEach]
    refine (Forgets.aside _).bind fun _ => ?_
    cases constraint.evalValue (constraint.lookup context) with
    | true => exact ih
    | false => exact .pure false

namespace Segment

variable (segment : Segment) (key : String) (context : Context)

theorem forgets_passGates :
    Forgets (segment.passGates observer.aside sharder.watched key context)
      (segment.passGates .silent sharder key context) := by
  unfold passGates
  refine (Forgets.lift _).bind fun rolloutSample => (Forgets.aside _).bind fun _ => ?_
  split
  · refine (ConstraintSet.forgets_evalEach observer context _).bind fun satisfied => ?_
    cases satisfied with
    | false => exact .pure _
    | true =>
      refine (Forgets.lift _).bind fun bucketSample => (Forgets.aside _).bind fun _ => ?_
      cases segment.table.lookup bucketSample with
      | none => exact .pure _
      | some variant => exact .pure _
  · exact .pure _

theorem forgets_evaluate :
    Forgets (segment.evaluate observer.aside sharder.watched key context)
      (segment.evaluate .silent sharder key context) := by
  unfold evaluate
  refine (Forgets.aside _).bind fun _ => ?_
  refine (forgets_passGates observer sharder segment key context).bind fun outcome => ?_
  exact (Forgets.aside _).bind fun _ => .pure outcome

end Segment

namespace Flag

variable (flag : Flag)

theorem forgets_firstMatch (key : String) (context : Context) (segments : List Segment) :
    Forgets (flag.firstMatch observer.aside sharder.watched key context segments)
      (flag.firstMatch .silent sharder key context segments) := by
  induction segments with
  | nil => exact .pure _
  | cons segment rest ih =>
    simp only [firstMatch]
    refine (segment.forgets_evaluate observer sharder key context).bind fun outcome => ?_
    cases outcome with
    | ok variant => exact .pure _
    | error miss => exact ih

variable (entity : Entity)

theorem forgets_evaluateSegments :
    Forgets (flag.evaluateSegments observer.aside sharder.watched entity)
      (flag.evaluateSegments .silent sharder entity) := by
  unfold evaluateSegments
  split
  · cases entity.context.object? with
    | none => exact .pure _
    | some context => exact (forgets_firstMatch observer sharder flag _ context _).map _
  · exact .pure _

theorem forgets_evaluateWith :
    Forgets (flag.evaluateWith observer.aside sharder.watched entity)
      (flag.evaluateWith .silent sharder entity) := by
  unfold evaluateWith
  refine (Forgets.aside _).bind fun _ => ?_
  refine (forgets_evaluateSegments observer sharder flag entity).bind fun result => ?_
  exact (Forgets.aside _).bind fun _ => .pure result

end Flag

omit [LawfulMonad m] in
theorem Recorder.run_result (result : Result Decision) (recorder : Recorder) :
    ((Recorder.observer.aside (m := m)).result result).run recorder =
      Pure.pure ((), { recorder with result := some result }) :=
  rfl

theorem Flag.result_kept (sharder : Sharder m) (flag : Flag) (entity : Entity)
    (recorder : Recorder) :
    (fun told => (told.1, told.2.result)) <$>
        (flag.evaluateWith Recorder.observer.aside sharder.watched entity).run recorder =
      (fun result => (result, some result)) <$> flag.evaluateWith .silent sharder entity := by
  rw [← forgets_evaluateWith Recorder.observer sharder flag entity recorder]
  simp [evaluateWith, Recorder.run_result]

end

/-- Whoever watches an evaluation, and whatever its sharder does besides, its result is the one that
it has when nobody watches. The result that a recorder keeps is that same result, and so is the one
that comes with the details. -/
theorem Flag.observers_have_no_say {σ : Type} {m : Type → Type} [Monad m] [LawfulMonad m]
    (flag : Flag) (entity : Entity) (sharder : Sharder m) (observer : Observer (StateM σ))
    (memory : σ) (recorder : Recorder) :
    Prod.fst <$> (flag.evaluateWith observer.aside sharder.watched entity).run memory =
      flag.evaluateWith .silent sharder entity ∧
    (fun told => (told.1, told.2.result)) <$>
        (flag.evaluateWith Recorder.observer.aside sharder.watched entity).run recorder =
      (fun result => (result, some result)) <$> flag.evaluateWith .silent sharder entity ∧
    (flag.evaluateDetails entity).1 = flag.evaluate entity := by
  refine ⟨forgets_evaluateWith observer sharder flag entity memory,
    result_kept sharder flag entity recorder, ?_⟩
  -- Without effects of a sharder, an observer that lies next to them is the observer itself.
  exact congrArg Id.run
    (forgets_evaluateWith (m := Id) Recorder.observer .md5 flag entity (.start flag.key))

def Sharder.scripted : Sharder (StateM (List Nat)) := fun _ _ _ =>
  modifyGet fun script => (script.headD 0, script.tail)

def Observer.tally : Observer (StateM (Nat × List Nat)) where
  flag _ := return
  segment _ := modify fun (count, samples) => (count + 1, samples)
  rolloutSample sample := modify fun (count, samples) => (count, sample :: samples)
  constraint _ _ _ := return
  bucketSample sample := modify fun (count, samples) => (count, sample :: samples)
  outcome _ := return
  result _ := return

theorem Flag.observers_have_no_say_scripted : ∃ flag, checkout.prepare = .ok flag ∧
    Id.run ((flag.evaluateWith .silent .scripted tester).run [60000, 99999, 70000, 5]) =
      (.ok (.matched ⟨7, "checkout", 1, 1, "control", none⟩), [5]) ∧
    Prod.fst <$> (flag.evaluateWith Observer.tally.aside Sharder.scripted.watched tester).run
        (0, []) =
      flag.evaluateWith .silent .scripted tester := by
  obtain ⟨flag, hflag⟩ := Result.exists_eq_ok.2
    (by decide +kernel : checkout.prepare.isOk = true)
  have hplain :
      Id.run ((flag.evaluateWith .silent .scripted tester).run [60000, 99999, 70000, 5]) =
        (.ok (.matched ⟨7, "checkout", 1, 1, "control", none⟩), [5]) :=
    Result.eq_of_map_eq_some hflag
      (f := fun flag =>
        Id.run ((flag.evaluateWith .silent .scripted tester).run [60000, 99999, 70000, 5]))
      (by decide +kernel)
  have hwatched := (observers_have_no_say flag tester Sharder.scripted Observer.tally (0, [])
    (.start "")).1
  exact ⟨flag, hflag, hplain, hwatched⟩

end FeatureFlags
