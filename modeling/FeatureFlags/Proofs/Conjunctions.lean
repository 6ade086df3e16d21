import Mathlib.Data.List.Perm.Basic
import FeatureFlags.Proofs.GateRecords

/-! # Sets of constraints are conjunctions

What a set gives in a context is the conjunction of what its constraints give one by one, in whatever
order they stand. The order decides which of them are evaluated: those up to the first that does not
match. -/

namespace FeatureFlags

namespace ConstraintSet

def FirstFault (definitions : List ConstraintDefinition) (error : Error) : Prop :=
  ∃ before c after, definitions = before ++ c :: after ∧
    (∀ earlier ∈ before, ∃ constraint, Constraint.compile earlier = .ok constraint) ∧
    Constraint.compile c = .error error

/-- In a context that is an object each constraint of the set has an answer of its own, and the set
gives their conjunction. It gives the same where somebody is told of the evaluation, and what is told
are the constraints up to and including the first that does not match, one after the other. -/
structure AnswersWith (set : ConstraintSet) (context : Context) (answers : List Bool) : Prop where
  each : List.Forall₂
    (fun constraint answer => constraint.matchesContext (.object context) = .ok answer)
    set.constraints answers
  all : set.matchesContext (.object context) = .ok (answers.all id)
  told : ∃ reached, UpToFirstMiss context set.constraints reached ∧
    ∀ (m : Type → Type) [Monad m] [LawfulMonad m]
      (report : Constraint → Option Value → Bool → m Unit),
      evalEach report context set.constraints = (do
        reached.forM fun constraint =>
          report constraint (context.find? constraint.property) (constraint.eval context)
        return answers.all id)

/-- What a set has to do with the definitions that it was compiled from. -/
structure IsConjunction (definitions : List ConstraintDefinition) (set : ConstraintSet) : Prop where
  members : List.Forall₂ (fun c constraint => Constraint.compile c = .ok constraint) definitions
    set.constraints
  object : ∀ context : Context, ∃ answers, set.AnswersWith context answers
  reordered : ∀ rearranged, definitions.Perm rearranged →
    ∃ other, compile rearranged = .ok other ∧
      ∀ context : Value, other.matchesContext context = set.matchesContext context
  noObject : ∀ value : Value, (∀ context : Context, value ≠ .object context) →
    (definitions = [] → set.matchesContext value = .ok true) ∧
    (definitions ≠ [] → set.matchesContext value = .error .invalidEntityContext) ∧
    ∀ constraint ∈ set.constraints, constraint.matchesContext value = .error .invalidEntityContext

section

variable {m : Type → Type} [Monad m] [LawfulMonad m]

theorem evalEach_eq_forM (report : Constraint → Option Value → Bool → m Unit) (context : Context)
    (constraints : List Constraint) :
    evalEach report context constraints = (do
      (reached context constraints).forM fun constraint =>
        report constraint (context.find? constraint.property) (constraint.eval context)
      return constraints.all (·.eval context)) := by
  have htold := evalEach_eq { (Observer.silent : Observer m) with constraint := report } context
    constraints
  rw [htold, Observer.hear, List.forM_eq_forM, List.forM_map]
  rfl

end

variable {set : ConstraintSet} {context : Context} {value : Value}

theorem matchesContext_object (set : ConstraintSet) (context : Context) :
    set.matchesContext (.object context) = .ok (set.constraints.all (·.eval context)) := by
  unfold matchesContext
  by_cases hempty : set.isEmpty = true
  · rw [if_pos hempty, List.isEmpty_iff.1 hempty, List.all_nil]
  · rw [if_neg hempty]
    have hsilent := evalEach_eq_forM (fun _ _ _ => (return : Id Unit)) context set.constraints
    exact congrArg (fun answer => Except.ok (Id.run answer)) hsilent

theorem matchesContext_of_not_object (hvalue : ∀ context : Context, value ≠ .object context) :
    set.matchesContext value =
      if set.constraints = [] then .ok true else .error .invalidEntityContext := by
  simp only [matchesContext, isEmpty, List.isEmpty_iff, Value.object?_eq_none.2 hvalue]

theorem matchesContext_of_perm {other : ConstraintSet}
    (h : other.constraints.Perm set.constraints) (value : Value) :
    other.matchesContext value = set.matchesContext value := by
  by_cases hobject : ∃ context : Context, value = .object context
  · obtain ⟨context, rfl⟩ := hobject
    rw [matchesContext_object, matchesContext_object, h.all_eq]
  · have hvalue := not_exists.1 hobject
    have hempty : other.constraints = [] ↔ set.constraints = [] := by
      rw [← List.isEmpty_iff, h.isEmpty_eq, List.isEmpty_iff]
    rw [matchesContext_of_not_object hvalue, matchesContext_of_not_object hvalue]
    simp only [hempty]

theorem answersWith (set : ConstraintSet) (context : Context) :
    set.AnswersWith context (set.constraints.map (·.eval context)) := by
  have hall : (set.constraints.map (·.eval context)).all id =
      set.constraints.all (·.eval context) := List.all_map
  constructor
  case each =>
    rw [List.forall₂_map_right_iff, List.forall₂_same]
    intro constraint _
    rfl
  case all => rw [hall, matchesContext_object]
  case told =>
    refine ⟨_, upToFirstMiss_reached context set.constraints, ?_⟩
    intro m _ _ report
    rw [hall, evalEach_eq_forM]

variable {definitions : List ConstraintDefinition}

theorem compile_eq_error {error : Error} :
    compile definitions = .error error ↔ FirstFault definitions error := by
  have hmapM : compile definitions = .error error ↔
      definitions.mapM Constraint.compile = .error error := by
    unfold compile
    cases definitions.mapM Constraint.compile <;> simp [bind, Except.bind, pure, Except.pure]
  rw [hmapM, Result.mapM_eq_error, FirstFault]

theorem exists_compile_eq_error :
    (∃ error, compile definitions = .error error) ↔
      ∃ c ∈ definitions, ∃ error, Constraint.compile c = .error error := by
  constructor
  · rintro ⟨error, herror⟩
    obtain ⟨before, c, after, rfl, -, hc⟩ := compile_eq_error.1 herror
    exact ⟨c, List.mem_append_right before List.mem_cons_self, error, hc⟩
  · rintro ⟨c, hmem, error, hc⟩
    cases hcompile : compile definitions with
    | error failure => exact ⟨failure, rfl⟩
    | ok set =>
      obtain ⟨constraint, -, hok⟩ := forall₂_mem (compile_eq_ok.1 hcompile) hmem
      rw [hc] at hok
      contradiction

theorem compile_of_perm {rearranged : List ConstraintDefinition}
    (h : compile definitions = .ok set) (hperm : definitions.Perm rearranged) :
    ∃ other, compile rearranged = .ok other ∧ other.constraints.Perm set.constraints := by
  obtain ⟨constraints, hcompiled, hsame⟩ :=
    List.perm_comp_forall₂ hperm.symm (compile_eq_ok.1 h)
  exact ⟨⟨constraints⟩, compile_eq_ok.2 hcompiled, hsame⟩

/-- The set of a list of definitions fails to compile exactly if some definition does, and then with the
error of the first that does. Otherwise it is the short-circuiting conjunction of their
constraints. -/
theorem compile_is_conjunction (definitions : List ConstraintDefinition) :
    ((∃ error, compile definitions = .error error) ↔
      ∃ c ∈ definitions, ∃ error, Constraint.compile c = .error error) ∧
    (∀ error, compile definitions = .error error ↔ FirstFault definitions error) ∧
    ∀ set, compile definitions = .ok set → IsConjunction definitions set := by
  refine ⟨exists_compile_eq_error, fun _ => compile_eq_error, ?_⟩
  intro set hset
  have hmembers := compile_eq_ok.1 hset
  constructor
  case members => exact hmembers
  case object =>
    intro context
    exact ⟨_, set.answersWith context⟩
  case reordered =>
    intro rearranged hperm
    obtain ⟨other, hother, hsame⟩ := compile_of_perm hset hperm
    exact ⟨other, hother, matchesContext_of_perm hsame⟩
  case noObject =>
    intro value hvalue
    have hempty : definitions = [] ↔ set.constraints = [] := by
      rw [← List.length_eq_zero_iff, hmembers.length_eq, List.length_eq_zero_iff]
    rw [matchesContext_of_not_object hvalue, hempty, ne_eq, hempty]
    refine ⟨fun h => if_pos h, fun h => if_neg h, ?_⟩
    intro constraint _
    simp only [Constraint.matchesContext, Value.object?_eq_none.2 hvalue]

example :
    let plan : Constraint := ⟨"plan", .eq (.string "pro")⟩
    let beta : Constraint := ⟨"beta", .eq (.boolean true)⟩
    let context : Context := [("beta", .boolean true), ("plan", .string "free")]
    (reached context [plan, beta]).map Constraint.property = ["plan"] ∧
      (reached context [beta, plan]).map Constraint.property = ["beta", "plan"] := by decide

end ConstraintSet

end FeatureFlags
