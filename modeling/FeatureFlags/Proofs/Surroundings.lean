import FeatureFlags.Proofs.Negation
import FeatureFlags.Proofs.Quotation

/-! # White space around the values of constraints

The value of a constraint counts without the white space around it. What it compiles to is then the
same constraint or an error of the same kind, which quotes the value as it was written. White space
between the quotes of a string belongs to the target. -/

namespace FeatureFlags

def ConstraintDefinition.withValue (c : ConstraintDefinition) (value : String) :
    ConstraintDefinition :=
  { c with value }

def ConstraintDefinition.surrounded (c : ConstraintDefinition) (before after : String) :
    ConstraintDefinition :=
  c.withValue (before ++ c.value ++ after)

def Error.quoting (value : String) : Error → Error
  | .invalidConstraint property operator _ => .invalidConstraint property operator value
  | .unsupportedValueType property operator _ => .unsupportedValueType property operator value
  | error => error

theorem Error.kind_quoting (error : Error) (value : String) : (error.quoting value).kind = error.kind := by
  cases error <;> rfl

def Predicate.HasText (text : String) : Predicate → Prop
  | .eq target | .neq target | .contains target | .notContains target => target = .string text
  | .ereg pattern | .nereg pattern => pattern.source = text ∧ Pattern.compile text = .ok pattern
  | .lt _ | .lte _ | .gt _ | .gte _ | .isIn _ | .notIn _ => False

theorem Result.mapError_eq_ok {α : Type} {result : Result α} {f : Error → Error} {a : α} :
    result.mapError f = .ok a ↔ result = .ok a := by
  cases result <;> simp [Except.mapError]

namespace ConstraintDefinition

variable {c : ConstraintDefinition} {value : String} {operator : Operator} {target : Json}

section

variable (h : Text.trim value = Text.trim c.value)
include h

theorem incomplete_withValue : (c.withValue value).Incomplete ↔ c.Incomplete := by
  rw [incomplete_iff, incomplete_iff]
  simp only [withValue, h]

theorem States.withValue (hstates : c.States operator target) :
    (c.withValue value).States operator target :=
  ⟨mt (incomplete_withValue h).1 hstates.complete, hstates.names,
    (congrArg Json.ofText? h).trans hstates.writes⟩

/-- A definition compiles to what any other one with the same trimmed value compiles to, but an error
quotes its own value. -/
theorem compile_withValue : Constraint.compile (c.withValue value) =
    (Constraint.compile c).mapError (Error.quoting value) := by
  have hspec := c.compilesTo_compile
  generalize Constraint.compile c = result at hspec
  cases hspec with
  | incomplete missing => exact compile_of_incomplete ((incomplete_withValue h).2 missing)
  | unknownOperator complete unknown =>
    exact compile_of_unknown (mt (incomplete_withValue h).1 complete) unknown
  | unreadable complete names unread =>
    exact compile_of_unread (mt (incomplete_withValue h).1 complete) names
      ((congrArg Json.ofText? h).trans unread)
  | otherType states refuses =>
    rw [(states.withValue h).compile, Predicate.compile_of_not_takes refuses]
    rfl
  | malformedPattern states searches malformed =>
    rw [(states.withValue h).compile, Predicate.compile_of_malformed searches malformed]
    rfl
  | constraint states takes same decodes =>
    rw [(states.withValue h).compile, Predicate.compile_eq_ok.2 ⟨same, takes, decodes⟩]
    rfl

end

end ConstraintDefinition

theorem Pattern.source_of_compile {source : String} {pattern : Pattern}
    (h : compile source = .ok pattern) : pattern.source = source := by
  unfold compile at h
  simp only [bind, Except.bind] at h
  split at h
  · cases h
  · split at h
    · cases h
    · split at h
      · cases h
      · cases h
        rfl

theorem Predicate.hasText_iff {predicate : Predicate} {text : String} :
    predicate.HasText text ↔
      predicate.operator.Takes (.string text) ∧ predicate.Decodes (.string text) := by
  cases predicate with
  | eq target | neq target =>
    constructor
    · rintro rfl
      exact ⟨.inr (.inl ⟨text, rfl⟩), .string text⟩
    · rintro ⟨-, ⟨⟩⟩
      rfl
  | contains target | notContains target =>
    constructor
    · rintro rfl
      exact ⟨.inr ⟨text, rfl⟩, .string text⟩
    · rintro ⟨-, ⟨⟩⟩
      rfl
  | ereg pattern | nereg pattern =>
    constructor
    · rintro ⟨-, hpattern⟩
      exact ⟨⟨text, rfl⟩, text, rfl, hpattern⟩
    · rintro ⟨-, _, ⟨⟩, hpattern⟩
      exact ⟨Pattern.source_of_compile hpattern, hpattern⟩
  | lt _ | lte _ | gt _ | gte _ =>
    refine iff_of_false id ?_
    rintro ⟨⟨_, ⟨⟩⟩, -⟩
  | isIn _ | notIn _ =>
    refine iff_of_false id ?_
    rintro ⟨⟨_, ⟨⟩⟩ | ⟨_, ⟨⟩⟩, -⟩

/-- With a quoted text as its value a definition compiles to a constraint whose target is the string
that the text writes. -/
theorem ConstraintDefinition.compile_quoted {c : ConstraintDefinition} {body : String}
    (hvalue : c.value = "\"" ++ body ++ "\"") {constraint : Constraint} :
    Constraint.compile c = .ok constraint ↔
      c.property ≠ "" ∧ constraint.property = c.property ∧ constraint.operator.name = c.operator ∧
        ∃ text, Json.Quotes body text ∧ constraint.predicate.HasText text := by
  have htrim : Text.trim c.value = c.value := by
    rw [hvalue, Text.quoted_eq, Text.trim_quoted]
  rw [compile_eq_ok_iff, htrim, hvalue]
  refine and_congr_right' (and_congr_right' (and_congr_right' ?_))
  constructor
  · rintro ⟨target, hwrites, htakes, hdecodes⟩
    obtain ⟨text, rfl, hquotes⟩ := Json.exists_quotes_of_ofText? hwrites
    exact ⟨text, hquotes, Predicate.hasText_iff.2 ⟨htakes, hdecodes⟩⟩
  · rintro ⟨text, hquotes, htext⟩
    obtain ⟨htakes, hdecodes⟩ := Predicate.hasText_iff.1 htext
    exact ⟨_, hquotes, htakes, hdecodes⟩

/-- White space around the value of a definition has no say. With it and without it the definition
compiles to the same constraint, or fails with the same error but for the value that it quotes. White
space between the quotes of a string stays where it is in the target, unless it is a control character,
which no string may have. -/
theorem Constraint.surroundings_have_no_say (c : ConstraintDefinition) {before after : String}
    (hbefore : Text.IsWhiteSpace before) (hafter : Text.IsWhiteSpace after) :
    ((∃ constraint surrounded, compile c = .ok constraint ∧
        compile (c.surrounded before after) = .ok surrounded ∧ surrounded = constraint ∧
        ∀ context, surrounded.matchesContext context = constraint.matchesContext context) ∨
      ∃ error failure, compile c = .error error ∧
        compile (c.surrounded before after) = .error failure ∧ failure.kind = error.kind ∧
        failure = error.quoting (before ++ c.value ++ after)) ∧
    ∀ front blanks back : String, Text.IsWhiteSpace blanks → blanks ≠ "" →
      c.value = "\"" ++ (front ++ blanks ++ back) ++ "\"" → ∀ constraint : Constraint,
      (compile (c.surrounded before after) = .ok constraint ↔
        c.property ≠ "" ∧ constraint.property = c.property ∧
        constraint.operator.name = c.operator ∧ (∀ char ∈ blanks.toList, ' ' ≤ char) ∧
        ∃ s t, Json.Quotes front s ∧ Json.Quotes back t ∧
          constraint.predicate.HasText (s ++ blanks ++ t)) := by
  have hsurrounded : compile (c.surrounded before after) = _ :=
    ConstraintDefinition.compile_withValue (Text.trim_surrounded hbefore hafter)
  constructor
  · cases hcompile : compile c with
    | ok constraint =>
      rw [hcompile] at hsurrounded
      exact .inl ⟨constraint, constraint, rfl, hsurrounded, rfl, fun _ => rfl⟩
    | error error =>
      rw [hcompile] at hsurrounded
      exact .inr ⟨error, _, rfl, hsurrounded, error.kind_quoting _, rfl⟩
  · intro front blanks back hblanks hne hvalue constraint
    rw [hsurrounded, Result.mapError_eq_ok, ConstraintDefinition.compile_quoted hvalue]
    refine and_congr_right' (and_congr_right' (and_congr_right' ?_))
    constructor
    · rintro ⟨text, hquotes, htext⟩
      obtain ⟨hraw, s, t, hfront, hback, rfl⟩ :=
        (Json.quotes_around_whiteSpace hblanks hne).1 hquotes
      exact ⟨hraw, s, t, hfront, hback, htext⟩
    · rintro ⟨hraw, s, t, hfront, hback, htext⟩
      have hquotes := (Json.quotes_around_whiteSpace hblanks hne).2
        ⟨hraw, s, t, hfront, hback, rfl⟩
      exact ⟨_, hquotes, htext⟩

theorem Constraint.surroundings_have_no_say_city :
    let city : ConstraintDefinition := ⟨1, "city", "EQ", "\"New\u2003York \""⟩
    let blank : ConstraintDefinition := ⟨2, "city", "EQ", "\u2028"⟩
    let broken : ConstraintDefinition := ⟨3, "age", "GT", "1\u00a08"⟩
    let before := "\u00a0\t"
    let after := "\u3000\n"
    Text.IsWhiteSpace before ∧ Text.IsWhiteSpace after ∧
    (∃ constraint, compile city = .ok constraint ∧
      compile (city.surrounded before after) = .ok constraint ∧
      constraint.predicate.HasText "New\u2003York ") ∧
    (∃ failure, compile (blank.surrounded before after) = .error failure ∧
      failure.kind = .invalidConstraint) ∧
    ∃ failure, compile (broken.surrounded before after) = .error failure ∧
      failure.kind = .invalidConstraintValue := by
  intro city blank broken before after
  have hbefore : Text.IsWhiteSpace before := by decide
  have hafter : Text.IsWhiteSpace after := by decide
  have hfails : ∀ (c : ConstraintDefinition) (error : Error), compile c = .error error →
      ∃ failure, compile (c.surrounded before after) = .error failure ∧
        failure.kind = error.kind := by
    intro c error herror
    rcases (surroundings_have_no_say c hbefore hafter).1 with
      ⟨constraint, -, hcompile, -⟩ | ⟨cause, failure, hcause, hfailure, hkind, -⟩
    · rw [herror] at hcompile
      cases hcompile
    · rw [herror] at hcause
      cases hcause
      exact ⟨failure, hfailure, hkind⟩
  have hblank : compile blank = .error (.invalidConstraint "city" "EQ" "\u2028") :=
    ConstraintDefinition.compile_of_incomplete
      (.inr (.inr (Text.isWhiteSpace_iff.1 (by decide))))
  have hnames : Operator.gt.name = broken.operator := rfl
  have hbroken : compile broken = .error (.invalidConstraintValue "age") :=
    ConstraintDefinition.compile_of_unread
      (mt ConstraintDefinition.incomplete_iff.1 (by decide +kernel)) hnames (by decide +kernel)
  refine ⟨hbefore, hafter, ?_, hfails blank _ hblank, hfails broken _ hbroken⟩
  obtain ⟨hsame, hquoted⟩ := surroundings_have_no_say city hbefore hafter
  have htarget := (hquoted "New" "\u2003" "York " (by decide) (by decide) (by decide)
    ⟨"city", .eq (.string "New\u2003York ")⟩).2
    ⟨by decide, rfl, rfl, by simp, "New", "York ", by decide +kernel, by decide +kernel, rfl⟩
  rcases hsame with ⟨constraint, _, hcity, hsurrounded, rfl, -⟩ | ⟨_, _, -, hfailure, -⟩
  · rw [htarget] at hsurrounded
    cases hsurrounded
    exact ⟨_, hcity, htarget, rfl⟩
  · rw [htarget] at hfailure
    cases hfailure

end FeatureFlags
