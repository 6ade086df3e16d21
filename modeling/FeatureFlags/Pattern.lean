import FeatureFlags.Pattern.Reader
import FeatureFlags.Pattern.Size

/-! # Patterns that are searched in a text

A pattern becomes an automaton. It runs over the text once with all the states it can be in, so the
time a search takes is bounded by the product of the two sizes. -/

namespace FeatureFlags.Pattern

inductive Step where
  | read (s : CodeSet) (next : Nat)
  | look (l : Look) (next : Nat)
  | fork (left right : Nat)
  | accept
  deriving Repr

structure Program where
  steps : Array Step
  start : Nat
  deriving Repr

abbrev Partial := Array Step × Nat

def Partial.push (program : Partial) (step : Nat → Step) : Partial :=
  let (steps, next) := program
  let here := steps.size
  (steps.push (step next), here)

def iterate (action : Partial → Partial) : Nat → Partial → Partial
  | 0, program => program
  | n + 1, program => iterate action n (action program)

/-- Any number of rounds of what `body` puts in front: a fork in front of everything, built first so
that the end of a round can return to it. -/
def anyRounds (body : Partial → Partial) (program : Partial) : Partial :=
  let (steps, next) := program
  let entry := steps.size
  let (steps, round) := body (steps.push (.fork entry next), entry)
  (steps.setIfInBounds entry (.fork round next), entry)

mutual

def Node.before : Node → Partial → Partial
  | .empty, program => program
  | .text chars, program =>
    chars.foldr (fun c p => p.push (.read (.singleton c))) program
  | .set s, program => program.push (.read s)
  | .look l, program => program.push (.look l)
  | .capture body, program => body.before program
  | .repetition least most _ body, program =>
    let rest := match most with
      | none => anyRounds body.before program
      | some most =>
        let (steps, after) := program
        iterate (fun p => (body.before p).push fun round => .fork round after) (most - least)
          (steps, after)
    iterate body.before least rest
  | .concat items, program => Node.allBefore items program
  | .alternation branches, program => Node.anyBefore branches program

def Node.allBefore : List Node → Partial → Partial
  | [], program => program
  | [item], program => item.before program
  | item :: rest, program => item.before (Node.allBefore rest program)

def Node.anyBefore : List Node → Partial → Partial
  | [], program => program
  | [branch], program => branch.before program
  | branch :: rest, program =>
    let (steps, next) := program
    let (steps, left) := branch.before (steps, next)
    let others := Node.anyBefore rest (steps, next)
    others.push fun right => .fork left right

end

def Program.ofNode (node : Node) : Program :=
  let (steps, start) := node.before (#[.accept], 0)
  ⟨steps, start⟩

def isWordCharacter (unicode : Bool) (c : Char) : Bool :=
  if unicode then wordCharacters.contains c else asciiWord.contains c

def Look.holds (before after : Option Char) : Look → Bool
  | .textStart => before.isNone
  | .textEnd => after.isNone
  | .lineStart => before.isNone || before == some '\n'
  | .lineEnd => after.isNone || after == some '\n'
  | .crlfStart =>
    before.isNone || before == some '\n' || (before == some '\r' && after != some '\n')
  | .crlfEnd =>
    after.isNone || after == some '\r' || (after == some '\n' && before != some '\r')
  | .word unicode edge =>
    let behind := before.any (isWordCharacter unicode)
    let ahead := after.any (isWordCharacter unicode)
    match edge with
    | .boundary => behind != ahead
    | .inside => behind == ahead
    | .start => !behind && ahead
    | .finish => behind && !ahead
    | .startHalf => !behind
    | .finishHalf => !ahead

structure Frontier where
  /-- For each state, the position at which it was last entered. -/
  entered : Array Nat
  waiting : List Nat
  accepted : Bool

/-- Enter the pending states and all that follow without a character. A state is entered once at
each position and leaves at most two others pending, which bounds `fuel`. -/
def explore (program : Program) (before after : Option Char) (now : Nat) :
    Nat → List Nat → Frontier → Frontier
  | 0, _, frontier => frontier
  | _, [], frontier => frontier
  | fuel + 1, state :: pending, ⟨entered, waiting, accepted⟩ =>
    if entered.getD state now == now then
      explore program before after now fuel pending ⟨entered, waiting, accepted⟩
    else
      let entered := entered.setIfInBounds state now
      match program.steps[state]? with
      | some (.read _ _) =>
        explore program before after now fuel pending ⟨entered, state :: waiting, accepted⟩
      | some (.look l next) =>
        let pending := if l.holds before after then next :: pending else pending
        explore program before after now fuel pending ⟨entered, waiting, accepted⟩
      | some (.fork left right) =>
        explore program before after now fuel (left :: right :: pending)
          ⟨entered, waiting, accepted⟩
      | some .accept => explore program before after now fuel pending ⟨entered, waiting, true⟩
      | none => explore program before after now fuel pending ⟨entered, waiting, accepted⟩

def successors (program : Program) (c : Char) (waiting : List Nat) : List Nat :=
  waiting.filterMap fun (state : Nat) =>
    match program.steps[state]? with
    | some (.read s next) => if s.contains c then some next else none
    | _ => none

/-- Search from a position on. `pending` are the states that earlier positions lead to; a new run
begins at every position. -/
def searchFrom (program : Program) (before : Option Char) (now : Nat) (entered : Array Nat)
    (pending : List Nat) : List Char → Bool
  | [] => (reach none).accepted
  | c :: rest =>
    let frontier := reach (some c)
    frontier.accepted ||
      searchFrom program (some c) (now + 1) frontier.entered
        (successors program c frontier.waiting) rest
where
  reach (after : Option Char) : Frontier :=
    explore program before after now (pending.length + 2 * program.steps.size + 2)
      (program.start :: pending) ⟨entered, [], false⟩

def Program.accepts (program : Program) (text : String) : Bool :=
  searchFrom program none 1 (Array.replicate program.steps.size 0) [] text.toList

end FeatureFlags.Pattern

namespace FeatureFlags

structure Pattern where
  source : String
  program : Pattern.Program
  deriving Repr

namespace Pattern

def compile (source : String) : Except Error Pattern := do
  let term ← Term.ofText source
  let (node, _) ← term.resolve {}
  if node.isTooLarge then .error .tooLarge
  else .ok ⟨source, .ofNode node⟩

def isFoundIn (pattern : Pattern) (text : String) : Bool :=
  pattern.program.accepts text

end Pattern

end FeatureFlags
