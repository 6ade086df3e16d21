import FeatureFlags.Pattern.Extent
import FeatureFlags.Pattern.Node

/-! # The size of a compiled pattern

A pattern is searched by two automata over bytes, one that reads forward and one that reads backward
to find where a match begins. It is refused if one of them would need more than ten mebibytes. A
repetition is written out once for each round, so this bounds what counts in braces can do. Only a
long list of words is looked up without automata. -/

namespace FeatureFlags.Pattern

/-- The way in which an automaton reads. Only the forward one notes where captures begin and
end. -/
inductive Direction where
  | forward
  | backward
  deriving DecidableEq, Repr

def isVacant (s : CodeSet) : Bool :=
  s.ranges.all fun (low, high) => decide (0xd800 ≤ low ∧ high ≤ 0xdfff)

namespace Node

mutual

def leastLength? : Node → Option Nat
  | .empty => some 0
  | .text chars => some chars.length
  | .set s => if isVacant s then none else some 1
  | .look _ => some 0
  | .capture body => leastLength? body
  | .repetition least _ _ body => (leastLength? body).map (least * ·)
  | .concat items => sumOfItems? items
  | .alternation branches => leastOfBranches? branches

def sumOfItems? : List Node → Option Nat
  | [] => some 0
  | item :: rest => do return (← leastLength? item) + (← sumOfItems? rest)

def leastOfBranches? : List Node → Option Nat
  | [] => none
  | [branch] => leastLength? branch
  | branch :: rest => do return min (← leastLength? branch) (← leastOfBranches? rest)

end

def canBeEmpty (node : Node) : Bool :=
  match leastLength? node with
  | some (_ + 1) => false
  | _ => true

mutual

def isAnchored (d : Direction) : Node → Bool
  | .look l => l == match d with | .forward => .textStart | .backward => .textEnd
  | .capture body => isAnchored d body
  | .repetition least _ _ body => decide (0 < least) && isAnchored d body
  | .concat items =>
    match d with
    | .forward => isAnchoredRow items
    | .backward => (isAnchoredRowEnd items).1
  | .alternation branches => areAnchored d branches
  | _ => false

def isAnchoredRow : List Node → Bool
  | [] => false
  | item :: rest => isAnchored .forward item || (item.onlyEmpty && isAnchoredRow rest)

/-- Whether an item is anchored at the end and all behind it find only the empty text; and whether
all items find only the empty text. -/
def isAnchoredRowEnd : List Node → Bool × Bool
  | [] => (false, true)
  | item :: rest =>
    let (anchored, onlyEmpty) := isAnchoredRowEnd rest
    (anchored || (onlyEmpty && isAnchored .backward item), onlyEmpty && item.onlyEmpty)

def areAnchored (d : Direction) : List Node → Bool
  | [] => true
  | branch :: rest => isAnchored d branch && areAnchored d rest

end

end Node

namespace Extent

def addSet (d : Direction) (s : CodeSet) (built : Extent) : Extent :=
  if s.ranges.all fun (_, high) => decide (high < 0x80) then
    (built.add 1).addChoice s.ranges.size
  else
    match d with
    | .forward => addForward (rowsOf s) built
    | .backward => addBackward (rowsOf s) built

/-- The rounds of a repetition. `canBeEmpty` says that a round may find the empty text: a loop that
need not be entered then takes two forks. -/
def addRounds (build : Extent → Extent) (least : Nat) (most : Option Nat) (canBeEmpty : Bool)
    (built : Extent) : Extent :=
  match most with
  | none =>
    if least = 0 then
      if canBeEmpty then (((build built).addFork 2).addFork 2).add 1 else build (built.addFork 2)
    else (times build least built).addFork 2
  | some most =>
    if least = 0 ∧ most = 1 then (build (built.addFork 2)).add 1
    else
      let built := if least = 0 then built.add 1 else times build least built
      if most = least then built
      else times (fun built => build (built.addFork 2)) (most - least) (built.add 1)

end Extent

namespace Node

mutual

def build (d : Direction) : Node → Extent → Extent
  | .empty, built => built.add 1
  | .text chars, built => built.add (encodeText chars).length
  | .set s, built => built.addSet d s
  | .look _, built => built.add 1
  | .capture body, built =>
    match d with
    | .forward => (build d body (built.add 1)).add 1
    | .backward => build d body built
  | .repetition least most _ body, built =>
    built.addRounds (build d body) least most (canBeEmpty body)
  | .concat items, built => buildItems d items built
  | .alternation branches, built =>
    match branches.mapM text? with
    | some texts =>
      let texts := texts.map encodeText
      built.addTexts (match d with | .forward => texts | .backward => texts.map List.reverse)
    | none => buildBranches d branches.length 0 branches built

def buildItems (d : Direction) : List Node → Extent → Extent
  | [], built => built
  | item :: rest, built =>
    match d with
    | .forward => buildItems d rest (build d item built)
    | .backward => build d item (buildItems d rest built)

def buildBranches (d : Direction) (count : Nat) : Nat → List Node → Extent → Extent
  | _, [], built => built
  | position, branch :: rest, built =>
    let built := build d branch built
    buildBranches d count (position + 1) rest
      (if position = 1 then (built.addFork count).add 1 else built)

end

/-- All that is built for a pattern: a loop over any bytes in front of it, unless it is anchored, and
the state that accepts. The forward automaton also notes where the match begins and ends. -/
def extent (d : Direction) (node : Node) : Extent :=
  let start :=
    if node.isAnchored d then Extent.nothing.add 1
    else ((Extent.nothing.addFork 2).add 1).addChoice 1
  match d with
  | .forward => (node.build d (start.add 1)).add 2
  | .backward => (node.build d start).add 1

def longWordList : Nat := 3000

def isWordList : Node → Bool
  | .alternation branches =>
    decide (longWordList ≤ branches.length) && branches.all fun branch => branch.text?.isSome
  | _ => false

def isTooLarge (node : Node) : Bool :=
  !node.isWordList &&
    ((node.extent .forward).isTooLarge || (node.extent .backward).isTooLarge)

end Node

end FeatureFlags.Pattern
