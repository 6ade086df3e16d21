import FeatureFlags.Pattern.Class

/-! # Patterns with their settings worked in -/

namespace FeatureFlags.Pattern

inductive Look where
  | textStart
  | textEnd
  | lineStart
  | lineEnd
  /-- A line may also end in a carriage return, but none begins or ends between the two characters
  of a pair. -/
  | crlfStart
  | crlfEnd
  | word (unicode : Bool) (edge : WordEdge)
  deriving DecidableEq, Repr

inductive Node where
  | empty
  | text (chars : List Char)
  | set (s : CodeSet)
  | look (l : Look)
  | capture (body : Node)
  /-- Whether many rounds are preferred to few has no bearing on what is found. -/
  | repetition (least : Nat) (most : Option Nat) (greedy : Bool) (body : Node)
  | concat (items : List Node)
  | alternation (branches : List Node)
  deriving Repr

namespace Node

mutual

def onlyEmpty : Node → Bool
  | .empty => true
  | .text chars => chars.isEmpty
  | .set _ => false
  | .look _ => true
  | .capture body => onlyEmpty body
  | .repetition _ _ _ body => onlyEmpty body
  | .concat items => onlyEmptyItems items
  | .alternation branches => onlyEmptyItems branches

def onlyEmptyItems : List Node → Bool
  | [] => true
  | item :: rest => onlyEmpty item && onlyEmptyItems rest

end

/-- A repetition. More than one round of an empty text finds nothing new, no round at all finds the
empty text, and exactly one round is the body itself. -/
def rounds (least : Nat) (most : Option Nat) (greedy : Bool) (body : Node) : Node :=
  let (least, most) :=
    if body.onlyEmpty then (min least 1, some (min (most.getD 1) 1)) else (least, most)
  if most = some 0 then .empty
  else if least = 1 ∧ most = some 1 then body
  else .repetition least most greedy body

def ofSet (s : CodeSet) : Node :=
  match s.ranges.toList with
  | [(low, high)] => if low = high then .text [Char.ofNat low] else .set s
  | _ => .set s

def items : Node → List Node
  | .empty => []
  | .concat items => items
  | node => [node]

def consItem : Node → List Node → List Node
  | .text chars, .text more :: rest => .text (chars ++ more) :: rest
  | item, rest => item :: rest

/-- Nodes one behind the other. A row inside a row is opened, and empty texts are left out. -/
def ofItems (nodes : List Node) : Node :=
  match (nodes.flatMap items).foldr consItem [] with
  | [] => .empty
  | [item] => item
  | row => .concat row

def branches : Node → List Node
  | .alternation branches => branches
  | node => [node]

def char? : Node → Option Char
  | .text [c] => some c
  | _ => none

def text? : Node → Option (List Char)
  | .text chars => some chars
  | _ => none

def set? : Node → Option CodeSet
  | .set s => some s
  | _ => none

def row? : Node → Option (List Node)
  | .concat items => some items
  | _ => none

def ofDistinct : List Node → Node
  | [branch] => branch
  | branches =>
    match branches.mapM char?, branches.mapM set? with
    | some chars, _ => ofSet (.ofRanges (chars.map fun c => (c.toNat, c.toNat)))
    | none, some sets => ofSet (.ofRanges (sets.flatMap fun s => s.ranges.toList))
    | none, none => .alternation branches

mutual

def isSame : Node → Node → Bool
  | .empty, .empty => true
  | .text chars, .text others => chars == others
  | .set s, .set t => s == t
  | .look l, .look k => l == k
  | .repetition least most greedy body, .repetition least' most' greedy' body' =>
    least == least' && most == most' && greedy == greedy' && isSame body body'
  | .concat items, .concat others => areSame items others
  | .alternation branches, .alternation others => areSame branches others
  | _, _ => false

def areSame : List Node → List Node → Bool
  | [], [] => true
  | item :: rest, other :: others => isSame item other && areSame rest others
  | _, _ => false

end

def commonItems : List Node → List Node → List Node
  | item :: rest, other :: others =>
    if item.isSame other then item :: commonItems rest others else []
  | _, _ => []

def commonBeginning (branches : List Node) : List Node :=
  match branches.mapM row? with
  | some (first :: second :: others) => (second :: others).foldl commonItems first
  | _ => []

def ofBranches (nodes : List Node) : Node :=
  let alternatives := nodes.flatMap branches
  let beginning := commonBeginning alternatives
  if beginning.isEmpty then ofDistinct alternatives
  else
    let ends := alternatives.map fun branch => ofItems (branch.items.drop beginning.length)
    ofItems (beginning ++ [ofDistinct (ends.flatMap branches)])

end Node

namespace Settings

def look (settings : Settings) : Assertion → Look
  | .lineStart =>
    if settings.multiLine then if settings.crlf then .crlfStart else .lineStart else .textStart
  | .lineEnd =>
    if settings.multiLine then if settings.crlf then .crlfEnd else .lineEnd else .textEnd
  | .textStart => .textStart
  | .textEnd => .textEnd
  | .word edge => .word settings.unicode edge

def dot (settings : Settings) : Except Error CodeSet :=
  if !settings.unicode then .error .notText
  else if settings.dotMatchesNewline then .ok .all
  else if settings.crlf then .ok (CodeSet.ofRanges [(0xa, 0xa), (0xd, 0xd)]).complement
  else .ok (CodeSet.range 0xa 0xa).complement

def literal (settings : Settings) (l : Literal) : Except Error CodeSet :=
  let code := l.char.toNat
  if !settings.unicode && l.isByte && decide (0x80 ≤ code ∧ code < 0x100) then .error .notText
  else .ok (settings.fold (.singleton l.char))

end Settings

mutual

/-- Work the settings into a term. Flags count for all that follows in the group around them, also
in later branches, and not behind the group. -/
def Term.resolve (settings : Settings) : Term → Except Error (Node × Settings)
  | .empty => return (.empty, settings)
  | .flags changes => return (.empty, settings.changeAll changes)
  | .literal l => return (.ofSet (← settings.literal l), settings)
  | .dot => return (.ofSet (← settings.dot), settings)
  | .assertion a => return (.look (settings.look a), settings)
  | .shorthand kind negated => return (.ofSet (← settings.shorthand kind negated), settings)
  | .property query negated => return (.ofSet (← settings.property query negated), settings)
  | .bracket body negated => do
    let s ← body.characters settings
    return (.ofSet (← settings.foldAndNegate negated s), settings)
  | .repetition least most greedy body => do
    let (node, after) ← body.resolve settings
    return (.rounds least most (greedy != settings.swapGreed) node, after)
  | .group changes captures body => do
    let (node, _) ← body.resolve (settings.changeAll changes)
    return (if captures then .capture node else node, settings)
  | .concat items => do
    let (nodes, after) ← Term.resolveItems settings items
    return (.ofItems nodes, after)
  | .alternation branches => do
    let (nodes, after) ← Term.resolveItems settings branches
    return (.ofBranches nodes, after)

def Term.resolveItems (settings : Settings) : List Term → Except Error (List Node × Settings)
  | [] => return ([], settings)
  | item :: rest => do
    let (node, after) ← item.resolve settings
    let (nodes, last) ← Term.resolveItems after rest
    return (node :: nodes, last)

end

end FeatureFlags.Pattern
