/-! # Patterns as written -/

namespace FeatureFlags.Pattern

inductive Error where
  | unclosedGroup
  | unopenedGroup
  | lookAround
  | groupNameMissing
  | groupNameInvalid
  | groupNameRepeated
  | flagUnknown
  | flagRepeated
  | flagMissing
  | nothingToRepeat
  | countUnclosed
  | countMissing
  | countTooLarge
  | countOutOfOrder
  | escapeUnfinished
  | escapeUnknown
  | backreference
  | hexInvalid
  | boundaryUnknown
  | classUnclosed
  | classItemInvalid
  | rangeOutOfOrder
  | propertyUnknown
  | unicodeOff
  | notText
  | tooDeep
  | tooLarge
  deriving DecidableEq, Repr

inductive Flag where
  | ignoreCase
  | multiLine
  | dotMatchesNewline
  | swapGreed
  | unicode
  | crlf
  | extended
  deriving DecidableEq, Repr

abbrev FlagChanges := List (Flag × Bool)

/-- A character of the pattern. One written as `\x` and two digits stands for a byte when Unicode
is off. -/
structure Literal where
  char : Char
  isByte : Bool
  deriving DecidableEq, Repr

inductive Shorthand where
  | digit
  | space
  | word
  deriving DecidableEq, Repr

inductive Posix where
  | alnum
  | alpha
  | ascii
  | blank
  | cntrl
  | digit
  | graph
  | lower
  | print
  | punct
  | space
  | upper
  | word
  | xdigit
  deriving DecidableEq, Repr

inductive PropertyQuery where
  | named (name : String)
  | valued (property value : String)
  deriving DecidableEq, Repr

inductive WordEdge where
  | boundary
  | inside
  | start
  | finish
  | startHalf
  | finishHalf
  deriving DecidableEq, Repr

inductive Assertion where
  | lineStart
  | lineEnd
  | textStart
  | textEnd
  | word (edge : WordEdge)
  deriving DecidableEq, Repr

inductive SetOperator where
  | intersection
  | difference
  | symmetricDifference
  deriving DecidableEq, Repr

inductive SetTerm where
  | literal (l : Literal)
  | range (low high : Literal)
  | posix (kind : Posix) (negated : Bool)
  | shorthand (kind : Shorthand) (negated : Bool)
  | property (query : PropertyQuery) (negated : Bool)
  | bracket (body : SetTerm) (negated : Bool)
  | union (items : List SetTerm)
  | combine (operator : SetOperator) (left right : SetTerm)
  deriving Repr

inductive Term where
  | empty
  | flags (changes : FlagChanges)
  | literal (l : Literal)
  | dot
  | assertion (a : Assertion)
  | shorthand (kind : Shorthand) (negated : Bool)
  | property (query : PropertyQuery) (negated : Bool)
  | bracket (body : SetTerm) (negated : Bool)
  | repetition (least : Nat) (most : Option Nat) (greedy : Bool) (body : Term)
  | group (changes : FlagChanges) (captures : Bool) (body : Term)
  | concat (items : List Term)
  | alternation (branches : List Term)
  deriving Repr

namespace SetTerm

def ofItems : List SetTerm → SetTerm
  | [item] => item
  | items => .union items

mutual

def depth : SetTerm → Nat
  | .bracket body _ => depth body + 1
  | .union [] => 0
  | .union items => depthOfItems items + 1
  | .combine _ left right => max (depth left) (depth right) + 1
  | _ => 0

def depthOfItems : List SetTerm → Nat
  | [] => 0
  | item :: rest => max (depth item) (depthOfItems rest)

end

end SetTerm

namespace Term

def ofItems : List Term → Term
  | [] => .empty
  | [item] => item
  | items => .concat items

def ofBranches : List Term → Term
  | [branch] => branch
  | branches => .alternation branches

mutual

def depth : Term → Nat
  | .bracket body _ => body.depth + 1
  | .repetition _ _ _ body => depth body + 1
  | .group _ _ body => depth body + 1
  | .concat items => depthOfItems items + 1
  | .alternation branches => depthOfItems branches + 1
  | _ => 0

def depthOfItems : List Term → Nat
  | [] => 0
  | item :: rest => max (depth item) (depthOfItems rest)

end

def maxDepth : Nat := 250

end Term

end FeatureFlags.Pattern
