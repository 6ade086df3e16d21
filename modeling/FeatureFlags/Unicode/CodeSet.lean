/-! # Sets of characters as ranges of code points

Tables of character properties are written compactly, as a row of numbers in base 26. All digits of a
number but its last are capital letters, so the numbers need no separators. A set lists gaps and runs
in turn: how many code points are left out, then how many follow that belong to it. A partition lists
the length of a run and the number of the class its code points belong to. -/

namespace FeatureFlags

/-- A set of characters. The ranges name their first and last code point; they are increasing and
between two of them at least one code point is missing. -/
structure CodeSet where
  ranges : Array (Nat × Nat)
  deriving DecidableEq, Repr

namespace CodeSet

def last : Nat := 0x10ffff

def empty : CodeSet := ⟨#[]⟩

def all : CodeSet := ⟨#[(0, last)]⟩

def isEmpty (s : CodeSet) : Bool := s.ranges.isEmpty

def joinAdjacent : List (Nat × Nat) → List (Nat × Nat)
  | (low, high) :: (low', high') :: rest =>
    if low' ≤ high + 1 then joinAdjacent ((low, max high high') :: rest)
    else (low, high) :: joinAdjacent ((low', high') :: rest)
  | ranges => ranges
termination_by ranges => ranges.length

def ofRanges (ranges : List (Nat × Nat)) : CodeSet :=
  ⟨(joinAdjacent (ranges.mergeSort fun a b => decide (a.1 ≤ b.1))).toArray⟩

def range (low high : Nat) : CodeSet := ⟨#[(low, high)]⟩

def singleton (c : Char) : CodeSet := range c.toNat c.toNat

def union (s t : CodeSet) : CodeSet :=
  ofRanges (s.ranges.toList ++ t.ranges.toList)

def gaps (next : Nat) : List (Nat × Nat) → List (Nat × Nat)
  | [] => if next ≤ last then [(next, last)] else []
  | (low, high) :: rest =>
    if next < low then (next, low - 1) :: gaps (high + 1) rest else gaps (high + 1) rest

def complement (s : CodeSet) : CodeSet := ⟨(gaps 0 s.ranges.toList).toArray⟩

def inter (s t : CodeSet) : CodeSet := (s.complement.union t.complement).complement

def diff (s t : CodeSet) : CodeSet := s.inter t.complement

def symmDiff (s t : CodeSet) : CodeSet := (s.diff t).union (t.diff s)

def holdsBetween (s : CodeSet) (code start stop : Nat) : Bool :=
  if _h : start < stop then
    let middle := start + (stop - start) / 2
    match s.ranges[middle]? with
    | none => false
    | some (low, high) =>
      if code < low then holdsBetween s code start middle
      else if high < code then holdsBetween s code (middle + 1) stop
      else true
  else false
termination_by stop - start
decreasing_by all_goals omega

def contains (s : CodeSet) (c : Char) : Bool :=
  s.holdsBetween c.toNat 0 s.ranges.size

end CodeSet

end FeatureFlags

namespace FeatureFlags.Unicode

def digit (c : Char) : Nat × Bool :=
  if c.isUpper then (c.toNat - 'A'.toNat, false) else (c.toNat - 'a'.toNat, true)

def numbers (text : String) : List Nat :=
  let (done, _) := text.foldl (fun (done, value) c =>
    let (d, ends) := digit c
    if ends then ((value * 26 + d) :: done, 0) else (done, value * 26 + d)) (([] : List Nat), 0)
  done.reverse

def rangesFrom (next : Nat) : List Nat → List (Nat × Nat)
  | gap :: run :: rest =>
    (next + gap, next + gap + run - 1) :: rangesFrom (next + gap + run) rest
  | _ => []

def setOf (lines : List String) : CodeSet :=
  ⟨(rangesFrom 0 (numbers (String.join lines))).toArray⟩

def classesFrom (next : Nat) : List Nat → List (Nat × Nat × Nat)
  | run :: kind :: rest => (next, next + run - 1, kind) :: classesFrom (next + run) rest
  | _ => []

def partitionOf (lines : List String) : List (Nat × Nat × Nat) :=
  classesFrom 0 (numbers (String.join lines))

def inClasses (partition : List (Nat × Nat × Nat)) (kinds : List Nat) : CodeSet :=
  .ofRanges (partition.filterMap fun (low, high, kind) =>
    if kinds.contains kind then some (low, high) else none)

/-- A name of a property as it is compared: letters in lower case, without blanks, hyphens and
underscores, and without a leading `is`. Only `isc` keeps it, being no other name for `c`. -/
def looseName (name : String) : String :=
  let chars := name.toList
  let isPrefixed := (chars.take 2).map Char.toLower == ['i', 's']
  let kept := (if isPrefixed then chars.drop 2 else chars).filterMap fun c =>
    if c == ' ' || c == '_' || c == '-' || 0x7f < c.toNat then none else some c.toLower
  if isPrefixed && kept == ['c'] then "isc" else String.ofList kept

def position? (entries : List (List String)) (name : String) : Option Nat :=
  entries.findIdx? fun names => names.any fun n => looseName n == looseName name

end FeatureFlags.Unicode
