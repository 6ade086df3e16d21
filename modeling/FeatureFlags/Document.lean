import FeatureFlags.Json

/-! # JSON documents as written

A document keeps the members of an object in the order and number in which they were written. It
also keeps parts that are well formed but stand for no value, since such a part does no harm
where nobody asks for its value.

A record is written as an object, or as the array of its fields in declared order. Members with
other names do not count, whatever stands in them. -/

namespace FeatureFlags

inductive Document where
  /-- A number beyond the largest double, or a string or member name with half of a surrogate
  pair. -/
  | unreadable
  | null
  | bool (value : Bool)
  | number (value : Number)
  | string (value : String)
  | array (items : List Document)
  | object (members : List (String × Document))
  deriving Repr, Inhabited

namespace Document

def maxLevels : Nat := 127

/-- The limit to what may stand inside an array or object that itself is under a limit. At zero
there may be no array or object at all; without a limit there is none inside either. -/
def innerLimit? : Option Nat → Option (Option Nat)
  | none => some none
  | some 0 => none
  | some (inner + 1) => some (some inner)

mutual

/-- The value of a document, if every part of it has one and not more arrays and objects stand inside
each other than the limit says. Of two members with the same name the later one counts. -/
def value? (limit : Option Nat) : Document → Option Json
  | .unreadable => none
  | .null => some .null
  | .bool b => some (.bool b)
  | .number n => some (.number n)
  | .string s => some (.string s)
  | .array items => do
    let inner ← innerLimit? limit
    let values ← values? inner items
    some (.array values)
  | .object members => do
    let inner ← innerLimit? limit
    let written ← memberValues? inner members
    some (.object (Members.ofList written))

def values? (limit : Option Nat) : List Document → Option (List Json)
  | [] => some []
  | item :: rest => do
    let value ← value? limit item
    let values ← values? limit rest
    some (value :: values)

def memberValues? (limit : Option Nat) : List (String × Document) → Option (List (String × Json))
  | [] => some []
  | (key, item) :: rest => do
    let value ← value? limit item
    let values ← memberValues? limit rest
    some ((key, value) :: values)

end

mutual

def ofJson : Json → Document
  | .null => .null
  | .bool b => .bool b
  | .number n => .number n
  | .string s => .string s
  | .array items => .array (ofItems items)
  | .object members => .object (ofMembers members)

def ofItems : List Json → List Document
  | [] => []
  | item :: rest => ofJson item :: ofItems rest

def ofMembers : List (String × Json) → List (String × Document)
  | [] => []
  | (key, item) :: rest => (key, ofJson item) :: ofMembers rest

end

end Document

end FeatureFlags

namespace FeatureFlags.Document

/-- The given fields of a record, one place for each name. A name that comes twice is refused, and
so is an array with more items than names. -/
def fields? (names : List String) : Document → Option (List (Option Document))
  | .object members =>
    if names.any fun name => decide (1 < members.countP (·.1 == name)) then none
    else some (names.map fun name => List.lookup name members)
  | .array items =>
    if items.length ≤ names.length then
      some (items.map some ++ List.replicate (names.length - items.length) none)
    else none
  | _ => none

def required {α : Type} (read : Document → Option α) : Option Document → Option α
  | none => none
  | some document => read document

def orDefault {α : Type} (default : α) (read : Document → Option α) : Option Document → Option α
  | none => some default
  | some document => read document

def optional {α : Type} (read : Document → Option α) : Option Document → Option (Option α)
  | none => some none
  | some .null => some none
  | some document => (read document).map some

def asBool? : Document → Option Bool
  | .bool b => some b
  | _ => none

def asString? : Document → Option String
  | .string s => some s
  | _ => none

def asNatBelow? (bound : Nat) : Document → Option Nat
  | .number (.int n) => if 0 ≤ n ∧ n < bound then some n.toNat else none
  | _ => none

def asUInt64? (document : Document) : Option UInt64 :=
  (document.asNatBelow? UInt64.size).map UInt64.ofNat

def asUInt32? (document : Document) : Option UInt32 :=
  (document.asNatBelow? UInt32.size).map UInt32.ofNat

def asBinary64? : Document → Option Binary64
  | .number n => some n.toBinary64
  | _ => none

def asList? {α : Type} (read : Document → Option α) : Document → Option (List α)
  | .array items => items.mapM read
  | _ => none

/-- One of several names: written as a string, or as the only member of an object with `null`
under it. -/
def asName? : Document → Option String
  | .string name => some name
  | .object [(name, .null)] => some name
  | _ => none

end FeatureFlags.Document
