import FeatureFlags.Document

/-! # Entities and what is known about them -/

namespace FeatureFlags

inductive Value where
  | null
  | boolean (value : Bool)
  | number (value : Binary64)
  | string (value : String)
  | array (items : List Value)
  | object (members : List (String × Value))
  deriving Repr, Inhabited

abbrev Context := Members Value

namespace Value

def number? : Value → Option Binary64
  | .number x => some x
  | _ => none

def string? : Value → Option String
  | .string s => some s
  | _ => none

def array? : Value → Option (List Value)
  | .array items => some items
  | _ => none

def object? : Value → Option Context
  | .object members => some members
  | _ => none

mutual

def decEq : (a b : Value) → Decidable (a = b)
  | .null, b => by cases b <;> first | exact isTrue rfl | exact isFalse (by simp)
  | .boolean x, b => by
    cases b with
    | boolean y => exact decidable_of_iff (x = y) (by simp)
    | _ => exact isFalse (by simp)
  | .number x, b => by
    cases b with
    | number y => exact decidable_of_iff (x = y) (by simp)
    | _ => exact isFalse (by simp)
  | .string x, b => by
    cases b with
    | string y => exact decidable_of_iff (x = y) (by simp)
    | _ => exact isFalse (by simp)
  | .array xs, b => by
    cases b with
    | array ys => exact @decidable_of_iff _ (xs = ys) (by simp) (decEqItems xs ys)
    | _ => exact isFalse (by simp)
  | .object xs, b => by
    cases b with
    | object ys => exact @decidable_of_iff _ (xs = ys) (by simp) (decEqMembers xs ys)
    | _ => exact isFalse (by simp)

def decEqItems : (xs ys : List Value) → Decidable (xs = ys)
  | [], [] => isTrue rfl
  | [], _ :: _ => isFalse (by simp)
  | _ :: _, [] => isFalse (by simp)
  | x :: xs, y :: ys =>
    match decEq x y, decEqItems xs ys with
    | isTrue h, isTrue hs => isTrue (by rw [h, hs])
    | isFalse h, _ => isFalse (by simp [h])
    | _, isFalse hs => isFalse (by simp [hs])

def decEqMembers : (xs ys : List (String × Value)) → Decidable (xs = ys)
  | [], [] => isTrue rfl
  | [], _ :: _ => isFalse (by simp)
  | _ :: _, [] => isFalse (by simp)
  | (k, x) :: xs, (l, y) :: ys =>
    if hk : k = l then
      match decEq x y, decEqMembers xs ys with
      | isTrue h, isTrue hs => isTrue (by rw [hk, h, hs])
      | isFalse h, _ => isFalse (by simp [h])
      | _, isFalse hs => isFalse (by simp [hs])
    else isFalse (by simp [hk])

end

instance : DecidableEq Value := decEq

mutual

def ofJson : Json → Value
  | .null => .null
  | .bool b => .boolean b
  | .number n => .number n.toBinary64
  | .string s => .string s
  | .array items => .array (ofItems items)
  | .object members => .object (Members.ofList (ofMembers members))

def ofItems : List Json → List Value
  | [] => []
  | item :: rest => ofJson item :: ofItems rest

def ofMembers : List (String × Json) → List (String × Value)
  | [] => []
  | (key, item) :: rest => (key, ofJson item) :: ofMembers rest

end

mutual

def ofDocument? (limit : Option Nat) : Document → Option Value
  | .unreadable => none
  | .null => some .null
  | .bool b => some (.boolean b)
  | .number n => some (.number n.toBinary64)
  | .string s => some (.string s)
  | .array items => do
    let inner ← Document.innerLimit? limit
    let values ← ofDocumentItems? inner items
    some (.array values)
  | .object members => do
    let inner ← Document.innerLimit? limit
    let written ← ofDocumentMembers? inner members
    some (.object (Members.ofList written))

def ofDocumentItems? (limit : Option Nat) : List Document → Option (List Value)
  | [] => some []
  | item :: rest => do
    let value ← ofDocument? limit item
    let values ← ofDocumentItems? limit rest
    some (value :: values)

def ofDocumentMembers? (limit : Option Nat) :
    List (String × Document) → Option (List (String × Value))
  | [] => some []
  | (key, item) :: rest => do
    let value ← ofDocument? limit item
    let values ← ofDocumentMembers? limit rest
    some ((key, value) :: values)

end

mutual

/-- A value written as JSON. A number that is not finite has no literal and becomes `null`. -/
def toJson : Value → Json
  | .null => .null
  | .boolean b => .bool b
  | .number x => .ofBinary64 x
  | .string s => .string s
  | .array items => .array (toItems items)
  | .object members => .object (toMembers members)

def toItems : List Value → List Json
  | [] => []
  | item :: rest => toJson item :: toItems rest

def toMembers : List (String × Value) → List (String × Json)
  | [] => []
  | (key, item) :: rest => (key, toJson item) :: toMembers rest

end

end Value

structure Entity where
  id : String
  /-- Only an object can be evaluated; anything else is kept and refused then. -/
  context : Value
  /-- Takes the place of `id` for sampling. -/
  bucketKey : Option String
  deriving DecidableEq, Repr

namespace Entity

def samplingKey (entity : Entity) : String :=
  entity.bucketKey.getD entity.id

def ofDocumentWithin? (limit : Option Nat) (document : Document) : Option Entity :=
  match document.fields? ["id", "context", "bucketKey"] with
  | some [id, context, bucketKey] => do
    some {
      id := ← Document.required Document.asString? id
      context := ← Document.orDefault (.object []) (Value.ofDocument? limit) context
      bucketKey := ← Document.optional Document.asString? bucketKey }
  | _ => none

def ofDocument? (document : Document) : Option Entity :=
  ofDocumentWithin? (some (Document.maxLevels - 1)) document

/-- The entity that a JSON value stands for. Values, unlike texts, are under no limit. -/
def ofJson? (json : Json) : Option Entity :=
  ofDocumentWithin? none (.ofJson json)

def toJson (entity : Entity) : Json :=
  .ofMembers (("id", .string entity.id) :: ("context", entity.context.toJson) ::
    (entity.bucketKey.map fun key => ("bucketKey", Json.string key)).toList)

end Entity

end FeatureFlags
