import FeatureFlags.Binary64

/-! # JSON values

The members of an object are one per key and in key order. -/

namespace FeatureFlags

/-- The members of an object. Built by `Members.insert`, the keys are distinct and increasing,
so two objects with the same members are equal. -/
abbrev Members (α : Type) := List (String × α)

namespace Members

variable {α : Type}

def insert (key : String) (value : α) : Members α → Members α
  | [] => [(key, value)]
  | (k, v) :: rest =>
    if key < k then (key, value) :: (k, v) :: rest
    else if key = k then (key, value) :: rest
    else (k, v) :: insert key value rest

def find? (key : String) : Members α → Option α
  | [] => none
  | (k, v) :: rest => if k = key then some v else find? key rest

def has (key : String) (members : Members α) : Bool :=
  (find? key members).isSome

/-- The members of a written list: a later member replaces an earlier one of the same key. -/
def ofList (written : List (String × α)) : Members α :=
  written.foldl (fun members (key, value) => insert key value members) []

@[simp] theorem find?_nil (key : String) : find? key ([] : Members α) = none := rfl

theorem find?_insert (key other : String) (value : α) (members : Members α) :
    find? other (insert key value members) =
      if key = other then some value else find? other members := by
  induction members with
  | nil => rfl
  | cons head rest ih =>
    obtain ⟨k, v⟩ := head
    by_cases hlt : key < k
    · simp [insert, hlt, find?]
    · by_cases heq : key = k
      · subst heq
        simp [insert, find?]
        by_cases hko : key = other <;> simp [hko]
      · simp only [insert, hlt, heq, if_false, find?, ih]
        by_cases hko : k = other
        · subst hko
          simp [heq]
        · simp [hko]

end Members

/-- A JSON number. A literal without fraction and exponent that fits 64 bits, signed or unsigned,
is an integer; every other one is a double. -/
inductive Number where
  | int (value : Int)
  | real (value : Binary64)
  deriving DecidableEq, Repr

def Number.toBinary64 : Number → Binary64
  | .int n => .ofInt n
  | .real x => x

inductive Json where
  | null
  | bool (value : Bool)
  | number (value : Number)
  | string (value : String)
  | array (items : List Json)
  | object (members : List (String × Json))
  deriving Repr, Inhabited

namespace Json

mutual

def decEq : (a b : Json) → Decidable (a = b)
  | .null, b => by cases b <;> first | exact isTrue rfl | exact isFalse (by simp)
  | .bool x, b => by
    cases b with
    | bool y => exact decidable_of_iff (x = y) (by simp)
    | _ => exact isFalse (by simp)
  | .number x, b => by
    cases b with
    | number y => exact decidable_of_iff (x = y) (by simp)
    | _ => exact isFalse (by simp)
  | .string x, b => by
    cases b with
    | string y => exact decidable_of_iff (x = y) (by simp)
    | _ => exact isFalse (by simp)
  | .array xs, b => by
    cases b with
    | array ys => exact @decidable_of_iff _ (xs = ys) (by simp) (decEqItems xs ys)
    | _ => exact isFalse (by simp)
  | .object xs, b => by
    cases b with
    | object ys => exact @decidable_of_iff _ (xs = ys) (by simp) (decEqMembers xs ys)
    | _ => exact isFalse (by simp)

def decEqItems : (xs ys : List Json) → Decidable (xs = ys)
  | [], [] => isTrue rfl
  | [], _ :: _ => isFalse (by simp)
  | _ :: _, [] => isFalse (by simp)
  | x :: xs, y :: ys =>
    match decEq x y, decEqItems xs ys with
    | isTrue h, isTrue hs => isTrue (by rw [h, hs])
    | isFalse h, _ => isFalse (by simp [h])
    | _, isFalse hs => isFalse (by simp [hs])

def decEqMembers : (xs ys : List (String × Json)) → Decidable (xs = ys)
  | [], [] => isTrue rfl
  | [], _ :: _ => isFalse (by simp)
  | _ :: _, [] => isFalse (by simp)
  | (k, x) :: xs, (l, y) :: ys =>
    if hk : k = l then
      match decEq x y, decEqMembers xs ys with
      | isTrue h, isTrue hs => isTrue (by rw [hk, h, hs])
      | isFalse h, _ => isFalse (by simp [h])
      | _, isFalse hs => isFalse (by simp [hs])
    else isFalse (by simp [hk])

end

instance : DecidableEq Json := decEq

def ofMembers (written : List (String × Json)) : Json :=
  .object (Members.ofList written)

def ofNat (n : Nat) : Json := .number (.int n)

/-- A double as a value. No literal writes one that is not finite, so `null` stands for it. -/
def ofBinary64 (x : Binary64) : Json :=
  if x.isFinite then .number (.real x) else .null

def ofOption {α : Type} (encode : α → Json) : Option α → Json
  | none => .null
  | some a => encode a

def member? (key : String) : Json → Option Json
  | .object members => Members.find? key members
  | _ => none

end Json

end FeatureFlags
