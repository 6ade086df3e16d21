import Mathlib.Data.List.Forall2
import FeatureFlags.Context
import FeatureFlags.Document.Reader
import FeatureFlags.Proofs.OrderedMembers

/-! # Two ways of reading a context

A context can be read off a document at once, or a JSON value is read first and converted then. Both
ways admit the same documents and come to the same value. -/

namespace FeatureFlags.Value

/-- The value says what the document says: numbers are doubles, items keep their order, and of
several members with one name the last one counts, at every depth. -/
inductive Mirrors : Document → Value → Prop
  | null : Mirrors .null .null
  | boolean (b : Bool) : Mirrors (.bool b) (.boolean b)
  | number (n : Number) : Mirrors (.number n) (.number n.toBinary64)
  | string (s : String) : Mirrors (.string s) (.string s)
  | array {items : List Document} {values : List Value} (h : List.Forall₂ Mirrors items values) :
      Mirrors (.array items) (.array values)
  | object {members : List (String × Document)} {written : List (String × Value)}
      {context : Context} (hnames : members.map (·.1) = written.map (·.1))
      (hvalues : List.Forall₂ Mirrors (members.map (·.2)) (written.map (·.2)))
      (hordered : Members.Ordered context)
      (hlast : ∀ key, context.find? key = List.lookup key written.reverse) :
      Mirrors (.object members) (.object context)

mutual

theorem mirrors_of_ofDocument? : {document : Document} → {value : Value} → {limit : Option Nat} →
    ofDocument? limit document = some value → Mirrors document value
  | .unreadable, _, _, h => by cases h
  | .null, _, _, h => by
    cases h
    exact .null
  | .bool b, _, _, h => by
    cases h
    exact .boolean b
  | .number n, _, _, h => by
    cases h
    exact .number n
  | .string s, _, _, h => by
    cases h
    exact .string s
  | .array _, _, _, h => by
    obtain ⟨_, -, h⟩ := Option.bind_eq_some_iff.1 h
    obtain ⟨_, hvalues, h⟩ := Option.bind_eq_some_iff.1 h
    cases h
    exact .array (mirrors_of_ofDocumentItems? hvalues)
  | .object _, _, _, h => by
    obtain ⟨_, -, h⟩ := Option.bind_eq_some_iff.1 h
    obtain ⟨written, hwritten, h⟩ := Option.bind_eq_some_iff.1 h
    cases h
    obtain ⟨hnames, hvalues⟩ := mirrors_of_ofDocumentMembers? hwritten
    refine .object hnames hvalues (Members.ordered_ofList written) ?_
    intro key
    exact Members.find?_ofList key written

theorem mirrors_of_ofDocumentItems? : {items : List Document} → {values : List Value} →
    {limit : Option Nat} → ofDocumentItems? limit items = some values →
    List.Forall₂ Mirrors items values
  | [], _, _, h => by
    cases h
    exact .nil
  | _ :: _, _, _, h => by
    obtain ⟨_, hvalue, h⟩ := Option.bind_eq_some_iff.1 h
    obtain ⟨_, hvalues, h⟩ := Option.bind_eq_some_iff.1 h
    cases h
    exact .cons (mirrors_of_ofDocument? hvalue) (mirrors_of_ofDocumentItems? hvalues)

theorem mirrors_of_ofDocumentMembers? : {members : List (String × Document)} →
    {written : List (String × Value)} → {limit : Option Nat} →
    ofDocumentMembers? limit members = some written →
    members.map (·.1) = written.map (·.1) ∧
      List.Forall₂ Mirrors (members.map (·.2)) (written.map (·.2))
  | [], _, _, h => by
    cases h
    exact ⟨rfl, .nil⟩
  | (key, _) :: _, _, _, h => by
    obtain ⟨_, hvalue, h⟩ := Option.bind_eq_some_iff.1 h
    obtain ⟨_, hwritten, h⟩ := Option.bind_eq_some_iff.1 h
    cases h
    obtain ⟨hnames, hvalues⟩ := mirrors_of_ofDocumentMembers? hwritten
    exact ⟨congrArg (key :: ·) hnames, .cons (mirrors_of_ofDocument? hvalue) hvalues⟩

end

theorem ofMembers_insert (key : String) (json : Json) (members : Members Json) :
    ofMembers (members.insert key json) = Members.insert key (ofJson json) (ofMembers members) := by
  induction members with
  | nil => rfl
  | cons head rest ih =>
    obtain ⟨other, item⟩ := head
    rw [ofMembers, Members.insert, Members.insert]
    by_cases hlt : key < other
    · rw [if_pos hlt, if_pos hlt]
      rfl
    · rw [if_neg hlt, if_neg hlt]
      by_cases heq : key = other
      · rw [if_pos heq, if_pos heq]
        rfl
      · rw [if_neg heq, if_neg heq, ofMembers, ih]

theorem ofMembers_ofList (written : List (String × Json)) :
    ofMembers (Members.ofList written) = Members.ofList (ofMembers written) := by
  have hfold : ∀ members : Members Json,
      ofMembers
          (written.foldl (fun members (key, json) => Members.insert key json members) members) =
        (ofMembers written).foldl (fun members (key, value) => Members.insert key value members)
          (ofMembers members) := by
    induction written with
    | nil =>
      intro members
      rfl
    | cons head rest ih =>
      intro members
      obtain ⟨key, json⟩ := head
      rw [List.foldl_cons, ih, ofMembers_insert]
      rfl
  exact hfold []

theorem ofJson_object_ofList (written : List (String × Json)) :
    ofJson (.object (Members.ofList written)) = .object (Members.ofList (ofMembers written)) := by
  rw [ofJson, ofMembers_ofList, Members.ofList_of_ordered (Members.ordered_ofList _)]

mutual

theorem ofDocument?_eq_map : (limit : Option Nat) → (document : Document) →
    ofDocument? limit document = (document.value? limit).map ofJson
  | _, .unreadable => rfl
  | _, .null => rfl
  | _, .bool _ => rfl
  | _, .number _ => rfl
  | _, .string _ => rfl
  | limit, .array items => by
    rw [ofDocument?, Document.value?]
    cases Document.innerLimit? limit with
    | none => rfl
    | some inner =>
      change (ofDocumentItems? inner items >>= _) = _
      rw [ofDocumentItems?_eq_map inner items]
      cases hvalues : Document.values? inner items with
      | none => simp [hvalues]
      | some values => simp [hvalues, ofJson]
  | limit, .object members => by
    rw [ofDocument?, Document.value?]
    cases Document.innerLimit? limit with
    | none => rfl
    | some inner =>
      change (ofDocumentMembers? inner members >>= _) = _
      rw [ofDocumentMembers?_eq_map inner members]
      cases hwritten : Document.memberValues? inner members with
      | none => simp [hwritten]
      | some written => simp [hwritten, ofJson_object_ofList]

theorem ofDocumentItems?_eq_map : (limit : Option Nat) → (items : List Document) →
    ofDocumentItems? limit items = (Document.values? limit items).map ofItems
  | _, [] => rfl
  | limit, item :: rest => by
    rw [ofDocumentItems?, Document.values?, ofDocument?_eq_map limit item,
      ofDocumentItems?_eq_map limit rest]
    cases item.value? limit with
    | none => rfl
    | some value => cases Document.values? limit rest <;> rfl

theorem ofDocumentMembers?_eq_map : (limit : Option Nat) → (members : List (String × Document)) →
    ofDocumentMembers? limit members = (Document.memberValues? limit members).map ofMembers
  | _, [] => rfl
  | limit, (key, item) :: rest => by
    rw [ofDocumentMembers?, Document.memberValues?, ofDocument?_eq_map limit item,
      ofDocumentMembers?_eq_map limit rest]
    cases item.value? limit with
    | none => rfl
    | some value => cases Document.memberValues? limit rest <;> rfl

end

section

variable (limit : Option Nat) (document : Document)

def readNull? : Option Value :=
  match document with
  | .null => some .null
  | _ => none

def readArray? : Option Value := do
  let inner ← Document.innerLimit? limit
  let values ← document.asList? (ofDocument? inner)
  some (.array values)

def readObject? : Option Value :=
  match document with
  | .object members => do
    let inner ← Document.innerLimit? limit
    let written ← members.mapM fun member => (ofDocument? inner member.2).map (member.1, ·)
    some (.object (Members.ofList written))
  | _ => none

def tried : List (Option Value) := [
  readNull? document,
  document.asBool?.map .boolean,
  document.asBinary64?.map .number,
  document.asString?.map .string,
  readArray? limit document,
  readObject? limit document]

theorem ofDocumentItems?_eq_mapM (items : List Document) :
    ofDocumentItems? limit items = items.mapM (ofDocument? limit) := by
  induction items with
  | nil => rfl
  | cons item rest ih =>
    rw [ofDocumentItems?, List.mapM_cons, ih]
    rfl

theorem ofDocumentMembers?_eq_mapM (members : List (String × Document)) :
    ofDocumentMembers? limit members =
      members.mapM fun member => (ofDocument? limit member.2).map (member.1, ·) := by
  induction members with
  | nil => rfl
  | cons member rest ih =>
    obtain ⟨key, item⟩ := member
    rw [ofDocumentMembers?, List.mapM_cons, ih]
    cases ofDocument? limit item <;> simp

theorem readArray?_eq_none (h : ∀ items, document ≠ .array items) :
    readArray? limit document = none := by
  have hlist : ∀ inner, document.asList? (ofDocument? inner) = none := by
    intro inner
    cases document with
    | array items => exact absurd rfl (h items)
    | _ => rfl
  rw [readArray?]
  cases Document.innerLimit? limit with
  | none => rfl
  | some inner => simp [hlist]

/-- The first reader that takes the document decides. What stands in an array or object is read the
same way, so this is so at every depth. -/
theorem ofDocument?_eq_firstSome :
    ofDocument? limit document = (tried limit document).findSome? id := by
  cases document with
  | unreadable =>
    have htried : tried limit .unreadable = [none, none, none, none, none, none] := by
      have harray : readArray? limit .unreadable = none := readArray?_eq_none _ _ nofun
      rw [tried, harray]
      rfl
    rw [htried]
    rfl
  | array items =>
    have hread : ofDocument? limit (.array items) = readArray? limit (.array items) := by
      simp only [ofDocument?, readArray?, Document.asList?, ofDocumentItems?_eq_mapM]
    have htried : tried limit (.array items) =
        [none, none, none, none, readArray? limit (.array items), none] := rfl
    rw [hread, htried]
    cases readArray? limit (.array items) <;> rfl
  | object members =>
    have hread : ofDocument? limit (.object members) = readObject? limit (.object members) := by
      simp only [ofDocument?, readObject?, ofDocumentMembers?_eq_mapM]
    have htried : tried limit (.object members) =
        [none, none, none, none, none, readObject? limit (.object members)] := by
      have harray : readArray? limit (.object members) = none := readArray?_eq_none _ _ nofun
      rw [tried, harray]
      rfl
    rw [hread, htried]
    cases readObject? limit (.object members) <;> rfl
  | _ => rfl

end

/-- Reading a context off a text at once comes to the same as reading a JSON value and converting
it, under every limit; so does trying one form of a value after the other. What is read says what
the document says, and is `null` only where `null` is written. -/
theorem readings_agree :
    (∀ text : String,
      (Document.ofText? text).bind (ofDocument? (some Document.maxLevels)) =
        (Json.ofText? text).map ofJson) ∧
    (∀ limit document,
      ofDocument? limit document = (Document.value? limit document).map ofJson ∧
      ofDocument? limit document = (tried limit document).findSome? id ∧
      ∀ value, ofDocument? limit document = some value → Mirrors document value) := by
  constructor
  · intro text
    rw [Json.ofText?]
    cases Document.ofText? text with
    | none => rfl
    | some document => exact ofDocument?_eq_map (some Document.maxLevels) document
  · intro limit document
    refine ⟨ofDocument?_eq_map limit document, ofDocument?_eq_firstSome limit document, ?_⟩
    intro value hvalue
    exact mirrors_of_ofDocument? hvalue

def repeated : Document :=
  .object [
    ("seen", .null),
    ("plan", .object [("seats", .number (.int 5)), ("seats", .number (.int 9007199254740993))]),
    ("seen", .array [.bool true, .null])]

theorem readings_agree_repeated :
    ∃ json, repeated.value? (some 2) = some json ∧
      ofDocument? (some 2) repeated = some (ofJson json) ∧
      ofJson json = .object [
        ("plan", .object [("seats", .number ⟨0x4340000000000000⟩)]),
        ("seen", .array [.boolean true, .null])] ∧
      Mirrors repeated (ofJson json) := by
  obtain ⟨hmap, -, hmirrors⟩ := readings_agree.2 (some 2) repeated
  have hjson : repeated.value? (some 2) = some (.object [
      ("plan", .object [("seats", .number (.int 9007199254740993))]),
      ("seen", .array [.bool true, .null])]) := by decide +kernel
  rw [hjson, Option.map_some] at hmap
  exact ⟨_, hjson, hmap, by decide +kernel, hmirrors _ hmap⟩

end FeatureFlags.Value
