import FeatureFlags.Proofs.Literals
import FeatureFlags.Proofs.OrderedMembers

/-! # What a document can hold, and its value

Every number in a document that is read of a text is a literal. The value of a document is in order
at every depth, so it stands for itself: read again, without a limit, it is the same value. -/

namespace FeatureFlags.Document

inductive WellFormed : Document → Prop
  | unreadable : WellFormed .unreadable
  | null : WellFormed .null
  | bool (b : Bool) : WellFormed (.bool b)
  | number {n : Number} (h : n.IsLiteral) : WellFormed (.number n)
  | string (s : String) : WellFormed (.string s)
  | array {items : List Document} (h : ∀ item ∈ items, WellFormed item) : WellFormed (.array items)
  | object {members : List (String × Document)} (h : ∀ member ∈ members, WellFormed member.2) :
      WellFormed (.object members)

def ReadsWellFormed (reader : List Char → Option (Document × List Char)) : Prop :=
  ∀ text document rest, reader text = some (document, rest) → document.WellFormed

theorem wellFormed_numberOf (negative : Bool) (whole fraction : List Char) (exponent : Int)
    (plain : Bool) : (numberOf negative whole fraction exponent plain).WellFormed := by
  rcases numberOf_cases negative whole fraction exponent plain with h | ⟨n, h, hliteral⟩
  · rw [h]
    exact .unreadable
  · rw [h]
    exact .number hliteral

theorem readsWellFormed_readNumber : ReadsWellFormed readNumber := by
  intro text document rest h
  unfold readNumber at h
  simp only [Option.bind_eq_bind, Option.bind_none, Option.ite_none_left_eq_some] at h
  obtain ⟨-, h⟩ := h
  obtain ⟨fraction, -, h⟩ := Option.bind_eq_some_iff.1 h
  obtain ⟨exponent, -, h⟩ := Option.bind_eq_some_iff.1 h
  cases h
  exact wellFormed_numberOf _ _ _ _ _

variable {fuel : Nat}

theorem readsWellFormed_read (hitems : ReadsWellFormed (readItems fuel []))
    (hmembers : ReadsWellFormed (readMembers fuel (some []))) :
    ReadsWellFormed (read (fuel + 1)) := by
  intro text document rest h
  rw [read] at h
  split at h
  · cases h
    exact .null
  · cases h
    exact .bool true
  · cases h
    exact .bool false
  · obtain ⟨⟨s, after⟩, -, heq⟩ := Option.map_eq_some_iff.1 h
    cases heq
    cases s with
    | none => exact .unreadable
    | some s => exact .string s
  · split at h
    · cases h
      exact .array (by simp)
    · exact hitems _ _ _ h
  · split at h
    · cases h
      exact .object (by simp)
    · exact hmembers _ _ _ h
  · exact readsWellFormed_readNumber _ _ _ h

theorem readsWellFormed_readItems (hread : ReadsWellFormed (read fuel))
    (hitems : ∀ done, (∀ item ∈ done, item.WellFormed) → ReadsWellFormed (readItems fuel done))
    {done : List Document} (hdone : ∀ item ∈ done, item.WellFormed) :
    ReadsWellFormed (readItems (fuel + 1) done) := by
  intro text document rest h
  rw [readItems] at h
  split at h
  · cases h
  · rename_i item after hitem
    have hcons : ∀ other ∈ item :: done, other.WellFormed :=
      List.forall_mem_cons.2 ⟨hread _ _ _ hitem, hdone⟩
    split at h
    · cases h
      refine .array ?_
      intro other hmem
      exact hcons other (List.mem_reverse.1 hmem)
    · exact hitems _ hcons _ _ _ h
    · cases h

theorem readsWellFormed_readMembers (hread : ReadsWellFormed (read fuel))
    (hmembers : ∀ done, (∀ members ∈ done, ∀ member ∈ members, member.2.WellFormed) →
      ReadsWellFormed (readMembers fuel done))
    {done : Option (List (String × Document))}
    (hdone : ∀ members ∈ done, ∀ member ∈ members, member.2.WellFormed) :
    ReadsWellFormed (readMembers (fuel + 1) done) := by
  intro text document rest h
  rw [readMembers] at h
  split at h
  · split at h
    · cases h
    · rename_i key afterKey hkey
      split at h
      · split at h
        · cases h
        · rename_i item afterItem hitem
          -- The members read so far, with this one in front, unless some name was unreadable.
          have hcons : ∀ members ∈ key.bind fun key => done.map ((key, item) :: ·),
              ∀ member ∈ members, member.2.WellFormed := by
            intro members hmembers
            obtain ⟨key, -, hmembers⟩ := Option.bind_eq_some_iff.1 hmembers
            obtain ⟨earlier, hearlier, rfl⟩ := Option.map_eq_some_iff.1 hmembers
            exact List.forall_mem_cons.2 ⟨hread _ _ _ hitem, hdone earlier hearlier⟩
          dsimp only at h
          generalize (key.bind fun key => done.map ((key, item) :: ·)) = written at h hcons
          split at h
          · cases h
            cases written with
            | none => exact .unreadable
            | some members =>
              refine .object ?_
              intro member hmem
              exact hcons members rfl member (List.mem_reverse.1 hmem)
          · exact hmembers _ hcons _ _ _ h
          · cases h
      · cases h
  · cases h

/-- By induction on the fuel for all three readers at once, since each calls the others with less. -/
theorem readsWellFormed (fuel : Nat) :
    ReadsWellFormed (read fuel) ∧
      (∀ done, (∀ item ∈ done, item.WellFormed) → ReadsWellFormed (readItems fuel done)) ∧
      ∀ done, (∀ members ∈ done, ∀ member ∈ members, member.2.WellFormed) →
        ReadsWellFormed (readMembers fuel done) := by
  induction fuel with
  | zero =>
    refine ⟨?_, ?_, ?_⟩
    · intro text document rest h
      cases h
    · intro done hdone text document rest h
      cases h
    · intro done hdone text document rest h
      cases h
  | succ fuel ih =>
    obtain ⟨hread, hitems, hmembers⟩ := ih
    refine ⟨?_, ?_, ?_⟩
    · refine readsWellFormed_read (hitems [] (List.forall_mem_nil _)) (hmembers (some []) ?_)
      rintro _ ⟨⟩
      exact List.forall_mem_nil _
    · intro done hdone
      exact readsWellFormed_readItems hread hitems hdone
    · intro done hdone
      exact readsWellFormed_readMembers hread hmembers hdone

theorem wellFormed_ofText? {text : String} {document : Document} (h : ofText? text = some document) :
    document.WellFormed := by
  unfold ofText? at h
  split at h
  · rename_i written rest hread
    split at h
    · cases h
      exact (readsWellFormed _).1 _ _ _ hread
    · cases h
  · cases h

/-- The JSON value is what it stands for, so its objects are in order at every depth. -/
def Canonical (json : Json) : Prop := value? none (ofJson json) = some json

variable {limit : Option Nat}

theorem values?_ofItems {items : List Json} (h : ∀ item ∈ items, Canonical item) :
    values? none (ofItems items) = some items := by
  induction items with
  | nil => rfl
  | cons item rest ih =>
    obtain ⟨hitem, hrest⟩ := List.forall_mem_cons.1 h
    unfold Canonical at hitem
    simp [ofItems, values?, hitem, ih hrest]

theorem memberValues?_ofMembers {members : List (String × Json)}
    (h : ∀ member ∈ members, Canonical member.2) :
    memberValues? none (ofMembers members) = some members := by
  induction members with
  | nil => rfl
  | cons member rest ih =>
    obtain ⟨hmember, hrest⟩ := List.forall_mem_cons.1 h
    unfold Canonical at hmember
    simp [ofMembers, memberValues?, hmember, ih hrest]

theorem canonical_array {items : List Json} (h : ∀ item ∈ items, Canonical item) :
    Canonical (.array items) := by
  simp [Canonical, ofJson, value?, innerLimit?, values?_ofItems h]

theorem canonical_object {members : Members Json} (hordered : Members.Ordered members)
    (h : ∀ member ∈ members, Canonical member.2) : Canonical (.object members) := by
  simp [Canonical, ofJson, value?, innerLimit?, memberValues?_ofMembers h,
    Members.ofList_of_ordered hordered]

mutual

theorem canonical_of_value? : {document : Document} → {json : Json} → {limit : Option Nat} →
    value? limit document = some json → Canonical json
  | .unreadable, _, _, h => by cases h
  | .null, _, _, h => by
    cases h
    rfl
  | .bool _, _, _, h => by
    cases h
    rfl
  | .number _, _, _, h => by
    cases h
    rfl
  | .string _, _, _, h => by
    cases h
    rfl
  | .array _, _, _, h => by
    obtain ⟨_, -, h⟩ := Option.bind_eq_some_iff.1 h
    obtain ⟨_, hvalues, h⟩ := Option.bind_eq_some_iff.1 h
    cases h
    exact canonical_array (canonical_of_values? hvalues)
  | .object _, _, _, h => by
    obtain ⟨_, -, h⟩ := Option.bind_eq_some_iff.1 h
    obtain ⟨written, hvalues, h⟩ := Option.bind_eq_some_iff.1 h
    cases h
    refine canonical_object (Members.ordered_ofList written) ?_
    intro member hmem
    exact canonical_of_memberValues? hvalues member (Members.mem_of_mem_ofList hmem)

theorem canonical_of_values? : {items : List Document} → {values : List Json} →
    {limit : Option Nat} → values? limit items = some values → ∀ value ∈ values, Canonical value
  | [], _, _, h => by
    cases h
    exact List.forall_mem_nil _
  | _ :: _, _, _, h => by
    obtain ⟨_, hvalue, h⟩ := Option.bind_eq_some_iff.1 h
    obtain ⟨_, hvalues, h⟩ := Option.bind_eq_some_iff.1 h
    cases h
    exact List.forall_mem_cons.2 ⟨canonical_of_value? hvalue, canonical_of_values? hvalues⟩

theorem canonical_of_memberValues? : {members : List (String × Document)} →
    {values : List (String × Json)} → {limit : Option Nat} →
    memberValues? limit members = some values → ∀ member ∈ values, Canonical member.2
  | [], _, _, h => by
    cases h
    exact List.forall_mem_nil _
  | (_, _) :: _, _, _, h => by
    obtain ⟨_, hvalue, h⟩ := Option.bind_eq_some_iff.1 h
    obtain ⟨_, hvalues, h⟩ := Option.bind_eq_some_iff.1 h
    cases h
    exact List.forall_mem_cons.2 ⟨canonical_of_value? hvalue, canonical_of_memberValues? hvalues⟩

end

@[simp] theorem ofJson_eq_null {json : Json} : ofJson json = .null ↔ json = .null := by
  cases json with
  | null => exact ⟨fun _ => rfl, fun _ => rfl⟩
  | _ => constructor <;> intro h <;> cases h

theorem value?_eq_null {document : Document} (h : value? limit document = some .null) :
    document = .null := by
  cases document with
  | null => rfl
  | array _ =>
    obtain ⟨_, -, h⟩ := Option.bind_eq_some_iff.1 h
    obtain ⟨_, -, h⟩ := Option.bind_eq_some_iff.1 h
    cases h
  | object _ =>
    obtain ⟨_, -, h⟩ := Option.bind_eq_some_iff.1 h
    obtain ⟨_, -, h⟩ := Option.bind_eq_some_iff.1 h
    cases h
  | _ => cases h

end FeatureFlags.Document
