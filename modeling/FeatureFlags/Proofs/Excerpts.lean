import Mathlib.Data.List.TakeWhile
import FeatureFlags.Proofs.Literals
import FeatureFlags.Proofs.Spelling
import FeatureFlags.Proofs.Targets
import FeatureFlags.Proofs.WhiteSpace

/-! # Items of a text that are texts of their own

A number or a string that stands in an array is read in the same way where it stands alone. So for
every item of an array that a text writes, if it is a number or a string, there is a text that
writes just the item, with no blank around it. -/

namespace FeatureFlags

namespace Document

section

variable {α : Type} {reader other : List Char → Option (α × List Char)}

/-- What is read of the text is its front, which has no blank in it, and the same is read if less stands
behind the front. -/
def DetachesAt (reader : List Char → Option (α × List Char)) (text : List Char) (a : α)
    (rest : List Char) : Prop :=
  ∃ front, text = front ++ rest ∧ (∀ c ∈ front, Text.isBlank c = false) ∧
    ∀ back, back <+: rest → reader (front ++ back) = some (a, back)

def Detaches (reader : List Char → Option (α × List Char)) : Prop :=
  ∀ text a rest, reader text = some (a, rest) → DetachesAt reader text a rest

/-- To skip some characters first changes nothing, if one reader then goes on like another. -/
theorem Detaches.behind (hreader : Detaches reader) (hnil : reader [] = none) {c : Char}
    {before text rest : List Char} {a : α} (hblank : ∀ c ∈ before, Text.isBlank c = false)
    (hsame : ∀ tail, other (before ++ c :: tail) = reader (c :: tail))
    (h : reader (c :: text) = some (a, rest)) : DetachesAt other (before ++ c :: text) a rest := by
  obtain ⟨front, htext, hfront, hread⟩ := hreader _ _ _ h
  cases front with
  | nil =>
    have hempty := hread [] List.nil_prefix
    rw [List.nil_append, hnil] at hempty
    cases hempty
  | cons d front =>
    obtain ⟨rfl, rfl⟩ := List.cons.inj htext
    refine ⟨before ++ c :: front, by simp, List.forall_mem_append.2 ⟨hblank, hfront⟩, ?_⟩
    intro back hback
    rw [List.append_assoc, List.cons_append, hsame]
    exact hread back hback

end

theorem isBlank_of_isDigit {c : Char} (h : c.isDigit = true) : Text.isBlank c = false := by
  simp only [Char.isDigit, Bool.and_eq_true, decide_eq_true_eq] at h
  obtain ⟨hlow, hhigh⟩ := h
  have hlow : 48 ≤ c.toNat := UInt32.le_iff_toNat_le.1 hlow
  have hhigh : c.toNat ≤ 57 := UInt32.le_iff_toNat_le.1 hhigh
  simp [Text.isBlank]
  omega

section

variable {p : Char → Bool} {text back : List Char}

theorem takeWhile_of_isPrefix (h : back <+: text.dropWhile p) : back.takeWhile p = [] := by
  cases back with
  | nil => rfl
  | cons c back =>
    obtain ⟨more, hmore⟩ := h
    have hc := List.head?_dropWhile_not p text
    rw [← hmore] at hc
    exact List.takeWhile_cons_of_neg (by simpa using hc)

theorem takeWhile_append_of_isPrefix (h : back <+: text.dropWhile p) :
    (text.takeWhile p ++ back).takeWhile p = text.takeWhile p := by
  rw [List.takeWhile_append_of_pos fun c hc => List.mem_takeWhile_imp hc, takeWhile_of_isPrefix h,
    List.append_nil]

theorem dropWhile_append_of_isPrefix (h : back <+: text.dropWhile p) :
    (text.takeWhile p ++ back).dropWhile p = back := by
  have hback := List.takeWhile_append_dropWhile (p := p) (l := back)
  rw [takeWhile_of_isPrefix h, List.nil_append] at hback
  rw [List.dropWhile_append_of_pos fun c hc => List.mem_takeWhile_imp hc, hback]

end

theorem isBlank_of_mem_digits {text : List Char} :
    ∀ c ∈ text.takeWhile Char.isDigit, Text.isBlank c = false := by
  intro c hc
  exact isBlank_of_isDigit (List.mem_takeWhile_imp hc)

theorem detaches_readFraction : Detaches readFraction := by
  intro text fraction rest h
  unfold readFraction at h
  split at h
  · rename_i after
    dsimp only at h
    split at h
    · cases h
    · rename_i hdigits
      cases h
      refine ⟨'.' :: after.takeWhile Char.isDigit, ?_, ?_, ?_⟩
      · rw [List.cons_append, List.takeWhile_append_dropWhile]
      · exact List.forall_mem_cons.2 ⟨by decide, isBlank_of_mem_digits⟩
      · intro back hback
        rw [List.cons_append, readFraction, takeWhile_append_of_isPrefix hback,
          dropWhile_append_of_isPrefix hback]
        exact if_neg hdigits
  · rename_i hpoint
    cases h
    refine ⟨[], rfl, List.forall_mem_nil _, ?_⟩
    rintro back ⟨more, rfl⟩
    rw [List.nil_append, readFraction]
    rintro after rfl
    exact hpoint _ rfl

def readPlaces (negative : Bool) (text : List Char) : Option (Option Int × List Char) :=
  let digits := text.takeWhile Char.isDigit
  if digits.isEmpty then none
  else
    let value : Int := decimalValue digits
    some (some (if negative then -value else value), text.dropWhile Char.isDigit)

theorem detaches_readPlaces (negative : Bool) : Detaches (readPlaces negative) := by
  intro text places rest h
  unfold readPlaces at h
  dsimp only at h
  split at h
  · cases h
  · rename_i hdigits
    cases h
    refine ⟨text.takeWhile Char.isDigit, List.takeWhile_append_dropWhile.symm,
      isBlank_of_mem_digits, ?_⟩
    intro back hback
    rw [readPlaces, takeWhile_append_of_isPrefix hback, dropWhile_append_of_isPrefix hback]
    exact if_neg hdigits

section

variable {e : Char} (he : (e == 'e' || e == 'E') = true) (text : List Char)
include he

theorem readExponent_letter : readExponent [e] = none :=
  if_pos he

theorem readExponent_minus : readExponent (e :: '-' :: text) = readPlaces true text :=
  if_pos he

theorem readExponent_plus : readExponent (e :: '+' :: text) = readPlaces false text :=
  if_pos he

theorem readExponent_digit {c : Char} (hminus : c ≠ '-') (hplus : c ≠ '+') :
    readExponent (e :: c :: text) = readPlaces false (c :: text) := by
  rw [readExponent, if_pos he]
  · rfl
  · intro _ heq
    exact hminus (List.cons.inj heq).1
  · intro _ heq
    exact hplus (List.cons.inj heq).1

theorem isBlank_of_exponent : Text.isBlank e = false := by
  rcases Bool.or_eq_true_iff.1 he with h | h
  · rw [eq_of_beq h]
    decide
  · rw [eq_of_beq h]
    decide

end

theorem readExponent_none {text : List Char}
    (h : ∀ e after, text = e :: after → ¬ (e == 'e' || e == 'E') = true) :
    readExponent text = some (none, text) := by
  cases text with
  | nil => rfl
  | cons e after => exact if_neg (h e after rfl)

theorem detachesAt_readExponent {e : Char} (he : (e == 'e' || e == 'E') = true)
    {after rest : List Char} {exponent : Option Int}
    (h : readExponent (e :: after) = some (exponent, rest)) :
    DetachesAt readExponent (e :: after) exponent rest := by
  have hletter := isBlank_of_exponent he
  have hsigned : ∀ (sign : Char) (negative : Bool) (digits : List Char),
      Text.isBlank sign = false →
      (∀ text, readExponent (e :: sign :: text) = readPlaces negative text) →
      readExponent (e :: sign :: digits) = some (exponent, rest) →
      DetachesAt readExponent (e :: sign :: digits) exponent rest := by
    intro sign negative digits hsign hsame h
    rw [hsame] at h
    cases digits with
    | nil => cases h
    | cons c digits =>
      have hblank : ∀ d ∈ [e, sign], Text.isBlank d = false :=
        List.forall_mem_cons.2 ⟨hletter, List.forall_mem_singleton.2 hsign⟩
      exact (detaches_readPlaces negative).behind rfl hblank (fun tail => hsame (c :: tail)) h
  cases after with
  | nil =>
    rw [readExponent_letter he] at h
    cases h
  | cons c after =>
    by_cases hminus : c = '-'
    · subst hminus
      exact hsigned '-' true after (by decide) (readExponent_minus he) h
    by_cases hplus : c = '+'
    · subst hplus
      exact hsigned '+' false after (by decide) (readExponent_plus he) h
    rw [readExponent_digit he after hminus hplus] at h
    exact (detaches_readPlaces false).behind rfl (List.forall_mem_singleton.2 hletter)
      (fun tail => readExponent_digit he tail hminus hplus) h

theorem detaches_readExponent : Detaches readExponent := by
  intro text exponent rest h
  by_cases hnone : ∀ e after, text = e :: after → ¬ (e == 'e' || e == 'E') = true
  · rw [readExponent_none hnone] at h
    cases h
    refine ⟨[], rfl, List.forall_mem_nil _, ?_⟩
    rintro back ⟨more, rfl⟩
    apply readExponent_none
    rintro e after rfl
    exact hnone e _ rfl
  · simp only [not_forall, not_not] at hnone
    obtain ⟨e, after, rfl, he⟩ := hnone
    exact detachesAt_readExponent he h

def readUnsigned (negative : Bool) (text : List Char) : Option (Document × List Char) := do
  let whole := text.takeWhile Char.isDigit
  if whole.isEmpty || (whole.head? == some '0' && 1 < whole.length) then none
  let (fraction, text) ← readFraction (text.dropWhile Char.isDigit)
  let (exponent, text) ← readExponent text
  some (numberOf negative whole (fraction.getD []) (exponent.getD 0)
    (fraction.isNone && exponent.isNone), text)

theorem readNumber_minus (text : List Char) : readNumber ('-' :: text) = readUnsigned true text :=
  rfl

theorem readNumber_of_ne {c : Char} (h : c ≠ '-') (text : List Char) :
    readNumber (c :: text) = readUnsigned false (c :: text) := by
  unfold readNumber readUnsigned
  split
  rename_i heq
  split at heq
  · rename_i hc
    exact absurd (List.cons.inj hc).1 h
  · cases heq
    rfl

theorem detaches_readUnsigned (negative : Bool) : Detaches (readUnsigned negative) := by
  intro text document rest h
  unfold readUnsigned at h
  simp only [Option.bind_eq_bind, Option.bind_none, Option.ite_none_left_eq_some] at h
  obtain ⟨hwhole, h⟩ := h
  obtain ⟨⟨fraction, behind⟩, hfraction, h⟩ := Option.bind_eq_some_iff.1 h
  obtain ⟨⟨exponent, rest⟩, hexponent, h⟩ := Option.bind_eq_some_iff.1 h
  cases h
  obtain ⟨front, hbehind, hfront, hreadFraction⟩ := detaches_readFraction _ _ _ hfraction
  obtain ⟨back, rfl, hback, hreadExponent⟩ := detaches_readExponent _ _ _ hexponent
  refine ⟨text.takeWhile Char.isDigit ++ (front ++ back), ?_, ?_, ?_⟩
  · rw [List.append_assoc, List.append_assoc, ← hbehind, List.takeWhile_append_dropWhile]
  · exact List.forall_mem_append.2
      ⟨isBlank_of_mem_digits, List.forall_mem_append.2 ⟨hfront, hback⟩⟩
  · intro tail htail
    have hlast : back ++ tail <+: back ++ rest := (List.prefix_append_right_inj back).2 htail
    have hall : front ++ (back ++ tail) <+: text.dropWhile Char.isDigit := by
      rw [hbehind]
      exact (List.prefix_append_right_inj front).2 hlast
    rw [List.append_assoc, List.append_assoc, readUnsigned]
    simp only [Option.bind_eq_bind, Option.bind_none]
    rw [takeWhile_append_of_isPrefix hall, dropWhile_append_of_isPrefix hall, if_neg hwhole,
      hreadFraction _ hlast, Option.bind_some, hreadExponent _ htail]
    rfl

theorem detaches_readNumber : Detaches readNumber := by
  intro text document rest h
  cases text with
  | nil => cases h
  | cons c text =>
    by_cases hminus : c = '-'
    · subst hminus
      rw [readNumber_minus] at h
      cases text with
      | nil => cases h
      | cons c text =>
        exact (detaches_readUnsigned true).behind rfl (List.forall_mem_singleton.2 (by decide))
          (fun tail => readNumber_minus (c :: tail)) h
    · rw [readNumber_of_ne hminus] at h
      exact (detaches_readUnsigned false).behind rfl (List.forall_mem_nil _)
        (readNumber_of_ne hminus) h

variable {fuel : Nat} {text rest : List Char} {document : Document}

def IsRead (document : Document) : Prop :=
  ∃ fuel text rest, read fuel text = some (document, rest)

theorem isRead_of_readItems {done items : List Document}
    (h : readItems fuel done text = some (.array items, rest)) :
    ∀ item ∈ items, item ∈ done ∨ item.IsRead := by
  induction fuel generalizing done text with
  | zero => cases h
  | succ fuel ih =>
    rw [readItems] at h
    split at h
    · cases h
    · rename_i item after hitem
      have hread : item.IsRead := ⟨fuel, text, after, hitem⟩
      have hdone : ∀ other, other ∈ item :: done → other ∈ done ∨ other.IsRead := by
        intro other hmem
        rcases List.mem_cons.1 hmem with rfl | hmem
        · exact .inr hread
        · exact .inl hmem
      split at h
      · cases h
        intro other hmem
        exact hdone other (List.mem_reverse.1 hmem)
      · intro other hmem
        rcases ih h other hmem with hmem | hother
        · exact hdone other hmem
        · exact .inr hother
      · cases h

theorem readItems_eq_array {done : List Document}
    (h : readItems fuel done text = some (document, rest)) : ∃ items, document = .array items := by
  induction fuel generalizing done text with
  | zero => cases h
  | succ fuel ih =>
    rw [readItems] at h
    split at h
    · cases h
    · split at h
      · cases h
        exact ⟨_, rfl⟩
      · exact ih h
      · cases h

theorem readMembers_eq_object {done : Option (List (String × Document))}
    (h : readMembers fuel done text = some (document, rest)) :
    document = .unreadable ∨ ∃ members, document = .object members := by
  induction fuel generalizing done text with
  | zero => cases h
  | succ fuel ih =>
    rw [readMembers] at h
    split at h
    · split at h
      · cases h
      · split at h
        · split at h
          · cases h
          · dsimp only at h
            split at h
            · cases h
              split
              · exact .inr ⟨_, rfl⟩
              · exact .inl rfl
            · exact ih h
            · cases h
        · cases h
    · cases h

theorem readNumber_eq_number (h : readNumber text = some (document, rest)) :
    document = .unreadable ∨ ∃ n, document = .number n := by
  unfold readNumber at h
  simp only [Option.bind_eq_bind, Option.bind_none, Option.ite_none_left_eq_some] at h
  obtain ⟨-, h⟩ := h
  obtain ⟨fraction, -, h⟩ := Option.bind_eq_some_iff.1 h
  obtain ⟨exponent, -, h⟩ := Option.bind_eq_some_iff.1 h
  cases h
  exact (numberOf_cases _ _ _ _ _).imp_right fun ⟨n, hnumber, _⟩ => ⟨n, hnumber⟩

/-- What a document that is read at the front of a text has been read by. -/
inductive ReadBy (fuel : Nat) (text rest : List Char) : Document → Prop
  | null : ReadBy fuel text rest .null
  | bool (b : Bool) : ReadBy fuel text rest (.bool b)
  | string {s : String} {after : List Char} (h : readString .empty after = some (some s, rest)) :
      ReadBy fuel text rest (.string s)
  | number {n : Number} (h : readNumber (skipBlanks text) = some (.number n, rest)) :
      ReadBy fuel text rest (.number n)
  | noItems : ReadBy fuel text rest (.array [])
  | items {items : List Document} {after : List Char}
      (h : readItems fuel [] after = some (.array items, rest)) : ReadBy fuel text rest (.array items)
  | members (members : List (String × Document)) : ReadBy fuel text rest (.object members)
  | unreadable : ReadBy fuel text rest .unreadable

theorem readBy_of_read (h : read (fuel + 1) text = some (document, rest)) :
    document.ReadBy fuel text rest := by
  rw [read] at h
  split at h
  · cases h
    exact .null
  · cases h
    exact .bool true
  · cases h
    exact .bool false
  · obtain ⟨⟨s, behind⟩, hread, heq⟩ := Option.map_eq_some_iff.1 h
    cases heq
    cases s with
    | none => exact .unreadable
    | some s => exact .string hread
  · split at h
    · cases h
      exact .noItems
    · obtain ⟨items, rfl⟩ := readItems_eq_array h
      exact .items h
  · split at h
    · cases h
      exact .members []
    · rcases readMembers_eq_object h with rfl | ⟨members, rfl⟩
      · exact .unreadable
      · exact .members members
  · rcases readNumber_eq_number h with rfl | ⟨n, rfl⟩
    · exact .unreadable
    · exact .number h

namespace IsRead

theorem exists_readBy (h : document.IsRead) : ∃ fuel text rest, document.ReadBy fuel text rest := by
  obtain ⟨fuel, text, rest, h⟩ := h
  cases fuel with
  | zero => cases h
  | succ fuel => exact ⟨fuel, text, rest, readBy_of_read h⟩

theorem of_array {items : List Document} (h : (array items).IsRead) :
    ∀ item ∈ items, item.IsRead := by
  obtain ⟨fuel, text, rest, h⟩ := h.exists_readBy
  intro item hitem
  cases h with
  | noItems => cases hitem
  | items h => exact (isRead_of_readItems h item hitem).resolve_left List.not_mem_nil

theorem of_string {s : String} (h : (Document.string s).IsRead) : ∃ front,
    readString .empty (front ++ ['"']) = some (some s, []) := by
  obtain ⟨fuel, text, rest, h⟩ := h.exists_readBy
  cases h with
  | string h =>
    obtain ⟨body, pieces, -, hbody, hstring⟩ := exists_spells h
    refine ⟨body, ?_⟩
    rw [hbody.readString_append, readString, hstring]

theorem of_number {n : Number} (h : (Document.number n).IsRead) : ∃ literal,
    (∀ c ∈ literal, Text.isBlank c = false) ∧ readNumber literal = some (.number n, []) := by
  obtain ⟨fuel, text, rest, h⟩ := h.exists_readBy
  cases h with
  | number h =>
    obtain ⟨literal, -, hblank, hliteral⟩ := detaches_readNumber _ _ _ h
    have halone := hliteral [] List.nil_prefix
    rw [List.append_nil] at halone
    exact ⟨literal, hblank, halone⟩

end IsRead

theorem isBlank_eq_false {c : Char} (h : Text.isBlank c = false) : isBlank c = false := by
  rw [← Bool.not_eq_true] at h ⊢
  intro hblank
  apply h
  simp only [isBlank, Bool.or_eq_true, beq_iff_eq] at hblank
  rcases hblank with ((rfl | rfl) | rfl) | rfl <;> decide

theorem read_quote (fuel : Nat) (text : List Char) :
    read (fuel + 1) ('"' :: text) = (readString .empty text).map fun (s, rest) =>
      (s.elim .unreadable .string, rest) := by
  have hskip : skipBlanks ('"' :: text) = '"' :: text := rfl
  rw [read, hskip]
  refine congrArg (Option.map · (readString .empty text)) (funext ?_)
  rintro ⟨_ | s, rest⟩ <;> rfl

theorem ofText?_string {front : List Char} {s : String}
    (h : readString .empty (front ++ ['"']) = some (some s, [])) :
    ofText? (String.ofList ('"' :: front ++ ['"'])) = some (.string s) := by
  have hread : ∀ fuel, read (fuel + 1) ('"' :: front ++ ['"']) = some (.string s, []) := by
    intro fuel
    rw [List.cons_append, read_quote, h]
    rfl
  rw [ofText?, String.toList_ofList, hread]
  rfl

theorem ofText?_number {literal : List Char} {n : Number}
    (hblank : ∀ c ∈ literal, Text.isBlank c = false)
    (h : readNumber literal = some (.number n, [])) :
    ofText? (String.ofList literal) = some (.number n) := by
  have hskip : skipBlanks literal = literal := by
    cases literal with
    | nil => rfl
    | cons c literal =>
      exact List.dropWhile_cons_of_neg (by simp [isBlank_eq_false (hblank c List.mem_cons_self)])
  have hread : ∀ fuel, read (fuel + 1) literal = some (.number n, []) := by
    intro fuel
    rw [read, hskip]
    split
    · cases h
    · cases h
    · cases h
    · cases h
    · cases h
    · cases h
    · exact h
  rw [ofText?, String.toList_ofList, hread]
  rfl

theorem isRead_of_ofText? {text : String} {document : Document} (h : ofText? text = some document) :
    document.IsRead := by
  unfold ofText? at h
  split at h
  · rename_i written rest hread
    split at h
    · cases h
      exact ⟨_, _, _, hread⟩
    · cases h
  · cases h

theorem exists_of_mem_values? {limit : Option Nat} {documents : List Document} {values : List Json}
    (h : values? limit documents = some values) {value : Json} (hvalue : value ∈ values) :
    ∃ document ∈ documents, value? limit document = some value := by
  induction documents generalizing values with
  | nil =>
    cases h
    cases hvalue
  | cons document rest ih =>
    obtain ⟨first, hfirst, h⟩ := Option.bind_eq_some_iff.1 h
    obtain ⟨others, hothers, h⟩ := Option.bind_eq_some_iff.1 h
    cases h
    rcases List.mem_cons.1 hvalue with rfl | hvalue
    · exact ⟨document, List.mem_cons_self, hfirst⟩
    · obtain ⟨found, hmem, hfound⟩ := ih hothers hvalue
      exact ⟨found, List.mem_cons_of_mem document hmem, hfound⟩

section

variable {limit : Option Nat} {document : Document}

theorem eq_array_of_value? {values : List Json} (h : value? limit document = some (.array values)) :
    ∃ documents inner, document = .array documents ∧ values? inner documents = some values := by
  cases document with
  | array documents =>
    obtain ⟨inner, -, h⟩ := Option.bind_eq_some_iff.1 h
    obtain ⟨others, hvalues, h⟩ := Option.bind_eq_some_iff.1 h
    cases h
    exact ⟨documents, inner, rfl, hvalues⟩
  | object members =>
    obtain ⟨inner, -, h⟩ := Option.bind_eq_some_iff.1 h
    obtain ⟨written, -, h⟩ := Option.bind_eq_some_iff.1 h
    cases h
  | unreadable | null | bool _ | number _ | string _ => cases h

theorem eq_ofJson_of_value? {json : Json} (hscalar : json.IsNumber ∨ json.IsString)
    (h : value? limit document = some json) : document = ofJson json := by
  cases document with
  | null | bool _ | number _ | string _ =>
    cases h
    rfl
  | array documents =>
    obtain ⟨inner, -, h⟩ := Option.bind_eq_some_iff.1 h
    obtain ⟨values, -, h⟩ := Option.bind_eq_some_iff.1 h
    cases h
    rcases hscalar with ⟨n, h⟩ | ⟨s, h⟩ <;> cases h
  | object members =>
    obtain ⟨inner, -, h⟩ := Option.bind_eq_some_iff.1 h
    obtain ⟨written, -, h⟩ := Option.bind_eq_some_iff.1 h
    cases h
    rcases hscalar with ⟨n, h⟩ | ⟨s, h⟩ <;> cases h
  | unreadable => cases h

end

end Document

/-- A number or a string that stands in an array has a text of its own. -/
theorem Json.exists_text_of_mem {text : String} {items : List Json}
    (h : ofText? text = some (.array items)) {item : Json} (hitem : item ∈ items)
    (hscalar : item.IsNumber ∨ item.IsString) :
    ∃ written, Text.trim written = written ∧ ofText? written = some item := by
  obtain ⟨document, hdocument, hvalue⟩ := Option.bind_eq_some_iff.1 h
  obtain ⟨documents, inner, rfl, hvalues⟩ := Document.eq_array_of_value? hvalue
  obtain ⟨part, hpart, hitem⟩ := Document.exists_of_mem_values? hvalues hitem
  have hread : part.IsRead := (Document.isRead_of_ofText? hdocument).of_array part hpart
  obtain rfl := Document.eq_ofJson_of_value? hscalar hitem
  rcases hscalar with ⟨n, rfl⟩ | ⟨s, rfl⟩
  · obtain ⟨literal, hblank, hliteral⟩ := hread.of_number
    refine ⟨String.ofList literal, ?_, ?_⟩
    · apply Text.trim_ofList
      · intro c hc
        exact hblank c (List.mem_of_head? hc)
      · intro c hc
        exact hblank c (List.mem_of_getLast? hc)
    · rw [ofText?, Document.ofText?_number hblank hliteral]
      rfl
  · obtain ⟨front, hfront⟩ := hread.of_string
    refine ⟨String.ofList ('"' :: front ++ ['"']), Text.trim_quoted front, ?_⟩
    rw [ofText?, Document.ofText?_string hfront]
    rfl

end FeatureFlags
