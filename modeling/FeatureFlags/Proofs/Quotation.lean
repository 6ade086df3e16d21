import FeatureFlags.Proofs.Excerpts

/-! # Texts between quotes

The value that a quoted text writes is a string. White space stands for itself in it, and what is in
front of it and behind it is read as if it stood alone. -/

namespace FeatureFlags

def Json.Quotes (body s : String) : Prop := ofText? ("\"" ++ body ++ "\"") = some (.string s)

instance (body s : String) : Decidable (Json.Quotes body s) :=
  inferInstanceAs (Decidable (Json.ofText? ("\"" ++ body ++ "\"") = some (.string s)))

theorem Text.quoted_eq (body : String) :
    "\"" ++ body ++ "\"" = String.ofList ('"' :: body.toList ++ ['"']) := by
  rw [String.ofList_append, String.ofList_cons, String.ofList_toList]
  rfl

namespace Document

variable {body : List Char} {document : Document}

theorem code_of_isBlank {c : Char} (h : Text.isBlank c = true) : c.toNat ≤ 0x20 ∨ 0x85 ≤ c.toNat := by
  simp [Text.isBlank] at h
  omega

theorem standsAlone_of_isBlank {c : Char} (h : Text.isBlank c = true) : StandsAlone c := by
  have hcode := code_of_isBlank h
  have hout : ∀ {low high : Char}, 0x20 < low.toNat → high.toNat < 0x85 → ¬ (low ≤ c ∧ c ≤ high) := by
    rintro low high hlow hhigh ⟨hle, hge⟩
    have hle : low.toNat ≤ c.toNat := UInt32.le_iff_toNat_le.1 hle
    have hge : c.toNat ≤ high.toNat := UInt32.le_iff_toNat_le.1 hge
    omega
  constructor
  case notBackslash =>
    rintro rfl
    exact absurd h (by decide)
  case notUnicode =>
    rintro rfl
    exact absurd h (by decide)
  case noDigit =>
    rw [hexDigit?, if_neg (hout (by decide) (by decide)), if_neg (hout (by decide) (by decide)),
      if_neg (hout (by decide) (by decide))]
  case noEscape =>
    unfold simpleEscape?
    split
    case h_9 => rfl
    all_goals exact absurd h (by decide)

/-- A quote with nothing but blanks behind it is the quote at the end. -/
theorem eq_of_append_quote {front rest : List Char} (h : body ++ ['"'] = front ++ '"' :: rest)
    (hblank : skipBlanks rest = []) : rest = [] ∧ body = front := by
  rcases List.eq_nil_or_concat rest with rfl | ⟨behind, last, rfl⟩
  · exact ⟨rfl, (List.append_inj' h rfl).1⟩
  · rw [List.concat_eq_append] at h hblank
    rw [← List.cons_append, ← List.append_assoc] at h
    obtain ⟨-, hlast⟩ := List.append_inj' h rfl
    cases hlast
    have hquote := List.dropWhile_eq_nil_iff.1 hblank '"' (by simp)
    exact absurd hquote (by decide)

theorem exists_spells_of_ofText? (h : ofText? (String.ofList ('"' :: body ++ ['"'])) = some document) :
    ∃ pieces, Spells body pieces ∧ document = (stringOf? pieces).elim .unreadable .string := by
  unfold ofText? at h
  rw [String.toList_ofList, List.cons_append, read_quote] at h
  split at h
  · rename_i written rest hread
    split at h
    · rename_i hempty
      cases h
      obtain ⟨⟨s, after⟩, hstring, heq⟩ := Option.map_eq_some_iff.1 hread
      cases heq
      obtain ⟨front, pieces, htext, hfront, rfl⟩ := exists_spells hstring
      obtain ⟨rfl, rfl⟩ := eq_of_append_quote htext (List.isEmpty_iff.1 hempty)
      exact ⟨pieces, hfront, rfl⟩
    · cases h
  · cases h

end Document

namespace Json

open Document

theorem ofText?_quoted {body : String} {target : Json} :
    ofText? ("\"" ++ body ++ "\"") = some target ↔
      ∃ pieces s, Spells body.toList pieces ∧ stringOf? pieces = some s ∧ target = .string s := by
  rw [Text.quoted_eq]
  constructor
  · intro h
    obtain ⟨document, hdocument, hvalue⟩ := Option.bind_eq_some_iff.1 h
    obtain ⟨pieces, hspells, rfl⟩ := exists_spells_of_ofText? hdocument
    cases hstring : stringOf? pieces with
    | none =>
      rw [hstring] at hvalue
      cases hvalue
    | some s =>
      rw [hstring] at hvalue
      cases hvalue
      exact ⟨pieces, s, hspells, hstring, rfl⟩
  · rintro ⟨pieces, s, hspells, hstring, rfl⟩
    have hread : readString .empty (body.toList ++ ['"']) = some (some s, []) := by
      rw [hspells.readString_append, readString]
      exact congrArg (fun s => some (s, [])) hstring
    rw [ofText?, Document.ofText?_string hread]
    rfl

theorem quotes_iff {body s : String} :
    Quotes body s ↔ ∃ pieces, Spells body.toList pieces ∧ stringOf? pieces = some s := by
  simp only [Quotes, ofText?_quoted, Json.string.injEq, exists_and_left, exists_eq_right']

theorem exists_quotes_of_ofText? {body : String} {target : Json}
    (h : ofText? ("\"" ++ body ++ "\"") = some target) : ∃ s, target = .string s ∧ Quotes body s := by
  obtain ⟨_, s, -, -, rfl⟩ := ofText?_quoted.1 h
  exact ⟨s, rfl, h⟩

variable {front back s t u : String}

/-- What two texts write side by side is what they write one after the other. -/
theorem Quotes.append (hfront : Quotes front s) (hback : Quotes back t) :
    Quotes (front ++ back) (s ++ t) := by
  obtain ⟨pieces, hpieces, hs⟩ := quotes_iff.1 hfront
  obtain ⟨others, hothers, ht⟩ := quotes_iff.1 hback
  refine quotes_iff.2 ⟨pieces ++ others, ?_, ?_⟩
  · rw [String.toList_append]
    exact hpieces.append hothers
  · rw [stringOf?_append hs, ht, Option.map_some]

theorem quotes_whiteSpace (hblank : Text.IsWhiteSpace s) (hraw : ∀ c ∈ s.toList, ' ' ≤ c) :
    Quotes s s := by
  refine quotes_iff.2 ⟨s.toList.map .char, spells_chars ?_, ?_⟩
  · intro c hc
    have halone := Text.isWhiteSpace_iff.1 hblank c hc
    refine ⟨?_, ?_, Char.not_lt.2 (hraw c hc)⟩
    · rintro rfl
      exact absurd halone (by decide)
    · rintro rfl
      exact absurd halone (by decide)
  · rw [stringOf?_chars, String.ofList_toList]

/-- White space between the quotes stands for itself, wherever it is. A control character is none that a
string may have, and the texts on both sides are strings of their own. -/
theorem quotes_around_whiteSpace {blanks : String} (hblank : Text.IsWhiteSpace blanks)
    (hne : blanks ≠ "") :
    Quotes (front ++ blanks ++ back) u ↔ (∀ c ∈ blanks.toList, ' ' ≤ c) ∧
      ∃ s t, Quotes front s ∧ Quotes back t ∧ u = s ++ blanks ++ t := by
  have hcs : blanks.toList ≠ [] := mt String.toList_eq_nil_iff.1 hne
  have halone : ∀ c ∈ blanks.toList, StandsAlone c := fun c hc =>
    standsAlone_of_isBlank (Text.isWhiteSpace_iff.1 hblank c hc)
  constructor
  · intro h
    obtain ⟨pieces, hpieces, hstring⟩ := quotes_iff.1 h
    rw [String.toList_append, String.toList_append] at hpieces
    obtain ⟨hraw, before, after, rfl, hbefore, hafter⟩ := hpieces.exists_around hcs halone
    obtain ⟨s, t, hs, ht, rfl⟩ := exists_stringOf?_around hcs hstring
    rw [String.ofList_toList]
    exact ⟨fun c hc => Char.not_lt.1 (hraw c hc), s, t, quotes_iff.2 ⟨before, hbefore, hs⟩,
      quotes_iff.2 ⟨after, hafter, ht⟩, rfl⟩
  · rintro ⟨hraw, s, t, hfront, hback, rfl⟩
    exact (hfront.append (quotes_whiteSpace hblank hraw)).append hback

end Json

end FeatureFlags
