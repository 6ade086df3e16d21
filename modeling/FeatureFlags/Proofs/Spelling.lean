import FeatureFlags.Document.Reader

/-! # How strings are spelled

What stands between the quotes of a string is a row of pieces. They are the same wherever the row
stands, so the string of a row is made of the strings of its parts, and a row can be cut in front of
every character that belongs to no escape. -/

namespace FeatureFlags.Document

/-- A character, written as it is or by a letter behind a backslash, or a code unit by its number. -/
inductive Piece where
  | char (c : Char)
  | unit (unit : Nat)

inductive Spells : List Char → List Piece → Prop
  | nil : Spells [] []
  | unit {a b c d : Char} {unit : Nat} {rest : List Char} {pieces : List Piece}
      (hunit : codeUnit? a b c d = some unit) (hrest : Spells rest pieces) :
      Spells ('\\' :: 'u' :: a :: b :: c :: d :: rest) (.unit unit :: pieces)
  | escape {c escaped : Char} {rest : List Char} {pieces : List Piece}
      (hescaped : simpleEscape? c = some escaped) (hrest : Spells rest pieces) :
      Spells ('\\' :: c :: rest) (.char escaped :: pieces)
  | char {c : Char} {rest : List Char} {pieces : List Piece} (hquote : c ≠ '"')
      (hbackslash : c ≠ '\\') (hcontrol : ¬ c < ' ') (hrest : Spells rest pieces) :
      Spells (c :: rest) (.char c :: pieces)

namespace Scan

def take (scan : Scan) : Piece → Scan
  | .char c => scan.char c
  | .unit n => scan.unit n

def takeAll (scan : Scan) (pieces : List Piece) : Scan :=
  pieces.foldl take scan

def onto (front : List Char) (scan : Scan) : Scan :=
  ⟨scan.chars.map (· ++ front.reverse), scan.high⟩

end Scan

def stringOf? (pieces : List Piece) : Option String :=
  (Scan.empty.takeAll pieces).string?

variable {scan : Scan} {body front back text rest : List Char} {pieces : List Piece}

theorem readString_escape {c escaped : Char} (h : simpleEscape? c = some escaped)
    (rest : List Char) : readString scan ('\\' :: c :: rest) = readString (scan.char escaped) rest := by
  have hc : c ≠ 'u' := by
    rintro rfl
    cases h
  rw [readString]
  · rw [h]
  · rintro a b c d _ rfl
    exact absurd rfl hc

theorem readString_char {c : Char} (hquote : c ≠ '"') (hescape : c ≠ '\\')
    (hcontrol : ¬ c < ' ') (rest : List Char) :
    readString scan (c :: rest) = readString (scan.char c) rest := by
  rw [readString]
  · rw [if_neg hcontrol]
  · exact hquote
  · intro a b d e _ heq
    exact absurd heq hescape
  · intro d _ heq
    exact absurd heq hescape

/-- Pieces are taken one by one, whatever stands behind them. -/
theorem Spells.readString_append (h : Spells body pieces) (rest : List Char) :
    readString scan (body ++ rest) = readString (scan.takeAll pieces) rest := by
  induction h generalizing scan with
  | nil => rfl
  | unit hunit _ ih =>
    simp only [List.cons_append, readString, hunit]
    exact ih
  | escape hescaped _ ih =>
    rw [List.cons_append, List.cons_append, readString_escape hescaped]
    exact ih
  | char hquote hbackslash hcontrol _ ih =>
    rw [List.cons_append, readString_char hquote hbackslash hcontrol]
    exact ih

theorem exists_spells {s : Option String} (h : readString scan text = some (s, rest)) :
    ∃ body pieces, text = body ++ '"' :: rest ∧ Spells body pieces ∧
      (scan.takeAll pieces).string? = s := by
  fun_induction readString scan text with
  | case1 scan after =>
    cases h
    exact ⟨[], [], rfl, .nil, rfl⟩
  | case2 => cases h
  | case3 scan a b c d after unit hunit ih =>
    obtain ⟨body, pieces, rfl, hbody, hstring⟩ := ih h
    exact ⟨_, _, rfl, .unit hunit hbody, hstring⟩
  | case4 => cases h
  | case5 scan c after _ escaped hescaped ih =>
    obtain ⟨body, pieces, rfl, hbody, hstring⟩ := ih h
    exact ⟨_, _, rfl, .escape hescaped hbody, hstring⟩
  | case6 => cases h
  | case7 scan c after hquote _ hescape hcontrol ih =>
    -- A backslash at the end of the text is taken as it is, and then the quote is missing.
    have hbackslash : c ≠ '\\' := by
      intro heq
      cases after with
      | nil => cases h
      | cons d after => exact hescape d after heq rfl
    obtain ⟨body, pieces, rfl, hbody, hstring⟩ := ih h
    exact ⟨_, _, rfl, .char hquote hbackslash hcontrol hbody, hstring⟩
  | case8 => cases h

theorem Spells.append {others : List Piece} (hfront : Spells front pieces)
    (hback : Spells back others) : Spells (front ++ back) (pieces ++ others) := by
  induction hfront with
  | nil => exact hback
  | unit hunit _ ih => exact .unit hunit ih
  | escape hescaped _ ih => exact .escape hescaped ih
  | char hquote hbackslash hcontrol _ ih => exact .char hquote hbackslash hcontrol ih

/-- Where one of two texts ends with a piece and the other one goes on with a character that is not in
the piece, the piece is not cut. -/
theorem exists_append_of_notMem {c : Char} {piece : List Char} (hc : c ∉ piece)
    (h : piece ++ rest = front ++ c :: back) : ∃ middle, front = piece ++ middle ∧
      rest = middle ++ c :: back := by
  rcases List.append_eq_append_iff.1 h with ⟨middle, hfront, hrest⟩ | ⟨cut, hpiece, hcut⟩
  · exact ⟨middle, hfront, hrest⟩
  · cases cut with
    | nil => exact ⟨[], by simpa using hpiece.symm, hcut.symm⟩
    | cons d cut =>
      obtain ⟨rfl, -⟩ := List.cons.inj hcut
      rw [hpiece] at hc
      exact absurd (by simp) hc

/-- The character stands in a piece only if it is the piece. -/
structure StandsAlone (c : Char) : Prop where
  notBackslash : c ≠ '\\'
  notUnicode : c ≠ 'u'
  noDigit : hexDigit? c = none
  noEscape : simpleEscape? c = none

theorem hexDigit?_of_codeUnit? {a b c d : Char} {unit : Nat} (h : codeUnit? a b c d = some unit) :
    ∀ digit ∈ [a, b, c, d], hexDigit? digit ≠ none := by
  simp only [codeUnit?, Option.bind_eq_bind, Option.bind_eq_some_iff] at h
  obtain ⟨_, ha, _, hb, _, hc, _, hd, -⟩ := h
  simp [ha, hb, hc, hd]

theorem Spells.exists_front {c : Char} (hc : StandsAlone c) (h : Spells text pieces)
    (htext : text = front ++ c :: back) : ∃ before after, pieces = before ++ after ∧
      Spells front before ∧ Spells (c :: back) after := by
  induction h generalizing front with
  | nil => simp at htext
  | @unit a₁ a₂ a₃ a₄ unit rest pieces hunit hrest ih =>
    have hdigits := hexDigit?_of_codeUnit? hunit
    have hmem : c ∉ ['\\', 'u', a₁, a₂, a₃, a₄] := by
      intro hmem
      rcases List.mem_cons.1 hmem with heq | hmem
      · exact hc.notBackslash heq
      rcases List.mem_cons.1 hmem with heq | hmem
      · exact hc.notUnicode heq
      exact hdigits c hmem hc.noDigit
    obtain ⟨middle, rfl, rfl⟩ := exists_append_of_notMem hmem htext
    obtain ⟨before, after, rfl, hbefore, hafter⟩ := ih rfl
    exact ⟨_, after, rfl, .unit hunit hbefore, hafter⟩
  | @escape letter escaped rest pieces hescaped hrest ih =>
    have hmem : c ∉ ['\\', letter] := by
      intro hmem
      rcases List.mem_cons.1 hmem with heq | hmem
      · exact hc.notBackslash heq
      rw [← List.mem_singleton.1 hmem, hc.noEscape] at hescaped
      cases hescaped
    obtain ⟨middle, rfl, rfl⟩ := exists_append_of_notMem hmem htext
    obtain ⟨before, after, rfl, hbefore, hafter⟩ := ih rfl
    exact ⟨_, after, rfl, .escape hescaped hbefore, hafter⟩
  | @char d rest pieces hquote hbackslash hcontrol hrest ih =>
    cases front with
    | nil =>
      obtain ⟨rfl, rfl⟩ := List.cons.inj htext
      exact ⟨[], _, rfl, .nil, .char hquote hbackslash hcontrol hrest⟩
    | cons e front =>
      obtain ⟨rfl, rfl⟩ := List.cons.inj htext
      obtain ⟨before, after, rfl, hbefore, hafter⟩ := ih rfl
      exact ⟨_, after, rfl, .char hquote hbackslash hcontrol hbefore, hafter⟩

theorem spells_chars {cs : List Char}
    (h : ∀ c ∈ cs, c ≠ '"' ∧ c ≠ '\\' ∧ ¬ c < ' ') : Spells cs (cs.map .char) := by
  induction cs with
  | nil => exact .nil
  | cons c cs ih =>
    obtain ⟨⟨hquote, hbackslash, hcontrol⟩, hcs⟩ := List.forall_mem_cons.1 h
    exact .char hquote hbackslash hcontrol (ih hcs)

theorem Spells.exists_back {cs : List Char} (hcs : ∀ c ∈ cs, StandsAlone c)
    (h : Spells (cs ++ back) pieces) : (∀ c ∈ cs, ¬ c < ' ') ∧
      ∃ after, pieces = cs.map .char ++ after ∧ Spells back after := by
  induction cs generalizing pieces with
  | nil => exact ⟨List.forall_mem_nil _, pieces, rfl, h⟩
  | cons c cs ih =>
    obtain ⟨hc, hcs⟩ := List.forall_mem_cons.1 hcs
    -- `cases` needs a variable in place of the text.
    generalize htext : c :: cs ++ back = text at h
    cases h with
    | nil => cases htext
    | unit _ _ => exact absurd (List.cons.inj htext).1 hc.notBackslash
    | escape _ _ => exact absurd (List.cons.inj htext).1 hc.notBackslash
    | char _ _ hcontrol hrest =>
      obtain ⟨rfl, rfl⟩ := List.cons.inj htext
      obtain ⟨hcontrols, after, rfl, hback⟩ := ih hcs hrest
      exact ⟨List.forall_mem_cons.2 ⟨hcontrol, hcontrols⟩, after, rfl, hback⟩

/-- What stands around characters that stand alone is spelled by itself. -/
theorem Spells.exists_around {cs : List Char} (hne : cs ≠ []) (hcs : ∀ c ∈ cs, StandsAlone c)
    (h : Spells (front ++ cs ++ back) pieces) : (∀ c ∈ cs, ¬ c < ' ') ∧
      ∃ before after, pieces = before ++ cs.map .char ++ after ∧ Spells front before ∧
        Spells back after := by
  obtain ⟨c, rest, rfl⟩ := List.exists_cons_of_ne_nil hne
  rw [List.append_assoc] at h
  obtain ⟨before, behind, rfl, hbefore, hbehind⟩ :=
    h.exists_front (hcs c List.mem_cons_self) rfl
  obtain ⟨hraw, after, rfl, hafter⟩ := Spells.exists_back hcs hbehind
  exact ⟨hraw, before, after, (List.append_assoc _ _ _).symm, hbefore, hafter⟩

namespace Scan

theorem string?_eq_some {s : String} : scan.string? = some s ↔ scan = empty.onto s.toList := by
  obtain ⟨chars, high⟩ := scan
  cases high with
  | some high => simp [string?, onto, empty]
  | none =>
    cases chars with
    | none => simp [string?, onto, empty]
    | some cs =>
      simp only [string?, onto, empty, Option.isSome_none, Bool.false_eq_true, if_false,
        Option.map_some, Option.some.injEq, mk.injEq, List.nil_append, and_true]
      rw [← String.toList_inj, String.toList_ofList, List.reverse_eq_iff]

theorem take_onto (front : List Char) (piece : Piece) :
    (scan.onto front).take piece = (scan.take piece).onto front := by
  obtain ⟨chars, high⟩ := scan
  cases piece with
  | char c => cases high <;> cases chars <;> rfl
  | unit n =>
    cases high with
    | some high =>
      simp only [take, onto, unit]
      split <;> cases chars <;> rfl
    | none =>
      simp only [take, onto, unit]
      split
      · rfl
      · split <;> cases chars <;> rfl

theorem takeAll_append (pieces others : List Piece) :
    scan.takeAll (pieces ++ others) = (scan.takeAll pieces).takeAll others :=
  List.foldl_append

theorem takeAll_onto (front : List Char) (pieces : List Piece) :
    (scan.onto front).takeAll pieces = (scan.takeAll pieces).onto front := by
  induction pieces generalizing scan with
  | nil => rfl
  | cons piece pieces ih =>
    unfold takeAll at ih ⊢
    rw [List.foldl_cons, List.foldl_cons, take_onto, ih]

theorem string?_onto (s : String) :
    (scan.onto s.toList).string? = scan.string?.map (s ++ ·) := by
  obtain ⟨chars, high⟩ := scan
  cases high with
  | some high => rfl
  | none =>
    cases chars with
    | none => rfl
    | some cs => simp [string?, onto]

theorem chars_char_of_none (h : scan.string? = none) (c : Char) : (scan.char c).chars = none := by
  obtain ⟨chars, high⟩ := scan
  cases high with
  | some high => rfl
  | none =>
    cases chars with
    | none => rfl
    | some cs => cases h

theorem string?_takeAll_of_lost (h : scan.chars = none) (pieces : List Piece) :
    (scan.takeAll pieces).string? = none := by
  induction pieces generalizing scan with
  | nil => simp [takeAll, string?, h]
  | cons piece pieces ih =>
    apply ih
    cases piece with
    | char c => simp [take, char, h]
    | unit n =>
      simp only [take, unit]
      repeat' split
      all_goals simp [h]

end Scan

theorem stringOf?_append {pieces others : List Piece} {s : String} (h : stringOf? pieces = some s) :
    stringOf? (pieces ++ others) = (stringOf? others).map (s ++ ·) := by
  rw [stringOf?, Scan.takeAll_append, Scan.string?_eq_some.1 h, Scan.takeAll_onto, Scan.string?_onto]
  rfl

theorem exists_stringOf?_front {before after : List Piece} {c : Char} {s : String}
    (h : stringOf? (before ++ .char c :: after) = some s) : ∃ t, stringOf? before = some t := by
  rw [← Option.ne_none_iff_exists']
  intro hnone
  have hlost := Scan.string?_takeAll_of_lost (Scan.chars_char_of_none hnone c) after
  rw [stringOf?, Scan.takeAll_append] at h
  exact absurd (hlost.symm.trans h) (by simp)

theorem stringOf?_chars (cs : List Char) :
    stringOf? (cs.map .char) = some (String.ofList cs) := by
  induction cs with
  | nil => rfl
  | cons c cs ih =>
    have hfirst : stringOf? [.char c] = some (String.ofList [c]) := rfl
    have happend : stringOf? (.char c :: cs.map .char) = _ := stringOf?_append hfirst
    rw [ih, Option.map_some, ← String.ofList_append] at happend
    exact happend

theorem exists_stringOf?_around {before after : List Piece} {cs : List Char} {u : String}
    (hne : cs ≠ []) (h : stringOf? (before ++ cs.map .char ++ after) = some u) :
    ∃ s t, stringOf? before = some s ∧ stringOf? after = some t ∧
      u = s ++ String.ofList cs ++ t := by
  obtain ⟨c, rest, rfl⟩ := List.exists_cons_of_ne_nil hne
  rw [List.append_assoc] at h
  obtain ⟨s, hs⟩ := exists_stringOf?_front h
  rw [stringOf?_append hs, stringOf?_append (stringOf?_chars (c :: rest)), Option.map_map] at h
  obtain ⟨t, ht, rfl⟩ := Option.map_eq_some_iff.1 h
  exact ⟨s, t, hs, ht, by simp [String.append_assoc]⟩

end FeatureFlags.Document
