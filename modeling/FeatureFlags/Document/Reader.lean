import FeatureFlags.Document

/-! # Reading JSON text

The text is read strictly: no comments, no trailing commas, no raw control characters in strings,
and nothing but blanks after the document. -/

namespace FeatureFlags.Document

def isBlank (c : Char) : Bool :=
  c == ' ' || c == '\t' || c == '\n' || c == '\r'

def skipBlanks (text : List Char) : List Char :=
  text.dropWhile isBlank

def decimalValue (digits : List Char) : Nat :=
  digits.foldl (fun value c => value * 10 + (c.toNat - '0'.toNat)) 0

def hexDigit? (c : Char) : Option Nat :=
  if '0' ≤ c ∧ c ≤ '9' then some (c.toNat - '0'.toNat)
  else if 'a' ≤ c ∧ c ≤ 'f' then some (c.toNat - 'a'.toNat + 10)
  else if 'A' ≤ c ∧ c ≤ 'F' then some (c.toNat - 'A'.toNat + 10)
  else none

def codeUnit? (a b c d : Char) : Option Nat := do
  some (4096 * (← hexDigit? a) + 256 * (← hexDigit? b) + 16 * (← hexDigit? c) + (← hexDigit? d))

def isHighSurrogate (unit : Nat) : Bool := decide (0xd800 ≤ unit ∧ unit < 0xdc00)

def isLowSurrogate (unit : Nat) : Bool := decide (0xdc00 ≤ unit ∧ unit < 0xe000)

def joinSurrogates (high low : Nat) : Char :=
  Char.ofNat (0x10000 + (high - 0xd800) * 0x400 + (low - 0xdc00))

def simpleEscape? : Char → Option Char
  | '"' => some '"'
  | '\\' => some '\\'
  | '/' => some '/'
  | 'b' => some '\x08'
  | 'f' => some '\x0c'
  | 'n' => some '\n'
  | 'r' => some '\r'
  | 't' => some '\t'
  | _ => none

/-- What was read of a string: its characters, last one first, or none once half of a surrogate
pair stood alone; and the first half of a pair that still waits for the second. -/
structure Scan where
  chars : Option (List Char)
  high : Option Nat

namespace Scan

def empty : Scan := ⟨some [], none⟩

def char (scan : Scan) (c : Char) : Scan :=
  ⟨if scan.high.isSome then none else scan.chars.map (c :: ·), none⟩

def unit (scan : Scan) (unit : Nat) : Scan :=
  match scan.high with
  | some high =>
    if isLowSurrogate unit then ⟨scan.chars.map (joinSurrogates high unit :: ·), none⟩
    else ⟨none, none⟩
  | none =>
    if isHighSurrogate unit then ⟨scan.chars, some unit⟩
    else if isLowSurrogate unit then ⟨none, none⟩
    else ⟨scan.chars.map (Char.ofNat unit :: ·), none⟩

def string? (scan : Scan) : Option String :=
  if scan.high.isSome then none else scan.chars.map fun cs => String.ofList cs.reverse

end Scan

def readString (scan : Scan) : List Char → Option (Option String × List Char)
  | '"' :: rest => some (scan.string?, rest)
  | '\\' :: 'u' :: a :: b :: c :: d :: rest =>
    match codeUnit? a b c d with
    | none => none
    | some unit => readString (scan.unit unit) rest
  | '\\' :: c :: rest =>
    match simpleEscape? c with
    | none => none
    | some escaped => readString (scan.char escaped) rest
  | c :: rest => if c < ' ' then none else readString (scan.char c) rest
  | [] => none

/-- The leading digits of a literal as one number of 64 bits, and how many digits follow them: a
digit is taken as long as the number with it still fits. -/
def leadingDigits (value : Nat) : List Char → Nat × Nat
  | [] => (value, 0)
  | c :: rest =>
    let longer := value * 10 + (c.toNat - '0'.toNat)
    if longer < UInt64.size then leadingDigits longer rest else (value, rest.length + 1)

/-- The number that a literal stands for: an integer if it is written as one, is no negative zero
and fits 64 bits; otherwise a double, if that is finite. The double is the one nearest to the
leading digits, with its decimal point then moved to its place, so it can be a last place or two
off the double nearest to the literal. Digits of the whole part that are left out still count as
places. The digits of the fraction go on from those of the whole part by the same rule. -/
def numberOf (negative : Bool) (whole fraction : List Char) (exponent : Int) (plain : Bool) :
    Document :=
  let (integer, dropped) := leadingDigits 0 whole
  if plain && dropped == 0 && !negative then .number (.int integer)
  else if plain && dropped == 0 && decide (0 < integer ∧ 2 * integer ≤ UInt64.size) then
    .number (.int (-integer))
  else
    let (digits, ignored) := leadingDigits integer fraction
    let places : Int := exponent + dropped - (fraction.length - ignored : Nat)
    let x := (Binary64.ofInt digits).movePoint places
    if x.isFinite then .number (.real (Binary64.ofMagnitude negative x.magnitude)) else .unreadable

def readExponent : List Char → Option (Option Int × List Char)
  | e :: rest =>
    if e == 'e' || e == 'E' then
      let (negative, rest) := match rest with
        | '-' :: rest => (true, rest)
        | '+' :: rest => (false, rest)
        | rest => (false, rest)
      let digits := rest.takeWhile Char.isDigit
      if digits.isEmpty then none
      else
        let value : Int := decimalValue digits
        some (some (if negative then -value else value), rest.dropWhile Char.isDigit)
    else some (none, e :: rest)
  | [] => some (none, [])

def readFraction : List Char → Option (Option (List Char) × List Char)
  | '.' :: rest =>
    let digits := rest.takeWhile Char.isDigit
    if digits.isEmpty then none else some (some digits, rest.dropWhile Char.isDigit)
  | rest => some (none, rest)

def readNumber (text : List Char) : Option (Document × List Char) := do
  let (negative, text) := match text with
    | '-' :: rest => (true, rest)
    | rest => (false, rest)
  let whole := text.takeWhile Char.isDigit
  if whole.isEmpty || (whole.head? == some '0' && 1 < whole.length) then none
  let (fraction, text) ← readFraction (text.dropWhile Char.isDigit)
  let (exponent, text) ← readExponent text
  some (numberOf negative whole (fraction.getD []) (exponent.getD 0)
    (fraction.isNone && exponent.isNone), text)

mutual

/-- One document at the front of the text. Of two steps one reads a character, so twice the length
of the text is enough `fuel`. -/
def read : Nat → List Char → Option (Document × List Char)
  | 0, _ => none
  | fuel + 1, text =>
    match skipBlanks text with
    | 'n' :: 'u' :: 'l' :: 'l' :: rest => some (.null, rest)
    | 't' :: 'r' :: 'u' :: 'e' :: rest => some (.bool true, rest)
    | 'f' :: 'a' :: 'l' :: 's' :: 'e' :: rest => some (.bool false, rest)
    | '"' :: rest =>
      (readString .empty rest).map fun (s, rest) =>
        (match s with | some s => .string s | none => .unreadable, rest)
    | '[' :: rest =>
      match skipBlanks rest with
      | ']' :: rest => some (.array [], rest)
      | rest => readItems fuel [] rest
    | '\x7b' :: rest =>
      match skipBlanks rest with
      | '\x7d' :: rest => some (.object [], rest)
      | rest => readMembers fuel (some []) rest
    | rest => readNumber rest

def readItems : Nat → List Document → List Char → Option (Document × List Char)
  | 0, _, _ => none
  | fuel + 1, done, text =>
    match read fuel text with
    | none => none
    | some (item, rest) =>
      match skipBlanks rest with
      | ']' :: rest => some (.array (item :: done).reverse, rest)
      | ',' :: rest => readItems fuel (item :: done) rest
      | _ => none

def readMembers : Nat → Option (List (String × Document)) → List Char →
    Option (Document × List Char)
  | 0, _, _ => none
  | fuel + 1, done, text =>
    match skipBlanks text with
    | '"' :: rest =>
      match readString .empty rest with
      | none => none
      | some (key, rest) =>
        match skipBlanks rest with
        | ':' :: rest =>
          match read fuel rest with
          | none => none
          | some (item, rest) =>
            let done := key.bind fun key => done.map ((key, item) :: ·)
            match skipBlanks rest with
            | '\x7d' :: rest =>
              some (match done with | some ms => .object ms.reverse | none => .unreadable, rest)
            | ',' :: rest => readMembers fuel done rest
            | _ => none
        | _ => none
    | _ => none

end

def ofText? (text : String) : Option Document :=
  match read (2 * text.length + 2) text.toList with
  | some (document, rest) => if (skipBlanks rest).isEmpty then some document else none
  | none => none

end FeatureFlags.Document

namespace FeatureFlags

def Json.ofText? (text : String) : Option Json :=
  (Document.ofText? text).bind (Document.value? (some Document.maxLevels))

end FeatureFlags
