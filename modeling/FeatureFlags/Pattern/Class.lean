import FeatureFlags.Pattern.Term
import FeatureFlags.Unicode.Age
import FeatureFlags.Unicode.Boundary
import FeatureFlags.Unicode.Category
import FeatureFlags.Unicode.Property
import FeatureFlags.Unicode.Script

/-! # The characters of a class

With Unicode on, a class ranges over all characters. With Unicode off it ranges over bytes, and since
only whole characters are searched, it may then hold nothing outside ASCII. -/

namespace FeatureFlags.Pattern

structure Settings where
  ignoreCase : Bool := false
  multiLine : Bool := false
  dotMatchesNewline : Bool := false
  unicode : Bool := true
  crlf : Bool := false
  swapGreed : Bool := false
  deriving DecidableEq, Repr

/-- Blanks that do not count matter to the reader only. -/
def Settings.change (settings : Settings) (change : Flag × Bool) : Settings :=
  match change with
  | (.ignoreCase, on) => { settings with ignoreCase := on }
  | (.multiLine, on) => { settings with multiLine := on }
  | (.dotMatchesNewline, on) => { settings with dotMatchesNewline := on }
  | (.unicode, on) => { settings with unicode := on }
  | (.crlf, on) => { settings with crlf := on }
  | (.swapGreed, on) => { settings with swapGreed := on }
  | (.extended, _) => settings

def Settings.changeAll (settings : Settings) (changes : FlagChanges) : Settings :=
  changes.foldl Settings.change settings

def asciiSet : CodeSet := .range 0 0x7f

def decimalDigits : CodeSet := Unicode.Category.ofShortNames ["Nd"]

def whiteSpace : CodeSet := Unicode.setOf Unicode.Property.whiteSpace

def wordCharacters : CodeSet :=
  ((Unicode.setOf Unicode.Property.alphabetic).union
    (Unicode.Category.ofShortNames ["Mn", "Mc", "Me", "Nd", "Pc"])).union
    (Unicode.setOf Unicode.Property.joinControl)

def asciiDigits : CodeSet := .ofRanges [(0x30, 0x39)]

def asciiSpace : CodeSet := .ofRanges [(0x9, 0xd), (0x20, 0x20)]

def asciiWord : CodeSet := .ofRanges [(0x30, 0x39), (0x41, 0x5a), (0x5f, 0x5f), (0x61, 0x7a)]

def Shorthand.characters (unicode : Bool) : Shorthand → CodeSet
  | .digit => if unicode then decimalDigits else asciiDigits
  | .space => if unicode then whiteSpace else asciiSpace
  | .word => if unicode then wordCharacters else asciiWord

def Posix.characters : Posix → CodeSet
  | .alnum => .ofRanges [(0x30, 0x39), (0x41, 0x5a), (0x61, 0x7a)]
  | .alpha => .ofRanges [(0x41, 0x5a), (0x61, 0x7a)]
  | .ascii => asciiSet
  | .blank => .ofRanges [(0x9, 0x9), (0x20, 0x20)]
  | .cntrl => .ofRanges [(0, 0x1f), (0x7f, 0x7f)]
  | .digit => asciiDigits
  | .graph => .range 0x21 0x7e
  | .lower => .range 0x61 0x7a
  | .print => .range 0x20 0x7e
  | .punct => .ofRanges [(0x21, 0x2f), (0x3a, 0x40), (0x5b, 0x60), (0x7b, 0x7e)]
  | .space => asciiSpace
  | .upper => .range 0x41 0x5a
  | .word => asciiWord
  | .xdigit => .ofRanges [(0x30, 0x39), (0x41, 0x46), (0x61, 0x66)]

/-- The characters that a property names. The three words that name both a category and something
else name the category. A property alone is one that a character has or has not, a category or a
script; one with a value is a category, a script, a version or a class for text boundaries. -/
def PropertyQuery.characters? : PropertyQuery → Option CodeSet
  | .named name =>
    let boolean := if ["cf", "sc", "lc"].contains (Unicode.looseName name) then none
      else Unicode.Property.ofName? name
    boolean.or ((Unicode.Category.ofName? name).or (Unicode.Script.ofName? name))
  | .valued property value =>
    match Unicode.looseName property with
    | "gc" | "generalcategory" => Unicode.Category.ofName? value
    | "sc" | "script" => Unicode.Script.ofName? value
    | "scx" | "scriptextensions" => Unicode.Script.extensionsOfName? value
    | "age" => Unicode.Age.ofName? value
    | "gcb" | "graphemeclusterbreak" => Unicode.Boundary.grapheme? value
    | "wb" | "wordbreak" => Unicode.Boundary.word? value
    | "sb" | "sentencebreak" => Unicode.Boundary.sentence? value
    | _ => none

namespace Settings

/-- With case ignored, every letter brings the others that equal it up to case: all of Unicode, or
only the letters of ASCII. -/
def fold (settings : Settings) (s : CodeSet) : CodeSet :=
  if settings.ignoreCase then
    if settings.unicode then Unicode.Folding.close s
    else s.union ((Unicode.Folding.close (s.inter (Posix.characters .alpha))).inter asciiSet)
  else s

def check (settings : Settings) (s : CodeSet) : Except Error CodeSet :=
  if settings.unicode || (s.diff asciiSet).isEmpty then .ok s else .error .notText

/-- Case is ignored before a class is negated. -/
def foldAndNegate (settings : Settings) (negated : Bool) (s : CodeSet) : Except Error CodeSet :=
  let folded := settings.fold s
  settings.check (if negated then folded.complement else folded)

def shorthand (settings : Settings) (kind : Shorthand) (negated : Bool) : Except Error CodeSet :=
  let s := kind.characters settings.unicode
  settings.check (if negated then s.complement else s)

def property (settings : Settings) (query : PropertyQuery) (negated : Bool) :
    Except Error CodeSet :=
  if settings.unicode then
    match query.characters? with
    | some s => settings.foldAndNegate negated s
    | none => .error .propertyUnknown
  else .error .unicodeOff

def member (settings : Settings) (l : Literal) : Except Error Nat :=
  if settings.unicode || decide (l.char.toNat < 0x80) then .ok l.char.toNat
  else if l.isByte && decide (l.char.toNat < 0x100) then .error .notText
  else .error .unicodeOff

end Settings

mutual

/-- The characters between the brackets of a class. Case is ignored on both sides of an operator
before it is applied. -/
def SetTerm.characters (settings : Settings) : SetTerm → Except Error CodeSet
  | .literal l => do
    let code ← settings.member l
    return .range code code
  | .range low high => do return .range (← settings.member low) (← settings.member high)
  | .posix kind negated => settings.foldAndNegate negated kind.characters
  | .shorthand kind negated => settings.shorthand kind negated
  | .property query negated => settings.property query negated
  | .bracket body negated => do settings.foldAndNegate negated (← body.characters settings)
  | .union items => SetTerm.charactersOfItems settings items
  | .combine operator left right => do
    let s := settings.fold (← left.characters settings)
    let t := settings.fold (← right.characters settings)
    match operator with
    | .intersection => return s.inter t
    | .difference => return s.diff t
    | .symmetricDifference => return s.symmDiff t

def SetTerm.charactersOfItems (settings : Settings) : List SetTerm → Except Error CodeSet
  | [] => .ok .empty
  | item :: rest => do
    let first ← item.characters settings
    let others ← SetTerm.charactersOfItems settings rest
    return first.union others

end

end FeatureFlags.Pattern
