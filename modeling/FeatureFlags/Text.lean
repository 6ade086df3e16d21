import FeatureFlags.Unicode.Age
import FeatureFlags.Unicode.Category
import FeatureFlags.Unicode.Property

/-! # Blanks and quoted text

A quoted text shows every character on one line and without doubt: what is invisible, moves with the
character in front of it or is not assigned is written as its code point. -/

namespace FeatureFlags.Text

/-- The characters with the property White_Space. -/
def isBlank (c : Char) : Bool :=
  let code := c.toNat
  decide (9 ≤ code ∧ code ≤ 13) || code == 0x20 || code == 0x85 || code == 0xa0 ||
    code == 0x1680 || decide (0x2000 ≤ code ∧ code ≤ 0x200a) || code == 0x2028 ||
    code == 0x2029 || code == 0x202f || code == 0x205f || code == 0x3000

def trimChars (text : List Char) : List Char :=
  ((text.dropWhile isBlank).reverse.dropWhile isBlank).reverse

def trim (text : String) : String :=
  String.ofList (trimChars text.toList)

/-- Control, format, private and unassigned characters, line and paragraph separators, blanks other
than the space, and characters that are not drawn by default. -/
def invisible : CodeSet :=
  let kinds := Unicode.Category.ofShortNames ["Cc", "Cf", "Cn", "Co", "Zl", "Zp", "Zs"]
  let ignorable := Unicode.setOf Unicode.Property.defaultIgnorableCodePoint
  ((kinds.union ignorable).diff (.singleton ' ')).diff Unicode.Addition.assigned

/-- The two halfwidth marks of voicing, which have a cell of their own. -/
def voicingMarks : CodeSet := .range 0xff9e 0xff9f

def combining : CodeSet :=
  ((Unicode.setOf Unicode.Property.graphemeExtend).union Unicode.Addition.graphemeExtend).diff
    voicingMarks

def codePoint (c : Char) : List Char :=
  "\\u\x7b".toList ++ Nat.toDigits 16 c.toNat ++ ['\x7d']

def quoteChar (c : Char) : List Char :=
  match c with
  | '"' => ['\\', '"']
  | '\\' => ['\\', '\\']
  | '\n' => ['\\', 'n']
  | '\r' => ['\\', 'r']
  | '\t' => ['\\', 't']
  | '\x00' => ['\\', '0']
  | _ => if combining.contains c || invisible.contains c then codePoint c else [c]

def quote (text : String) : String :=
  String.ofList ('"' :: (text.toList.flatMap quoteChar ++ ['"']))

end FeatureFlags.Text
