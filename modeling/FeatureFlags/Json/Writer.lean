import FeatureFlags.Json

/-! # Writing JSON text -/

namespace FeatureFlags.Json

def hexDigits (width n : Nat) : String :=
  let digits := Nat.toDigits 16 n
  String.ofList (List.replicate (width - digits.length) '0' ++ digits)

def writeChar (c : Char) : String :=
  if c == '"' then "\\\""
  else if c == '\\' then "\\\\"
  else if c < ' ' then "\\u" ++ hexDigits 4 c.toNat
  else c.toString

def writeString (s : String) : String :=
  "\"" ++ s.foldl (fun text c => text ++ writeChar c) "" ++ "\""

/-- A number keeps its kind when it is read back: a real always has a fraction. No literal writes
a real that is not finite, so `null` stands for it. -/
def writeNumber : Number → String
  | .int n => toString n
  | .real x =>
    if x.isFinite then
      let text := x.text
      if text.contains '.' then text else text ++ ".0"
    else "null"

mutual

def writeAfter (text : String) : Json → String
  | .null => text ++ "null"
  | .bool b => text ++ if b then "true" else "false"
  | .number n => text ++ writeNumber n
  | .string s => text ++ writeString s
  | .array items => writeItems (text ++ "[") items ++ "]"
  | .object members => writeMembers (text ++ "\x7b") members ++ "\x7d"

def writeItems (text : String) : List Json → String
  | [] => text
  | [item] => writeAfter text item
  | item :: rest => writeItems (writeAfter text item ++ ",") rest

def writeMembers (text : String) : List (String × Json) → String
  | [] => text
  | [(key, item)] => writeAfter (text ++ writeString key ++ ":") item
  | (key, item) :: rest =>
    writeMembers (writeAfter (text ++ writeString key ++ ":") item ++ ",") rest

end

def write (value : Json) : String := writeAfter "" value

end FeatureFlags.Json
