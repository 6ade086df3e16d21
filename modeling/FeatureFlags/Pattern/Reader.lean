import FeatureFlags.Document.Reader
import FeatureFlags.Pattern.Term
import FeatureFlags.Text

/-! # Reading a pattern

Every step of the reader takes at least one character off the text, so the functions that call
themselves carry a bound computed from its length. -/

namespace FeatureFlags.Pattern

/-- The text still to be read, whether blanks and comments in it are skipped, and the names that
groups already have. -/
structure Cursor where
  rest : List Char
  extended : Bool
  groupNames : List String

abbrev Read := StateT Cursor (Except Error)

def dropFiller (inComment : Bool) : List Char → List Char
  | [] => []
  | c :: rest =>
    if inComment then dropFiller (c != '\n') rest
    else if Text.isBlank c then dropFiller false rest
    else if c == '#' then dropFiller true rest
    else c :: rest

namespace Read

def rest : Read (List Char) := return (← get).rest

def peek? : Read (Option Char) := return (← get).rest.head?

def skip : Read Unit :=
  modify fun c => if c.extended then { c with rest := dropFiller false c.rest } else c

def drop (n : Nat) : Read Unit :=
  modify fun c => { c with rest := c.rest.drop n }

def advance : Read Unit := do
  drop 1
  skip

def collect (test : Char → Bool) : Nat → Read (List Char)
  | 0 => return []
  | bound + 1 => do
    match ← peek? with
    | some c =>
      if test c then
        advance
        return c :: (← collect test bound)
      else return []
    | none => return []

def collectWhile (test : Char → Bool) : Read (List Char) := do
  collect test (← rest).length

def expect (c : Char) (otherwise : Error) : Read Unit := do
  if (← peek?) == some c then drop 1 else throw otherwise

end Read

open Read

def charOfHex (digits : List Char) (isByte : Bool) : Read Term := do
  match digits.mapM Document.hexDigit? with
  | some values =>
    let code := values.foldl (fun n d => n * 16 + d) 0
    if digits.isEmpty || !decide code.isValidChar then throw .hexInvalid
    else return .literal ⟨Char.ofNat code, isByte⟩
  | none => throw .hexInvalid

def readDigits : Nat → Read (List Char)
  | 0 => return []
  | n + 1 => do
    match ← peek? with
    | some c =>
      advance
      return c :: (← readDigits n)
    | none => throw .escapeUnfinished

def readHex (kind : Char) : Read Term := do
  advance
  if (← peek?) == some '\x7b' then
    advance
    let digits ← collectWhile (· != '\x7d')
    if (← peek?).isNone then throw .escapeUnfinished
    advance
    charOfHex digits false
  else
    let count := if kind == 'x' then 2 else if kind == 'u' then 4 else 8
    charOfHex (← readDigits count) (kind == 'x')

def splitAtMark? (mark : List Char) : List Char → Option (List Char × List Char)
  | [] => none
  | c :: rest =>
    if mark.isPrefixOf (c :: rest) then some ([], (c :: rest).drop mark.length)
    else (splitAtMark? mark rest).map fun (before, after) => (c :: before, after)

/-- A property is named alone, or as a property and its value. The marks `=` and `:` between them
ask for the value and `!=` asks for any other one, which the second result says. -/
def propertyQuery (name : List Char) : PropertyQuery × Bool :=
  match splitAtMark? ['!', '='] name with
  | some (property, value) => (.valued (String.ofList property) (String.ofList value), true)
  | none =>
    match (splitAtMark? [':'] name).or (splitAtMark? ['='] name) with
    | some (property, value) => (.valued (String.ofList property) (String.ofList value), false)
    | none => (.named (String.ofList name), false)

def readProperty (negated : Bool) : Read Term := do
  advance
  match ← peek? with
  | none => throw .escapeUnfinished
  | some '\x7b' =>
    advance
    let name ← collectWhile (· != '\x7d')
    expect '\x7d' .escapeUnfinished
    let (query, differs) := propertyQuery name
    return .property query (negated != differs)
  | some '\\' => throw .propertyUnknown
  | some c =>
    advance
    return .property (.named c.toString) negated

def wordEdge? (name : List Char) : Option WordEdge :=
  [("start", .start), ("end", .finish), ("start-half", .startHalf), ("end-half", .finishHalf)].lookup
    (String.ofList name)

def readWordEdge : Read Term := do
  let before ← get
  if before.rest.head? != some '\x7b' then return .assertion (.word .boundary)
  let test (c : Char) := c.isAlpha || c == '-'
  advance
  match ← peek? with
  | none => throw .boundaryUnknown
  | some c =>
    if test c then
      let name ← collectWhile test
      expect '\x7d' .boundaryUnknown
      match wordEdge? name with
      | some edge => return .assertion (.word edge)
      | none => throw .boundaryUnknown
    else
      set before
      return .assertion (.word .boundary)

/-- Characters that stand for themselves behind a backslash: all of ASCII but letters, digits and
the two angles. -/
def isEscapable (c : Char) : Bool :=
  decide (c.toNat < 0x80) && !c.isAlphanum && c != '<' && c != '>'

def controlChar? (c : Char) : Option Char :=
  [('a', '\x07'), ('f', '\x0c'), ('t', '\t'), ('n', '\n'), ('r', '\r'), ('v', '\x0b')].lookup c

def assertionLetter? (c : Char) : Option Assertion :=
  [('A', .textStart), ('z', .textEnd), ('B', .word .inside), ('<', .word .start),
   ('>', .word .finish)].lookup c

def shorthand? (c : Char) : Option Shorthand :=
  [('d', .digit), ('s', .space), ('w', .word)].lookup c.toLower

def readEscape : Read Term := do
  drop 1
  match ← peek? with
  | none => throw .escapeUnfinished
  | some c =>
    if c.isDigit then throw .backreference
    else if c == 'x' || c == 'u' || c == 'U' then readHex c
    else if c == 'p' || c == 'P' then readProperty (c == 'P')
    else
      drop 1
      if let some kind := shorthand? c then return .shorthand kind c.isUpper
      else if isEscapable c then return .literal ⟨c, false⟩
      else if let some control := controlChar? c then return .literal ⟨control, false⟩
      else if let some a := assertionLetter? c then return .assertion a
      else if c == 'b' then readWordEdge
      else throw .escapeUnknown

def posix? (name : List Char) : Option Posix :=
  [("alnum", .alnum), ("alpha", .alpha), ("ascii", .ascii), ("blank", .blank), ("cntrl", .cntrl),
   ("digit", .digit), ("graph", .graph), ("lower", .lower), ("print", .print), ("punct", .punct),
   ("space", .space), ("upper", .upper), ("word", .word), ("xdigit", .xdigit)].lookup
    (String.ofList name)

def posixClass? : List Char → Option (SetTerm × List Char)
  | '[' :: ':' :: rest =>
    let (negated, rest) := match rest with
      | '^' :: rest => (true, rest)
      | rest => (false, rest)
    match rest.dropWhile (· != ':') with
    | ':' :: ']' :: after =>
      (posix? (rest.takeWhile (· != ':'))).map fun kind => (.posix kind negated, after)
    | _ => none
  | _ => none

def setItem : Term → Except Error SetTerm
  | .literal l => .ok (.literal l)
  | .shorthand kind negated => .ok (.shorthand kind negated)
  | .property query negated => .ok (.property query negated)
  | _ => .error .classItemInvalid

def rangeEnd : Term → Except Error Literal
  | .literal l => .ok l
  | _ => .error .rangeOutOfOrder

def readSetItem : Read Term := do
  match ← peek? with
  | some '\\' => readEscape
  | some c =>
    drop 1
    return .literal ⟨c, false⟩
  | none => throw .classUnclosed

/-- The character behind the current one. Blanks that do not count are passed over, and so is the
sign that would begin a comment. -/
def peekBehind? (cursor : Cursor) : Option Char :=
  let behind := cursor.rest.drop 1
  if cursor.extended then
    match behind.dropWhile Text.isBlank with
    | '#' :: rest => (rest.dropWhile Text.isBlank).head?.or behind.head?
    | c :: _ => some c
    | [] => behind.head?
  else behind.head?

/-- One item of a class, or a range. A hyphen in front of the closing bracket or of a second hyphen
makes no range. -/
def readSetRange : Read SetTerm := do
  let low ← readSetItem
  skip
  match ← peek? with
  | none => throw .classUnclosed
  | some c =>
    let behind := peekBehind? (← get)
    if c != '-' || behind == some ']' || behind == some '-' then setItem low
    else
      advance
      let high ← readSetItem
      let low ← rangeEnd low
      let high ← rangeEnd high
      if high.char < low.char then throw .rangeOutOfOrder
      return .range low high

def setOperator? : List Char → Option SetOperator
  | '&' :: '&' :: _ => some .intersection
  | '-' :: '-' :: _ => some .difference
  | '~' :: '~' :: _ => some .symmetricDifference
  | _ => none

def closeOperand (pending : Option (SetOperator × SetTerm)) (items : List SetTerm) : SetTerm :=
  let right := SetTerm.ofItems items.reverse
  match pending with
  | none => right
  | some (operator, left) => .combine operator left right

/-- Hyphens at the front of a class, and then a closing bracket if it is the very first character,
stand for themselves. -/
def readSetFront : Nat → List SetTerm → Read (List SetTerm)
  | 0, items => return items
  | bound + 1, items => do
    match ← peek? with
    | none => throw .classUnclosed
    | some '-' =>
      advance
      readSetFront bound (.literal ⟨'-', false⟩ :: items)
    | some ']' =>
      if items.isEmpty then
        advance
        if (← peek?).isNone then throw .classUnclosed
        return [.literal ⟨']', false⟩]
      else return items
    | some _ => return items

mutual

def readBracket : Nat → Read (SetTerm × Bool)
  | 0 => throw .classUnclosed
  | bound + 1 => do
    advance
    let negated := (← peek?) == some '^'
    if negated then advance
    let items ← readSetFront bound []
    let body ← readSetBody bound none items
    return (body, negated)

def readSetBody : Nat → Option (SetOperator × SetTerm) → List SetTerm → Read SetTerm
  | 0, _, _ => throw .classUnclosed
  | bound + 1, pending, items => do
    skip
    let text ← rest
    match text with
    | [] => throw .classUnclosed
    | ']' :: _ =>
      drop 1
      return closeOperand pending items
    | '[' :: _ =>
      match posixClass? text with
      | some (item, after) =>
        modify fun c => { c with rest := after }
        readSetBody bound pending (item :: items)
      | none =>
        let (body, negated) ← readBracket bound
        readSetBody bound pending (.bracket body negated :: items)
    | _ =>
      match setOperator? text with
      | some operator =>
        drop 2
        readSetBody bound (some (operator, closeOperand pending items)) []
      | none =>
        let item ← readSetRange
        readSetBody bound pending (item :: items)

end

def readCount? : Read (Option Nat) := do
  modify fun c => { c with rest := c.rest.dropWhile Text.isBlank }
  let digits ← collectWhile Char.isDigit
  modify fun c => { c with rest := c.rest.dropWhile Text.isBlank }
  if digits.isEmpty then return none
  let count := digits.foldl (fun n d => n * 10 + (d.toNat - '0'.toNat)) 0
  if UInt32.size ≤ count then throw .countTooLarge
  return some count

def required (count : Option Nat) : Read Nat :=
  match count with
  | some n => return n
  | none => throw .countMissing

/-- The bounds in braces. Only the upper one may be missing. -/
def readCounts : Read (Nat × Option Nat) := do
  advance
  let least ← readCount?
  let counts ← match ← peek? with
    | none => throw .countUnclosed
    | some ',' =>
      advance
      if (← peek?) == some '\x7d' then pure (← required least, none)
      else
        let least ← required least
        pure (least, some (← required (← readCount?)))
    | some _ =>
      let exact ← required least
      pure (exact, some exact)
  expect '\x7d' .countUnclosed
  skip
  match counts.2 with
  | some most => if most < counts.1 then throw .countOutOfOrder else return counts
  | none => return counts

def repeatLast (items : List Term) (least : Nat) (most : Option Nat) : Read (List Term) := do
  let greedy := (← peek?) != some '?'
  if !greedy then drop 1
  match items with
  | [] => throw .nothingToRepeat
  | .flags _ :: _ => throw .nothingToRepeat
  | item :: before => return .repetition least most greedy item :: before

def flag? (c : Char) : Option Flag :=
  [('i', .ignoreCase), ('m', .multiLine), ('s', .dotMatchesNewline), ('U', .swapGreed),
   ('u', .unicode), ('R', .crlf), ('x', .extended)].lookup c

/-- Flags, those behind a hyphen switched off. No flag comes twice, and the one hyphen that may
stand among them is not the last. -/
def flagChanges (on : Bool) : List Char → Except Error FlagChanges
  | [] => .ok []
  | '-' :: rest =>
    if on then if rest.isEmpty then .error .flagMissing else flagChanges false rest
    else .error .flagRepeated
  | c :: rest =>
    match flag? c with
    | none => .error .flagUnknown
    | some flag => do
      let changes ← flagChanges on rest
      if changes.any (·.1 == flag) then .error .flagRepeated else .ok ((flag, on) :: changes)

def changeOf? (flag : Flag) (changes : FlagChanges) : Option Bool :=
  changes.lookup flag

def isAlphabetic (c : Char) : Bool :=
  (Unicode.setOf Unicode.Property.alphabetic).contains c || Unicode.Addition.alphabetic.contains c

def isNumeric (c : Char) : Bool :=
  (Unicode.Category.ofShortNames ["Nd", "Nl", "No"]).contains c ||
    Unicode.Addition.numeric.contains c

def isGroupName : List Char → Bool
  | [] => false
  | c :: rest =>
    (c == '_' || isAlphabetic c) &&
      rest.all fun d => d == '_' || d == '.' || d == '[' || d == ']' || isAlphabetic d || isNumeric d

def readGroupName : Read Unit := do
  let text ← rest
  let name := text.takeWhile (· != '>')
  if name.length == text.length then throw .groupNameMissing
  if !isGroupName name then throw .groupNameInvalid
  let cursor ← get
  let known := String.ofList name
  if cursor.groupNames.contains known then throw .groupNameRepeated
  set { cursor with rest := text.drop (name.length + 1), groupNames := known :: cursor.groupNames }

inductive Opening where
  | directive (changes : FlagChanges)
  | group (changes : FlagChanges) (captures : Bool)

def startsWith (text : List Char) (front : String) : Bool :=
  front.toList.isPrefixOf text

def readOpening : Read Opening := do
  advance
  let text ← rest
  if ["?=", "?!", "?<=", "?<!"].any (startsWith text) then throw .lookAround
  if startsWith text "?P<" then
    drop 3
    readGroupName
    return .group [] true
  else if startsWith text "?<" then
    drop 2
    readGroupName
    return .group [] true
  else if startsWith text "?" then
    drop 1
    let written := (← rest).takeWhile fun c => c != ':' && c != ')'
    drop written.length
    match ← peek? with
    | none => throw .unclosedGroup
    | some c =>
      drop 1
      let changes ← flagChanges true written
      if c == ')' then
        if changes.isEmpty then throw .nothingToRepeat
        return .directive changes
      else return .group changes false
  else return .group [] true

mutual

def readBranches : Nat → List Term → Read Term
  | 0, _ => throw .unclosedGroup
  | bound + 1, done => do
    let branch ← readBranch bound []
    if (← peek?) == some '|' then
      drop 1
      readBranches bound (branch :: done)
    else return Term.ofBranches (branch :: done).reverse

def readBranch : Nat → List Term → Read Term
  | 0, _ => throw .unclosedGroup
  | bound + 1, items => do
    skip
    match ← peek? with
    | none => return Term.ofItems items.reverse
    | some '|' => return Term.ofItems items.reverse
    | some ')' => return Term.ofItems items.reverse
    | some '(' =>
      let outside ← get
      match ← readOpening with
      | .directive changes =>
        modify fun c => { c with extended := (changeOf? .extended changes).getD c.extended }
        readBranch bound (.flags changes :: items)
      | .group changes captures =>
        modify fun c => { c with extended := (changeOf? .extended changes).getD c.extended }
        let body ← readBranches bound []
        expect ')' .unclosedGroup
        modify fun c => { c with extended := outside.extended }
        readBranch bound (.group changes captures body :: items)
    | some '[' =>
      let (body, negated) ← readBracket bound
      readBranch bound (.bracket body negated :: items)
    | some '?' =>
      drop 1
      readBranch bound (← repeatLast items 0 (some 1))
    | some '*' =>
      drop 1
      readBranch bound (← repeatLast items 0 none)
    | some '+' =>
      drop 1
      readBranch bound (← repeatLast items 1 none)
    | some '\x7b' =>
      let (least, most) ← readCounts
      readBranch bound (← repeatLast items least most)
    | some '\\' => readBranch bound ((← readEscape) :: items)
    | some '.' =>
      drop 1
      readBranch bound (.dot :: items)
    | some '^' =>
      drop 1
      readBranch bound (.assertion .lineStart :: items)
    | some '$' =>
      drop 1
      readBranch bound (.assertion .lineEnd :: items)
    | some c =>
      drop 1
      readBranch bound (.literal ⟨c, false⟩ :: items)

end

def Term.ofText (text : String) : Except Error Term := do
  let chars := text.toList
  let (term, cursor) ← (readBranches (2 * chars.length + 2) []).run ⟨chars, false, []⟩
  if !cursor.rest.isEmpty then .error .unopenedGroup
  else if Term.maxDepth < term.depth then .error .tooDeep
  else .ok term

end FeatureFlags.Pattern
