import Std.Data.HashMap
import FeatureFlags.Unicode.CodeSet

/-! # How far an automaton is built

An automaton over bytes reads a range of characters as rows of byte ranges: the encodings of the
characters are exactly the rows of bytes that can be chosen from one of them. Only the number of its
states and their bytes are kept, not the states.

A state that reads the same and goes on in the same way as an earlier one need not be built a second
time, if the earlier one is still known. A memo knows only so many: each state has one slot, and
whoever comes later takes it over. Which states are built twice therefore depends on the slots, and
with it the size of an automaton. -/

namespace FeatureFlags.Pattern

def encode (code : Nat) : List Nat :=
  if code < 0x80 then [code]
  else if code < 0x800 then [0xc0 + code / 0x40, 0x80 + code % 0x40]
  else if code < 0x10000 then
    [0xe0 + code / 0x1000, 0x80 + code / 0x40 % 0x40, 0x80 + code % 0x40]
  else
    [0xf0 + code / 0x40000, 0x80 + code / 0x1000 % 0x40, 0x80 + code / 0x40 % 0x40,
      0x80 + code % 0x40]

def encodeText (chars : List Char) : List Nat :=
  chars.flatMap fun c => encode c.toNat

abbrev ByteRow := List (Nat × Nat)

/-- Where to cut a range so that the encodings on each side have one length and all combinations of
their bytes occur. -/
def cut? (low high : Nat) : Option Nat :=
  let byLength := [0x80, 0x800, 0x10000].find? fun c => decide (low < c ∧ c ≤ high)
  let byBlock := [0x40, 0x1000, 0x40000].findSome? fun block =>
    if low / block = high / block then none
    else if low % block ≠ 0 then some ((low / block + 1) * block)
    else if high % block ≠ block - 1 then some (high / block * block)
    else none
  if high < 0x80 then none else byLength.or byBlock

/-- The byte rows of a range of code points, surrogates left out. Each cut leaves less to cut, and
`fuel` bounds their number. -/
def byteRows : Nat → Nat → Nat → List ByteRow
  | 0, _, _ => []
  | fuel + 1, low, high =>
    if high < low then []
    else if low ≤ 0xdfff ∧ 0xd800 ≤ high then
      byteRows fuel low 0xd7ff ++ byteRows fuel 0xe000 high
    else
      match cut? low high with
      | some middle => byteRows fuel low (middle - 1) ++ byteRows fuel middle high
      | none => [(encode low).zip (encode high)]

def rowsOf (s : CodeSet) : List ByteRow :=
  s.ranges.toList.flatMap fun (low, high) => byteRows 64 low high

/-- Rows that begin with the same range next to each other, as that range with what follows it in
each of them. -/
def byFirst : List ByteRow → List ((Nat × Nat) × List ByteRow)
  | [] => []
  | [] :: rest => byFirst rest
  | (range :: tail) :: rest =>
    match byFirst rest with
    | (other, tails) :: groups =>
      if range = other then (range, tail :: tails) :: groups
      else (range, [tail]) :: (other, tails) :: groups
    | [] => [(range, [tail])]

def hashOf (key : List Nat) : UInt64 :=
  key.foldl (fun hash n => (hash ^^^ UInt64.ofNat n) * 1099511628211) 14695981039346656037

structure Memo where
  slots : Nat
  kept : Std.HashMap Nat (List Nat × Nat)

namespace Memo

def empty (slots : Nat) : Memo := ⟨slots, {}⟩

def slot (memo : Memo) (key : List Nat) : Nat := (hashOf key).toNat % memo.slots

def find? (memo : Memo) (key : List Nat) : Option Nat :=
  match memo.kept[memo.slot key]? with
  | some (kept, state) => if kept = key then some state else none
  | none => none

def insert (memo : Memo) (key : List Nat) (state : Nat) : Memo :=
  ⟨memo.slots, memo.kept.insert (memo.slot key) (key, state)⟩

theorem find?_insert_self (memo : Memo) (key : List Nat) (state : Nat) :
    (memo.insert key state).find? key = some state := by
  simp [find?, insert, slot]

theorem find?_insert_of_slot_eq {memo : Memo} {key other : List Nat} {state : Nat}
    (same : memo.slot other = memo.slot key) (different : other ≠ key) :
    (memo.insert other state).find? key = none := by
  have slot_eq : (memo.insert other state).slot key = memo.slot other := by
    simp [insert, slot] at same ⊢
    exact same.symm
  simp only [find?, slot_eq]
  simp [insert, different]

end Memo

def maxBytes : Nat := 10 * 1024 * 1024

def stateBytes : Nat := 32

def rangeBytes : Nat := 8

def branchBytes : Nat := 4

/-- States are numbered in the order in which they are added. -/
structure Extent where
  states : Nat
  bytes : Nat
  deriving DecidableEq, Repr

namespace Extent

def nothing : Extent := ⟨0, 0⟩

def isTooLarge (built : Extent) : Bool := decide (maxBytes < built.bytes)

def add (built : Extent) (count : Nat) : Extent :=
  ⟨built.states + count, built.bytes + count * stateBytes⟩

def addChoice (built : Extent) (ranges : Nat) : Extent :=
  ⟨built.states + 1, built.bytes + stateBytes + ranges * rangeBytes⟩

def addFork (built : Extent) (branches : Nat) : Extent :=
  ⟨built.states + 1, built.bytes + stateBytes + branches * branchBytes⟩

/-- Build something several times. Once the automaton is too large, more of it makes no
difference. -/
def times (build : Extent → Extent) : Nat → Extent → Extent
  | 0, built => built
  | n + 1, built => if built.isTooLarge then built else times build n (build built)

def backwardSlots : Nat := 1000

def forwardSlots : Nat := 10000

/-- A row read backward ends where all rows end; what it has in common with an earlier one is shared
from there on. The third part is the state that was entered last. -/
def addRow (row : ByteRow) (memo : Memo) (built : Extent) (last : Nat) : Memo × Extent :=
  match row with
  | [] => (memo, built)
  | (low, high) :: rest =>
    let key := [last, low, high]
    match memo.find? key with
    | some state => addRow rest memo built state
    | none => addRow rest (memo.insert key built.states) (built.add 1) built.states

def addBackward (rows : List ByteRow) (built : Extent) : Extent :=
  let last := built.states + 1
  let start := (built.addFork rows.length).add 1
  (rows.foldl (fun (memo, built) row => addRow row memo built last)
    (Memo.empty backwardSlots, start)).2

/-- The states that read one of several rows forward, those behind it first. Equal states are shared.
The third result is the state that is entered. A row has no more than `fuel` ranges. -/
def addRows : Nat → Nat → List ByteRow → Memo → Extent → Memo × Extent × Nat
  | 0, last, _, memo, built => (memo, built, last)
  | fuel + 1, last, rows, memo, built =>
    let groups := byFirst rows
    let (memo, built, key) := groups.foldl
      (fun (memo, built, key) ((low, high), tails) =>
        let (memo, built, next) :=
          if tails.all List.isEmpty then (memo, built, last)
          else addRows fuel last tails memo built
        (memo, built, key ++ [low, high, next]))
      (memo, built, [])
    match memo.find? key with
    | some state => (memo, built, state)
    | none => (memo.insert key built.states, built.addChoice groups.length, built.states)

def addForward (rows : List ByteRow) (built : Extent) : Extent :=
  (addRows 4 built.states rows (Memo.empty forwardSlots) (built.add 1)).2.1

def runsOf : List (List Nat) → List (List (List Nat))
  | [] => [[]]
  | [] :: rest => [] :: runsOf rest
  | text :: rest =>
    match runsOf rest with
    | run :: runs => (text :: run) :: runs
    | [] => [[text]]

def tailsOf (byte : Nat) (texts : List (List Nat)) : List (List Nat) :=
  texts.filterMap fun
    | first :: rest => if first = byte then some rest else none
    | [] => none

/-- The states that read one of several texts as a tree. A text that ends where others go on comes
between those that were listed before and those listed behind it, so these do not share states;
ends in front of all texts count once. No text is longer than `fuel`. -/
def addTree : Nat → List (List Nat) → Extent → Extent
  | 0, _, built => built
  | fuel + 1, texts, built =>
    let runs := (runsOf texts).dropWhile List.isEmpty
    if runs.isEmpty then built
    else
      let ends := runs.length - 1 + if texts.head? = some [] then 1 else 0
      let choices := runs.filter (!·.isEmpty)
      let built := choices.foldl
        (fun built run =>
          let bytes := (run.filterMap List.head?).eraseDups
          let built := bytes.foldl (fun built byte => addTree fuel (tailsOf byte run) built) built
          match bytes with
          | [_] => built.add 1
          | _ => built.addChoice bytes.length)
        built
      built.addFork (choices.length + ends)

def addTexts (texts : List (List Nat)) (built : Extent) : Extent :=
  addTree (texts.foldl (fun longest text => max longest text.length) 0) texts (built.add 1)

end Extent

end FeatureFlags.Pattern
