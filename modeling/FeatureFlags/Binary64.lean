/-! # Doubles: exact value, order, arithmetic that rounds to nearest, and shortest decimals

A finite double is a whole number of smallest units, each worth `2 ^ -1074`, so its value and its
order are stated on integers. -/

namespace FeatureFlags

/-- A number of the 64-bit binary interchange format, held as its bit pattern. -/
structure Binary64 where
  bits : UInt64
  deriving DecidableEq, Repr

namespace Binary64

def signBit : Nat := 0x8000000000000000

def leadingBit : Nat := 0x0010000000000000

def magnitude (x : Binary64) : Nat :=
  x.bits.toNat % signBit

def isNegative (x : Binary64) : Bool :=
  decide (signBit ≤ x.bits.toNat)

/-- The magnitude of the infinities. Smaller ones are finite, larger ones are no numbers. -/
def infiniteMagnitude : Nat := 0x7ff0000000000000

def isFinite (x : Binary64) : Bool :=
  decide (x.magnitude < infiniteMagnitude)

def isNaN (x : Binary64) : Bool :=
  decide (infiniteMagnitude < x.magnitude)

def ofMagnitude (negative : Bool) (magnitude : Nat) : Binary64 :=
  ⟨UInt64.ofNat ((if negative then signBit else 0) + magnitude)⟩

def significand (x : Binary64) : Nat :=
  if x.magnitude < leadingBit then x.magnitude else leadingBit + x.magnitude % leadingBit

def shift (x : Binary64) : Nat :=
  x.magnitude / leadingBit - 1

def unitsAbs (x : Binary64) : Nat :=
  x.significand <<< x.shift

def units (x : Binary64) : Int :=
  if x.isNegative then -(x.unitsAbs : Int) else x.unitsAbs

def one : Nat := 1 <<< 1074

/-- The place of a double in the order of all numbers: both zeros share a place. -/
def rank (x : Binary64) : Int :=
  if x.isNegative then -(x.magnitude : Int) else x.magnitude

/-- Numeric equality: no NaN equals anything, and the two zeros are equal. -/
def eq (x y : Binary64) : Bool :=
  !x.isNaN && !y.isNaN && x.rank == y.rank

def lt (x y : Binary64) : Bool :=
  !x.isNaN && !y.isNaN && decide (x.rank < y.rank)

def le (x y : Binary64) : Bool :=
  !x.isNaN && !y.isNaN && decide (x.rank ≤ y.rank)

/-- `num / den` rounded to a natural number, a half going to the even neighbour. -/
def roundHalfEven (num den : Nat) : Nat :=
  let whole := num / den
  let twice := 2 * (num % den)
  if twice < den ∨ (twice = den ∧ whole % 2 = 0) then whole else whole + 1

/-- The magnitude nearest to `num / den` smallest units. The last place is chosen so that at most
53 binary digits stay; a carry out of them moves into the exponent by itself, and whatever lies
beyond the largest finite double becomes infinite. -/
def nearestMagnitude (num den : Nat) : Nat :=
  let place := Nat.log2 (num / den) - 52
  min (place * leadingBit + roundHalfEven num (den <<< place)) infiniteMagnitude

def ofInt (n : Int) : Binary64 :=
  ofMagnitude (decide (n < 0)) (nearestMagnitude (n.natAbs * one) 1)

def powerOfTen (exponent : Nat) : Nat := Nat.pow 10 exponent

def tenTo (exponent : Nat) : Binary64 := ofInt (powerOfTen exponent)

def mul (x y : Binary64) : Binary64 :=
  ofMagnitude (x.isNegative != y.isNegative) (nearestMagnitude (x.unitsAbs * y.unitsAbs) one)

def div (x y : Binary64) : Binary64 :=
  ofMagnitude (x.isNegative != y.isNegative) (nearestMagnitude (x.unitsAbs * one) y.unitsAbs)

def lastTen : Nat := 308

/-- A whole double below `10 ^ 20` with its decimal point moved: multiplied by a power of ten or
divided by one, where the power and the result are rounded. Where the power is no finite double, a
product is too large, and a quotient is taken in two steps; after two divisions by the largest power
nothing is left. -/
def movePoint (x : Binary64) (exponent : Int) : Binary64 :=
  if x.magnitude = 0 then x
  else if 0 ≤ exponent then
    if exponent ≤ lastTen then x.mul (tenTo exponent.toNat)
    else ofMagnitude x.isNegative infiniteMagnitude
  else
    let places := (-exponent).toNat
    if places ≤ lastTen then x.div (tenTo places)
    else if places ≤ 2 * lastTen then (x.div (tenTo lastTen)).div (tenTo (places - lastTen))
    else ofMagnitude x.isNegative 0

def scale (factor : Nat) (x : Binary64) : Binary64 :=
  ofMagnitude x.isNegative (nearestMagnitude (factor * x.unitsAbs) 1)

def roundHalfUp (x : Binary64) : Nat :=
  (2 * x.unitsAbs + one) / (2 * one)

end Binary64

end FeatureFlags

namespace FeatureFlags.Binary64

structure Decimal where
  digits : Nat
  exponent : Int
  deriving DecidableEq, Repr

/-- The reals that round to a positive finite double, in quarters of the smallest unit. The ends
belong to the interval exactly if the significand is even. -/
structure Neighbourhood where
  low : Nat
  value : Nat
  high : Nat
  closed : Bool
  deriving DecidableEq, Repr

/-- Half a last place each way, but only a quarter downwards from a power of two, below which the
doubles lie closer together. -/
def neighbourhood (x : Binary64) : Neighbourhood :=
  let unit := 1 <<< x.shift
  let below := if x.significand = leadingBit ∧ 0 < x.shift then unit else 2 * unit
  let value := 4 * x.unitsAbs
  ⟨value - below, value, value + 2 * unit, x.significand % 2 == 0⟩

namespace Neighbourhood

/-- Quarters of the smallest unit, and steps of the grid `10 ^ place`, over a common
denominator: the value is `value * fine` and a step is `coarse`. -/
def fine (place : Int) : Nat := powerOfTen (-place).toNat

def coarse (place : Int) : Nat := 4 * one * powerOfTen place.toNat

def holds (i : Neighbourhood) (place : Int) (n : Nat) : Bool :=
  let point := n * coarse place
  if i.closed then decide (i.low * fine place ≤ point ∧ point ≤ i.high * fine place)
  else decide (i.low * fine place < point ∧ point < i.high * fine place)

/-- The point of the grid that rounds to the double, the nearer one if both neighbours do and the
upper one if they are equally near. -/
def onGrid? (i : Neighbourhood) (place : Int) : Option Decimal :=
  let scaled := i.value * fine place
  let n := scaled / coarse place
  let rest := scaled % coarse place
  if i.holds place n && (decide (2 * rest < coarse place) || !i.holds place (n + 1)) then
    some ⟨n, place⟩
  else if i.holds place (n + 1) then some ⟨n + 1, place⟩
  else none

def search (i : Neighbourhood) : Nat → Int → Decimal
  | 0, place => ⟨i.value * fine place / coarse place, place⟩
  | more + 1, place => (i.onGrid? place).getD (search i more (place - 1))

end Neighbourhood

def leadingPlace (x : Binary64) : Int :=
  let binary : Int := Nat.log2 x.unitsAbs - 1074
  (binary + 1) * 30103 / 100000 + 1

/-- The shortest decimal that rounds to a finite double, and of those the nearest to it. Seventeen
digits always suffice; the search starts up to two places above the leading one. -/
def shortest (x : Binary64) : Decimal :=
  if x.unitsAbs = 0 then ⟨0, 0⟩ else x.neighbourhood.search 20 x.leadingPlace

def Decimal.text (d : Decimal) : String :=
  let digits := Nat.toDigits 10 d.digits
  if 0 ≤ d.exponent then
    String.ofList (if d.digits = 0 then ['0'] else digits ++ List.replicate d.exponent.toNat '0')
  else
    let places := (-d.exponent).toNat
    let padded := List.replicate (places + 1 - digits.length) '0' ++ digits
    let whole := padded.take (padded.length - places)
    let fraction := (padded.drop (padded.length - places)).reverse.dropWhile (· == '0')
    String.ofList (if fraction.isEmpty then whole else whole ++ '.' :: fraction.reverse)

/-- A double as text: the shortest digits, never an exponent, no point after a whole number. -/
def text (x : Binary64) : String :=
  if x.isNaN then "NaN"
  else
    let sign := if x.isNegative then "-" else ""
    if x.isFinite then sign ++ x.shortest.text else sign ++ "inf"

end FeatureFlags.Binary64
