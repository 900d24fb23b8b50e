import BlobFiles.Decimal.Binary64

/-! # The shortest decimal of a binary number

`shortest` finds the fewest decimal digits that still round to the given number, and among those the
ones nearest to it. `text` writes them: positionally when the number lies from `1e-5` up to `1e16`,
with an exponent and its sign otherwise, and always as a number with a fraction or an exponent.
-/
namespace BlobFiles.Decimal

/-- The numbers that round to a magnitude lie between `low` and `high`, all over one denominator. -/
structure Interval where
  low : Nat
  value : Nat
  high : Nat
  den : Nat
  closed : Bool

namespace Interval

/-- Half a unit of the last binary place on both sides; a quarter below a power of two. -/
def ofMagnitude (x : Magnitude) : Interval :=
  let below := if x.mantissa = 1 <<< 52 && x.exponent ≠ Magnitude.least then 1 else 2
  let scale := (x.exponent - 2).toNat
  { low := (4 * x.mantissa - below) <<< scale
    value := (4 * x.mantissa) <<< scale
    high := (4 * x.mantissa + 2) <<< scale
    den := 1 <<< (2 - x.exponent).toNat
    closed := x.mantissa % 2 = 0 }

/-- Every member divided by `10 ^ e`. -/
def dividePow10 (i : Interval) (e : Int) : Interval :=
  let up := Nat.pow 10 (-e).toNat
  { i with
    low := i.low * up
    value := i.value * up
    high := i.high * up
    den := i.den * Nat.pow 10 e.toNat }

def contains (i : Interval) (n : Nat) : Bool :=
  if i.closed then i.low ≤ n * i.den && n * i.den ≤ i.high
  else i.low < n * i.den && n * i.den < i.high

/-- How far an integer is from the value, in units of the denominator. -/
def distance (i : Interval) (n : Nat) : Nat :=
  (n * i.den - i.value) + (i.value - n * i.den)

/-- The integer in the interval nearest to the value, if there is one beside it. -/
def nearest? (i : Interval) : Option Nat :=
  let q := i.value / i.den
  match i.contains q, i.contains (q + 1) with
  | false, false => none
  | true, false => some q
  | false, true => some (q + 1)
  | true, true =>
    if i.distance q < i.distance (q + 1) then some q
    else if i.distance (q + 1) < i.distance q then some (q + 1)
    else some (q + q % 2)

/-- The exponent of the leading decimal digit of the value. -/
def leadingExponent (i : Interval) : Int :=
  let whole := i.value / i.den
  if 0 < whole then (Nat.toDigits 10 whole).length - 1
  else -(((List.range 324).find? fun k => i.den ≤ i.value * Nat.pow 10 (k + 1)).getD 323 + 1 : Nat)

end Interval

/-- The digits as one integer and the exponent of its last digit; 17 digits always suffice. -/
def shortest (x : Magnitude) : Nat × Int :=
  let i := Interval.ofMagnitude x
  let lead := i.leadingExponent
  let grid (n : Nat) : Option (Nat × Int) :=
    let e := lead - n
    ((i.dividePow10 e).nearest?).map fun digits => (digits, e)
  ((List.range 17).findSome? grid).getD (x.mantissa, 0)

def dropTrailingZeros (digits : List Char) : List Char :=
  (digits.reverse.dropWhile (· = '0')).reverse

def magnitudeText (x : Magnitude) : String :=
  if x.mantissa = 0 then "0.0"
  else
    let found := shortest x
    let all := Nat.toDigits 10 found.1
    let digits := dropTrailingZeros all
    let point : Int := all.length + found.2
    if digits.length ≤ point && point ≤ 16 then
      .ofList (digits ++ List.replicate (point.toNat - digits.length) '0' ++ ['.', '0'])
    else if 0 < point && point ≤ 16 then
      .ofList (digits.take point.toNat ++ '.' :: digits.drop point.toNat)
    else if -5 < point && point ≤ 0 then
      .ofList ('0' :: '.' :: List.replicate (-point).toNat '0' ++ digits)
    else
      let e := point - 1
      let sign := if e < 0 then "-" else "+"
      let fraction := if digits.length ≤ 1 then digits else digits.take 1 ++ '.' :: digits.drop 1
      .ofList fraction ++ s!"e{sign}{e.natAbs}"

def Binary64.text (x : Binary64) : String :=
  (if x.negative then "-" else "") ++ magnitudeText x.magnitude

end BlobFiles.Decimal
