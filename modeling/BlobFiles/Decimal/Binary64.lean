/-! # Binary floating point of 64 bits

`Magnitude` is a finite number without its sign: an integer below `2 ^ 53` times a power of two.
`ofQuotient` rounds a quotient of integers to the nearest such number, a tie to the even one, and
`ofDecimal` reads a decimal in two rounded steps: the digits first, then their power of ten. Numbers
too large for the format are refused; those too small become zero.
-/
namespace BlobFiles.Decimal

structure Magnitude where
  mantissa : Nat
  exponent : Int
  deriving DecidableEq, Repr

structure Binary64 where
  negative : Bool
  magnitude : Magnitude
  deriving DecidableEq, Repr

/-- The quotient rounded to the nearest integer, a tie to the even one. -/
def roundQuotient (num den : Nat) : Nat :=
  let q := num / den
  let r := num % den
  if 2 * r < den then q else if den < 2 * r then q + 1 else q + q % 2

/-- `num / (den * 2 ^ e)` as a numerator and a denominator. -/
def dividePow2 (num den : Nat) (e : Int) : Nat × Nat :=
  if 0 ≤ e then (num, den <<< e.toNat) else (num <<< (-e).toNat, den)

namespace Magnitude

def least : Int := -1074
def greatest : Int := 971

def zero : Magnitude := ⟨0, least⟩

def num (x : Magnitude) : Nat := x.mantissa <<< x.exponent.toNat

def den (x : Magnitude) : Nat := 1 <<< (-x.exponent).toNat

/-- The exponent at which a positive quotient has 53 binary digits, but none below the least. -/
def exponentOf (num den : Nat) : Int :=
  let e : Int := (num.log2 : Int) - den.log2 - 52
  let scaled := dividePow2 num den e
  max least (if scaled.1 < scaled.2 <<< 52 then e - 1 else e)

def ofQuotient (num den : Nat) : Option Magnitude :=
  if num = 0 then some zero
  else
    let e := exponentOf num den
    let scaled := dividePow2 num den e
    let m := roundQuotient scaled.1 scaled.2
    let x : Magnitude := if m = 1 <<< 53 then ⟨1 <<< 52, e + 1⟩ else ⟨m, e⟩
    if greatest < x.exponent then none else some x

def ofNat (n : Nat) : Option Magnitude := ofQuotient n 1

def mul (x y : Magnitude) : Option Magnitude := ofQuotient (x.num * y.num) (x.den * y.den)

def div (x y : Magnitude) : Option Magnitude := ofQuotient (x.num * y.den) (x.den * y.num)

/-- The largest power of ten below the largest finite number. -/
def maxPower : Nat := 308

def powerOfTen (k : Nat) : Option Magnitude := ofNat (Nat.pow 10 k)

/-- Division by `10 ^ k` in steps that the format can hold. -/
def shrink (x : Magnitude) (k : Nat) : Option Magnitude :=
  if k ≤ maxPower then (powerOfTen k).bind x.div
  else if x.mantissa = 0 then some x
  else ((powerOfTen maxPower).bind x.div).bind fun y => shrink y (k - maxPower)
termination_by k
decreasing_by
  have : 0 < maxPower := by decide
  omega

def ofDecimal (digits : Nat) (exponent : Int) : Option Magnitude := do
  let x ← ofNat digits
  if exponent < 0 then x.shrink (-exponent).toNat
  else if exponent.toNat ≤ maxPower then x.mul (← powerOfTen exponent.toNat)
  else if digits = 0 then some zero
  else none

end Magnitude

end BlobFiles.Decimal
