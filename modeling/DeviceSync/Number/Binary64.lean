import DeviceSync.Number.Power

/-!
# Binary Floating Point

Numbers of the 64-bit binary format, held as a significand and a power of two, with rounding to the
nearest of them (a half goes to the even neighbour) computed exactly on fractions of natural
numbers. Products and quotients are the exact ones, rounded once.
-/

namespace DeviceSync

/-- A finite number is plus or minus `significand * 2 ^ exponent`. -/
inductive Binary64 where
  | finite (negative : Bool) (significand : Nat) (exponent : Int)
  | infinite (negative : Bool)
  | nan
deriving DecidableEq

namespace Binary64

/-- Nonnegative finite numbers, on which rounding works: a significand below `2 ^ 53` and an
exponent of at least -1074. -/
structure Magnitude where
  significand : Nat
  exponent : Int
deriving DecidableEq

/-- The natural number nearest to a fraction; a half goes to the even neighbour. -/
def roundDiv (num den : Nat) : Nat :=
  let below := num / den
  let twice := 2 * (num % den)
  if twice < den ∨ (twice = den ∧ below % 2 = 0) then below else below + 1

/-- The fraction `num / den / 2 ^ exponent`, as numerator and denominator. -/
def scaled (num den : Nat) (exponent : Int) : Nat × Nat :=
  if 0 ≤ exponent then (num, den * twoTo exponent.toNat) else (num * twoTo (-exponent).toNat, den)

/-- The exponent with which the fraction has 53 bits before the point, or the least exponent. -/
def exponentFor (num den : Nat) : Int :=
  let guess : Int := (num.log2 : Int) - den.log2 - 52
  let (n, d) := scaled num den guess
  max (-1074) (if n / d < twoTo 52 then guess - 1 else guess)

/-- The number nearest to a fraction, unless it is beyond the greatest finite one. -/
def nearest? (num den : Nat) : Option Magnitude :=
  if num = 0 then some ⟨0, -1074⟩
  else
    let exponent := exponentFor num den
    let (n, d) := scaled num den exponent
    let significand := roundDiv n d
    let (significand, exponent) :=
      if significand < twoTo 53 then (significand, exponent) else (twoTo 52, exponent + 1)
    if exponent ≤ 971 then some ⟨significand, exponent⟩ else none

/-- The number nearest to `num / den * 2 ^ exponent`. -/
def nearestScaled? (num den : Nat) (exponent : Int) : Option Magnitude :=
  if 0 ≤ exponent then nearest? (num * twoTo exponent.toNat) den
  else nearest? num (den * twoTo (-exponent).toNat)

def Magnitude.mul? (x y : Magnitude) : Option Magnitude :=
  nearestScaled? (x.significand * y.significand) 1 (x.exponent + y.exponent)

def Magnitude.div? (x y : Magnitude) : Option Magnitude :=
  nearestScaled? x.significand y.significand (x.exponent - y.exponent)

def ofMagnitude (negative : Bool) (x : Magnitude) : Binary64 :=
  .finite negative x.significand x.exponent

/-- The integer nearest to a number, where a half goes away from zero, without its sign. -/
def Magnitude.rounded (x : Magnitude) : Nat :=
  if 0 ≤ x.exponent then x.significand * twoTo x.exponent.toNat
  else (2 * x.significand + twoTo (-x.exponent).toNat) / twoTo (1 - x.exponent).toNat

end Binary64

end DeviceSync
