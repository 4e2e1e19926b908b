import DeviceSync.Number.Binary64
import DeviceSync.Number.Power
import DeviceSync.Text.Decimal

/-!
# Shortest Decimals

The decimal with the fewest digits that reads back as a given binary number, and of several such
the one nearest to it, with the two layouts in which it is written: one that turns to an exponent
for very large and very small numbers, and one that never does.
-/

namespace DeviceSync

open Text

/-- The number `digits * 10 ^ exponent`. -/
structure Decimal where
  digits : Nat
  exponent : Int
deriving DecidableEq

namespace Binary64.Magnitude

/-- Twice the significand and its distances to the ends of the interval of reals that round to the
number, all in units of `2 ^ (exponent - 2)`: the value, the lower and the upper end. -/
def interval (x : Magnitude) : Nat × Nat × Nat :=
  let below := if x.significand = twoTo 52 ∧ -1074 < x.exponent then 1 else 2
  (4 * x.significand, 4 * x.significand - below, 4 * x.significand + 2)

/-- Compare `n * 10 ^ k` with `m * 2 ^ e`. -/
def compareScaled (n : Nat) (k : Int) (m : Nat) (e : Int) : Ordering :=
  compare (n * tenTo k.toNat * twoTo (-e).toNat) (m * twoTo e.toNat * tenTo (-k).toNat)

/-- Whether `n * 10 ^ k` rounds to the number. -/
def covers (x : Magnitude) (n : Nat) (k : Int) : Bool :=
  let (_, low, high) := x.interval
  let e := x.exponent - 2
  let even := x.significand % 2 = 0
  match compareScaled n k low e, compareScaled n k high e with
  | .gt, .lt => true
  | .eq, _ => even
  | _, .eq => even
  | _, _ => false

/-- The greatest multiple of `10 ^ k` that is not above the number, divided by `10 ^ k`. -/
def floorAt (x : Magnitude) (k : Int) : Nat :=
  x.significand * twoTo x.exponent.toNat * tenTo (-k).toNat /
    (tenTo k.toNat * twoTo (-x.exponent).toNat)

/-- Whether `n * 10 ^ k` is not farther from the number than `(n + 1) * 10 ^ k`. -/
def lowerIsNearer (x : Magnitude) (n : Nat) (k : Int) : Bool :=
  compareScaled (2 * n + 1) k (2 * x.significand) x.exponent ≠ .lt

/-- The decimal on the grid of multiples of `10 ^ k` that reads back as the number, if one of the
number's two neighbours there does. -/
def onGrid? (x : Magnitude) (k : Int) : Option Decimal :=
  let n := x.floorAt k
  match x.covers n k, x.covers (n + 1) k with
  | true, true => some ⟨if x.lowerIsNearer n k then n else n + 1, k⟩
  | true, false => some ⟨n, k⟩
  | false, true => some ⟨n + 1, k⟩
  | false, false => none

/-- The power of ten of the leading digit. -/
def leading (x : Magnitude) : Int :=
  let (n, d) := (x.significand * twoTo x.exponent.toNat, twoTo (-x.exponent).toNat)
  if d ≤ n then (digits (n / d)).length - 1 else -((digits (d / n)).length : Int)

/-- Drop the zeros at the end of a decimal's digits. -/
def dropZeros : Nat → Decimal → Decimal
  | 0, d => d
  | fuel + 1, d =>
    if d.digits ≠ 0 ∧ d.digits % 10 = 0 then dropZeros fuel ⟨d.digits / 10, d.exponent + 1⟩ else d

/-- The shortest decimal that reads back as the number. Seventeen digits always suffice, so the
last grid is only reached by zero. -/
def shortest (x : Magnitude) : Decimal :=
  if x.significand = 0 then ⟨0, 0⟩
  else
    let grids := (List.range 18).map fun count : Nat ↦ x.leading + 1 - count
    dropZeros 20 ((grids.findSome? x.onGrid?).getD ⟨0, 0⟩)

end Binary64.Magnitude

namespace Decimal

/-- The digits and how many of them stand before the point. -/
def layout (d : Decimal) : List Char × Int :=
  let ds := Text.digits d.digits
  (ds, ds.length + d.exponent)

/-- Digits with the point after the first `point` of them, filled up with zeros on either side. -/
def positional (ds : List Char) (point : Int) : List Char :=
  if point ≤ 0 then '0' :: '.' :: List.replicate (-point).toNat '0' ++ ds
  else if ds.length ≤ point then ds ++ List.replicate (point.toNat - ds.length) '0'
  else ds.take point.toNat ++ '.' :: ds.drop point.toNat

/-- Positional without any exponent; an integer has no point. -/
def plain (d : Decimal) : List Char :=
  let (ds, point) := d.layout
  if d.digits = 0 then ['0'] else positional ds point

/-- Positional with a point if the leading digit stands for `10 ^ -5` to `10 ^ 15`, else one digit
before the point and an exponent. -/
def scientific (d : Decimal) : List Char :=
  let (ds, point) := d.layout
  if d.digits = 0 then ['0', '.', '0']
  else if -5 < point ∧ point ≤ 16 then
    positional ds point ++ if ds.length ≤ point then ['.', '0'] else []
  else
    let fraction := ds.drop 1
    ds.take 1 ++ (if fraction = [] then [] else '.' :: fraction) ++
      'e' :: integerDigits (point - 1)

end Decimal

namespace Binary64

def signText (negative : Bool) : List Char :=
  if negative then ['-'] else []

/-- A number with its point or exponent, so that it reads back as a number of this kind. -/
def scientific : Binary64 → List Char
  | finite negative m e => signText negative ++ (Magnitude.shortest ⟨m, e⟩).scientific
  | infinite negative => signText negative ++ "inf".toList
  | nan => "NaN".toList

/-- A number without any exponent. -/
def plain : Binary64 → List Char
  | finite negative m e => signText negative ++ (Magnitude.shortest ⟨m, e⟩).plain
  | infinite negative => signText negative ++ "inf".toList
  | nan => "NaN".toList

end Binary64

end DeviceSync
