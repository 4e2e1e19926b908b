import DeviceSync.Number.Binary64
import DeviceSync.Number.Power
import DeviceSync.Text.Blank
import DeviceSync.Text.Decimal

/-!
# Reading Binary Numbers

Decimal text as the nearest binary number. The text may start or end with its point, may have an
exponent, and may be one of the words for what is not finite. What is too large becomes infinite.
-/

namespace DeviceSync.Binary64

open Text

/-- The nonnegative number nearest to `digits * 10 ^ exponent`. Exponents far outside the range of
the format are decided by the place of the leading digit. -/
def nearestDecimal (digits : Nat) (exponent : Int) : Option Magnitude :=
  let leading := ((Text.digits digits).length : Int) + exponent
  if digits = 0 ∨ leading < -330 then nearest? 0 1
  else if 330 < leading then none
  else if 0 ≤ exponent then nearest? (digits * tenTo exponent.toNat) 1
  else nearest? digits (tenTo (-exponent).toNat)

/-- A sign in front of a text, if there is one: whether it is a minus, and what follows. -/
def cutSign : List Char → Bool × List Char
  | '-' :: rest => (true, rest)
  | '+' :: rest => (false, rest)
  | cs => (false, cs)

/-- The exponent at the end of a text, which is zero if there is none. -/
def readExponent : List Char → Option Int
  | [] => some 0
  | c :: rest =>
    if c = 'e' ∨ c = 'E' then
      let (negative, ds) := cutSign rest
      (natural? ds).map fun n ↦ if negative then -(n : Int) else n
    else none

/-- A number without sign. -/
def readMagnitude (negative : Bool) (cs : List Char) : Option Binary64 :=
  let whole := cs.takeWhile isDigit
  let rest := cs.dropWhile isDigit
  let (fraction, rest) := match rest with
    | '.' :: rest => (rest.takeWhile isDigit, rest.dropWhile isDigit)
    | _ => ([], rest)
  match natural? (whole ++ fraction), readExponent rest with
  | some ds, some exponent =>
    some (match nearestDecimal ds (exponent - fraction.length) with
      | some x => ofMagnitude negative x
      | none => .infinite negative)
  | _, _ => none

/-- The number that a text writes. -/
def ofText? (s : String) : Option Binary64 :=
  let (negative, cs) := cutSign s.toList
  match asciiLower (String.ofList cs) with
  | "inf" => some (.infinite negative)
  | "infinity" => some (.infinite negative)
  | "nan" => some .nan
  | _ => readMagnitude negative cs

end DeviceSync.Binary64
