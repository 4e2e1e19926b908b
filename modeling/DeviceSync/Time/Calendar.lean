/-!
# The Calendar

Days of the proleptic Gregorian calendar, with a year zero and negative years before it, and their
numbers counted from the first of January 1970. The way back from a number takes out the cycles of
400, 100, 4 and 1 years in turn and then the months of the year that remains.
-/

namespace DeviceSync

/-- A year, a month from 1 to 12 and a day of the month from 1. -/
structure Date where
  year : Int
  month : Nat
  day : Nat
deriving DecidableEq

namespace Date

/-- Every fourth year has 366 days, but of the full centuries only every fourth. -/
def isLeap (year : Int) : Bool :=
  year % 4 = 0 && (year % 100 ≠ 0 || year % 400 = 0)

/-- The lengths of the months from January on. -/
def monthLengths (leap : Bool) : List Nat :=
  [31, if leap then 29 else 28, 31, 30, 31, 30, 31, 31, 30, 31, 30, 31]

/-- The length of a month, zero if there is no such month. -/
def monthLength (leap : Bool) : Nat → Nat
  | 0 => 0
  | m + 1 => (monthLengths leap).getD m 0

/-- Whether the calendar has this day. -/
def Exists (d : Date) : Prop :=
  1 ≤ d.day ∧ d.day ≤ monthLength (isLeap d.year) d.month

instance (d : Date) : Decidable d.Exists :=
  inferInstanceAs (Decidable (_ ∧ _))

/-- How many days lie between the first of January of year 1 and that of the given year. -/
def daysBeforeYear (year : Int) : Int :=
  365 * (year - 1) + (year - 1) / 4 - (year - 1) / 100 + (year - 1) / 400

/-- The number of the first of January 1970 when days are counted from that of year 1. -/
def epochDay : Int := 719162

/-- How many days of a year lie before one of its months. -/
def daysBeforeMonth (leap : Bool) (month : Nat) : Nat :=
  ((monthLengths leap).take (month - 1)).foldl (fun days length ↦ days + length) 0

/-- How many days after the first of January 1970 a day is. -/
def number (d : Date) : Int :=
  daysBeforeYear d.year + daysBeforeMonth (isLeap d.year) d.month + (d.day - 1) -
    epochDay

/-- The month and the day in it, for a day that comes `rest` days after the start of `month`, the
first of the months whose lengths are given. -/
def inMonths : List Nat → Nat → Nat → Nat × Nat
  | [], month, rest => (month, rest + 1)
  | length :: lengths, month, rest =>
    if rest < length then (month, rest + 1) else inMonths lengths (month + 1) (rest - length)

/-- The day with a given number. -/
def ofNumber (n : Int) : Date :=
  let fromYearOne := n + epochDay
  let quads := fromYearOne / 146097
  let inQuad := (fromYearOne % 146097).toNat
  let centuries := min (inQuad / 36524) 3
  let inCentury := inQuad - 36524 * centuries
  let fours := inCentury / 1461
  let inFour := inCentury % 1461
  let ones := min (inFour / 365) 3
  let year := 400 * quads + (100 * centuries + 4 * fours + ones : Nat) + 1
  let (month, day) := inMonths (monthLengths (isLeap year)) 1 (inFour - 365 * ones)
  ⟨year, month, day⟩

end Date

end DeviceSync
