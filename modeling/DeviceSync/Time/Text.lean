import DeviceSync.Number.Power
import DeviceSync.Text.Blank
import DeviceSync.Text.Decimal
import DeviceSync.Time.Instant

/-!
# Timestamps

Instants as text. Writing is in UTC, with as many decimals of the second as are needed of none,
three, six or nine. Reading is wider: it allows blanks around the numbers, numbers without leading
zeros, a blank in place of the `T`, and any offset of less than a day; what it reads is turned into
UTC.
-/

namespace DeviceSync.Timestamp

open Text

/-! ## Writing -/

/-- A year has four digits and, outside 0 to 9999, a sign. -/
def yearText (year : Int) : List Char :=
  if 0 ≤ year ∧ year ≤ 9999 then padded 4 year.toNat
  else
    let size := year.natAbs
    (if year < 0 then '-' else '+') :: (if size ≤ 9999 then padded 4 size else digits size)

/-- The decimals of a second: none if it is full, else three, six or nine. -/
def fractionText (nanos : Nat) : List Char :=
  if nanos = 0 then []
  else if nanos % 1000000 = 0 then '.' :: padded 3 (nanos / 1000000)
  else if nanos % 1000 = 0 then '.' :: padded 6 (nanos / 1000)
  else '.' :: padded 9 nanos

def dateText (d : Date) : List Char :=
  yearText d.year ++ '-' :: padded 2 d.month ++ '-' :: padded 2 d.day

/-- The time of day, where the second that a leap second hides behind is written as 60. -/
def clockText (secondOfDay nanos : Nat) : List Char :=
  let leap := if nanos < 1000000000 then 0 else 1
  padded 2 (secondOfDay / 3600) ++ ':' :: padded 2 (secondOfDay / 60 % 60) ++
    ':' :: padded 2 (secondOfDay % 60 + leap) ++ fractionText (nanos - 1000000000 * leap)

/-- The written form of an instant. -/
def write (t : Instant) : List Char :=
  dateText (Date.ofNumber (t.seconds / 86400)) ++
    'T' :: clockText (t.seconds % 86400).toNat t.nanos ++ ['Z']

def text (t : Instant) : String :=
  String.ofList (write t)

/-! ## Reading -/

/-- Up to `limit` digits at the front. -/
def spanDigits : Nat → List Char → List Char × List Char
  | limit + 1, c :: rest =>
    if isDigit c then
      let (ds, rest) := spanDigits limit rest
      (c :: ds, rest)
    else ([], c :: rest)
  | _, cs => ([], cs)

/-- A number of at least one and at most `limit` digits, after blanks. -/
def readNumber (limit : Nat) (cs : List Char) : Option (Nat × List Char) :=
  let (ds, rest) := spanDigits limit (trimFront cs)
  (natural? ds).map fun n ↦ (n, rest)

/-- A year: up to four digits, or a sign and any number of them. -/
def readYear (cs : List Char) : Option (Int × List Char) :=
  match trimFront cs with
  | '-' :: rest => signed (-1) rest
  | '+' :: rest => signed 1 rest
  | rest => (readNumber 4 rest).map fun (n, rest) ↦ ((n : Int), rest)
where
  signed (sign : Int) (cs : List Char) : Option (Int × List Char) :=
    let (ds, rest) := spanDigits cs.length cs
    (natural? ds).map fun n ↦ (sign * n, rest)

/-- One given character, after blanks. -/
def readMark (mark : Char) (cs : List Char) : Option (List Char) :=
  match trimFront cs with
  | c :: rest => if c = mark then some rest else none
  | [] => none

def readDate (cs : List Char) : Option (Date × List Char) := do
  let (year, cs) ← readYear cs
  let cs ← readMark '-' cs
  let (month, cs) ← readNumber 2 cs
  let cs ← readMark '-' cs
  let (day, cs) ← readNumber 2 cs
  return (⟨year, month, day⟩, cs)

/-- The nanoseconds of a fraction; digits beyond the ninth are dropped. -/
def readFraction : List Char → Option (Nat × List Char)
  | '.' :: rest =>
    let (ds, rest) := spanDigits rest.length rest
    let nine := ds.take 9
    (natural? nine).map fun n ↦ (n * tenTo (9 - nine.length), rest)
  | cs => some (0, cs)

/-- The second of the day and the nanoseconds; second 60 is the leap second behind second 59. -/
def readClock (cs : List Char) : Option (Nat × Nat × List Char) := do
  let (hour, cs) ← readNumber 2 cs
  let cs ← readMark ':' cs
  let (minute, cs) ← readNumber 2 cs
  let cs ← readMark ':' cs
  let (second, cs) ← readNumber 2 cs
  let (nanos, cs) ← readFraction cs
  if hour < 24 ∧ minute < 60 ∧ second ≤ 60 then
    let leap := if second = 60 then 1 else 0
    some (3600 * hour + 60 * minute + second - leap, nanos + 1000000000 * leap, cs)
  else none

/-- Two digits at the very front. -/
def readPair : List Char → Option (Nat × List Char)
  | c :: d :: rest => do
    let tens ← digitValue? c
    let ones ← digitValue? d
    return (10 * tens + ones, rest)
  | _ => none

/-- The minutes that local time is ahead of UTC. -/
def readZone (cs : List Char) : Option (Int × List Char) :=
  match trimFront cs with
  | '+' :: rest => offset 1 rest
  | '-' :: rest => offset (-1) rest
  | '\u2212' :: rest => offset (-1) rest
  | 'Z' :: rest => some (0, rest)
  | 'z' :: rest => some (0, rest)
  | u :: t :: c :: rest =>
    if [u, t, c].map Char.toLower = ['u', 't', 'c'] then some (0, rest) else none
  | _ => none
where
  offset (sign : Int) (cs : List Char) : Option (Int × List Char) := do
    let (hours, cs) ← readPair cs
    let (minutes, cs) ← readPair (cs.dropWhile fun c ↦ c = ':' || isBlank c)
    if minutes < 60 ∧ hours < 24 then some (sign * (60 * hours + minutes : Nat), cs) else none

/-- The instant that a text names. -/
def read? (cs : List Char) : Option Instant := do
  let (date, cs) ← readDate cs
  let cs ← match cs with
    | 'T' :: rest => some rest
    | 't' :: rest => some rest
    | ' ' :: rest => some rest
    | _ => none
  let (secondOfDay, nanos, cs) ← readClock cs
  let (ahead, cs) ← readZone cs
  let civil := 86400 * date.number + secondOfDay
  if date.Exists ∧ trimFront cs = [] ∧ Instant.Valid civil nanos then
    Instant.ofParts? (civil - 60 * ahead) nanos
  else none

def ofText? (s : String) : Option Instant :=
  read? s.toList

end DeviceSync.Timestamp
