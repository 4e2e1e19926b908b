import DeviceSync.Time.Calendar

/-!
# Instants

Points in time in UTC, to the nanosecond. A leap second is the last second of its minute with a
nanosecond count of a thousand million and more: it comes after everything else in that minute and
before the next one, and has no second number of its own.

The type holds exactly the instants of the years -262143 to 262142.
-/

namespace DeviceSync

namespace Instant

/-- The second at which the first day of the year -262143 begins. -/
def firstSecond : Int := -8334601228800

/-- The last second of the year 262142. -/
def lastSecond : Int := 8210266876799

/-- Which pairs of a second and a nanosecond count are instants. -/
def Valid (seconds : Int) (nanos : Nat) : Prop :=
  firstSecond ≤ seconds ∧ seconds ≤ lastSecond ∧ nanos < 2000000000 ∧
    (1000000000 ≤ nanos → seconds % 60 = 59)

instance (seconds : Int) (nanos : Nat) : Decidable (Valid seconds nanos) :=
  inferInstanceAs (Decidable (_ ∧ _))

end Instant

/-- Whole seconds since the start of 1970, rounded down, and the nanoseconds on top. -/
structure Instant where
  seconds : Int
  nanos : Nat
  valid : Instant.Valid seconds nanos
deriving DecidableEq

namespace Instant

/-- The start of 1970. -/
def epoch : Instant := ⟨0, 0, by decide⟩

/-- The instant with the given parts, if there is one. -/
def ofParts? (seconds : Int) (nanos : Nat) : Option Instant :=
  if h : Valid seconds nanos then some ⟨seconds, nanos, h⟩ else none

/-- Instants are ordered by second and then by nanosecond. -/
instance : LT Instant where
  lt s t := s.seconds < t.seconds ∨ (s.seconds = t.seconds ∧ s.nanos < t.nanos)

instance (s t : Instant) : Decidable (s < t) :=
  inferInstanceAs (Decidable (_ ∨ _))

/-! ## Shifting -/

/-- The second and nanosecond count that lie `ns` nanoseconds away. A shift that leaves a leap
second starts from the ordinary second under it when it goes forward and from the second after it
when it goes back; one that stays inside only moves the nanoseconds. -/
def shifted (t : Instant) (ns : Int) : Int × Nat :=
  let whole := ns.tdiv 1000000000
  let part := ns.tmod 1000000000
  let nanos := (t.nanos : Int)
  let settle (seconds nanos : Int) : Int × Nat :=
    (seconds + whole + (nanos + part) / 1000000000, ((nanos + part) % 1000000000).toNat)
  if t.nanos < 1000000000 then settle t.seconds nanos
  else if 0 < whole ∨ (0 < part ∧ 2000000000 ≤ nanos + part) then
    settle t.seconds (nanos - 1000000000)
  else if whole < 0 then settle (t.seconds + 1) (nanos - 1000000000)
  else (t.seconds, (nanos + part).toNat)

/-- The instant `ns` nanoseconds later, if the years reach that far. -/
def addNanos? (t : Instant) (ns : Int) : Option Instant :=
  let (seconds, nanos) := t.shifted ns
  ofParts? seconds nanos

end Instant

end DeviceSync
