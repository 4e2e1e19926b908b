import DeviceSync.Json.Value
import DeviceSync.Text.Blank
import DeviceSync.Time.Instant

/-!
# Diffs and the Policies that Rank Them

A diff proposes a new value for one field of a profile and names the version of the field that it
was made from. When a diff arrives after that version has been superseded, it contends with the
diff that holds the field, and a policy names the winner and the reason. The verdict depends on
the two diffs alone.

Device names are compared by their UTF-8 octets, which is the order of their code points.
-/

namespace DeviceSync.Profile

/-- A proposed change of one field. The value is not looked into. -/
structure Diff where
  field : String
  /-- The version of the field that the device had when it made the change. -/
  base : Nat
  value : Json
  device : String
  /-- When the device says it made the change. -/
  time : Instant

inductive Policy where
  | lastWriterWins
  | appliedWins
deriving DecidableEq

/-- The comparison that decided between two diffs. -/
inductive Rule where
  | newerBase
  | laterTimestamp
  | deviceOrder
  /-- The incumbent stays because it was there first. -/
  | alreadyApplied
deriving DecidableEq

/-- The diff that holds the field, and the one that arrives late. -/
inductive Side where
  | incumbent
  | challenger
deriving DecidableEq

structure Verdict where
  winner : Side
  rule : Rule
deriving DecidableEq

namespace Policy

/-- The newer base wins, then the later time, then the smaller device name; between equals the
incumbent stays. -/
def rank (incumbent challenger : Diff) : Verdict :=
  if incumbent.base < challenger.base then ⟨.challenger, .newerBase⟩
  else if challenger.base < incumbent.base then ⟨.incumbent, .newerBase⟩
  else if incumbent.time < challenger.time then ⟨.challenger, .laterTimestamp⟩
  else if challenger.time < incumbent.time then ⟨.incumbent, .laterTimestamp⟩
  else if challenger.device < incumbent.device then ⟨.challenger, .deviceOrder⟩
  else if incumbent.device < challenger.device then ⟨.incumbent, .deviceOrder⟩
  else ⟨.incumbent, .alreadyApplied⟩

/-- Which of two diffs keeps the field, and why. -/
def resolve : Policy → Diff → Diff → Verdict
  | lastWriterWins, incumbent, challenger => rank incumbent challenger
  | appliedWins, _, _ => ⟨.incumbent, .alreadyApplied⟩

/-! ## Names -/

def name : Policy → String
  | lastWriterWins => "last_writer_wins"
  | appliedWins => "applied_wins"

def ofName? : String → Option Policy
  | "last_writer_wins" => some lastWriterWins
  | "applied_wins" => some appliedWins
  | _ => none

/-- What an operator may write: a name or its abbreviation, in any case and between blanks. A text
that is neither is given back as it was compared. -/
def ofText (s : String) : Except String Policy :=
  match Text.asciiLower (Text.trimmed s) with
  | "last_writer_wins" => .ok lastWriterWins
  | "lww" => .ok lastWriterWins
  | "applied_wins" => .ok appliedWins
  | other => .error other

/-- What is said about a text that names no policy. -/
def unknownMessage (other : String) : String :=
  s!"unknown conflict policy '{other}'"

end Policy

namespace Rule

def name : Rule → String
  | newerBase => "newer_base"
  | laterTimestamp => "later_timestamp"
  | deviceOrder => "device_order"
  | alreadyApplied => "already_applied"

def ofName? : String → Option Rule
  | "newer_base" => some newerBase
  | "later_timestamp" => some laterTimestamp
  | "device_order" => some deviceOrder
  | "already_applied" => some alreadyApplied
  | _ => none

end Rule

end DeviceSync.Profile
