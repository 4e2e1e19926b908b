import DeviceSync.Profile.Arena

/-!
# The Engine

The profiles of all users. They have the same fields and the same policy, and each begins blank
when its user first syncs.
-/

namespace DeviceSync.Profile

structure Engine where
  fields : Table Unit
  policy : Policy
  arenas : Table Arena

namespace Engine

def new (fields : List String) (policy : Policy) : Engine :=
  ⟨Table.ofKeys fields (), policy, .empty⟩

/-- The fields of a profile, in order and each once. -/
def knownFields (e : Engine) : List String :=
  e.fields.keys

/-- A user's profile, blank if the user never synced. -/
def arena (e : Engine) (user : String) : Arena :=
  (e.arenas.find? user).getD (.blank e.knownFields)

def sync (e : Engine) (user device : String) (batch : List Diff) (now : Instant) :
    Engine × Outcome :=
  let (a, outcome) := (e.arena user).sync e.policy device batch now
  ({ e with arenas := e.arenas.insert user a }, outcome)

/-- The present state of a field, if profiles have it. -/
def field? (e : Engine) (user field : String) : Option FieldView :=
  ((e.arena user).slots.find? field).map (·.view field)

/-- When a device of a user synced last. -/
def lastSync? (e : Engine) (user device : String) : Option Instant :=
  ((e.arena user).points.find? device).map (·.time)

/-- How many fields of a user's profile have been written. -/
def written (e : Engine) (user : String) : Nat :=
  (e.arena user).written

end Engine

end DeviceSync.Profile
