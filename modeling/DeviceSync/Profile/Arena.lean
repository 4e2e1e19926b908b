import DeviceSync.Profile.Report
import DeviceSync.Table

/-!
# Arenas

One user's profile. Every field has a version that counts its writes and remembers the diff that
wrote it last, its head. A diff made from the present version is applied; one made from an older
version contends with the head; one made from a version that does not exist yet is refused, as is
one for a field that the profile does not have.

Changes of the profile are numbered across all fields. A device's sync point is the number of the
last change it has seen, so that the next sync can leave out everything before it. A conflict that
another device's diff loses is held for that device until it syncs.
-/

namespace DeviceSync.Profile

/-- How the head came to hold its field: from the version before it, or by winning a conflict. -/
inductive Standing where
  | clean
  | contested
deriving DecidableEq

/-- One field of a profile. -/
structure Slot where
  value : Json
  version : Nat
  head : Option Diff
  standing : Standing
  /-- The number of the change that wrote the field last. -/
  changed : Nat

namespace Slot

/-- A field that was never written. -/
def blank : Slot := ⟨.null, 0, none, .clean, 0⟩

def install (s : Slot) (d : Diff) (standing : Standing) (change : Nat) : Slot :=
  ⟨d.value, s.version + 1, some d, standing, change⟩

def view (s : Slot) (field : String) : FieldView :=
  ⟨field, s.value, s.version, s.head.map (·.device), s.head.map (·.time)⟩

end Slot

structure SyncPoint where
  change : Nat
  time : Instant
deriving DecidableEq

structure Arena where
  slots : Table Slot
  /-- How many changes there have been. -/
  changes : Nat
  points : Table SyncPoint
  pending : Table (List Conflict)

/-- What becomes of one diff. -/
inductive Disposition where
  | rejected (e : DiffError)
  | applied (version : Nat)
  | settled (c : Conflict)

namespace Arena

/-- The profile with the given fields before anything is written. -/
def blank (fields : List String) : Arena :=
  ⟨Table.ofKeys fields .blank, 0, .empty, .empty⟩

/-- Write a field; the change gets the next number. -/
def write (a : Arena) (s : Slot) (d : Diff) (standing : Standing) : Arena :=
  { a with
    slots := a.slots.insert d.field (s.install d standing (a.changes + 1))
    changes := a.changes + 1 }

/-- Keep a conflict for the device whose diff lost it, unless that device is told at once. -/
def hold (a : Arena) (caller : String) (c : Conflict) : Arena :=
  if c.loser.device = caller then a
  else
    let held := (a.pending.find? c.loser.device).getD []
    { a with pending := a.pending.insert c.loser.device (held ++ [c]) }

/-- Settle a late diff against the head of its field. -/
def contend (policy : Policy) (a : Arena) (s : Slot) (head d : Diff) : Arena × Disposition :=
  let verdict := policy.resolve head d
  match verdict.winner with
  | .challenger =>
    let c : Conflict := ⟨d.field, d, head, policy, verdict.rule⟩
    ((a.write s d .contested).hold d.device c, .settled c)
  | .incumbent =>
    let c : Conflict := ⟨head.field, head, d, policy, verdict.rule⟩
    (a.hold d.device c, .settled c)

/-- Merge one diff into the profile. -/
def merge (policy : Policy) (a : Arena) (d : Diff) : Arena × Disposition :=
  match a.slots.find? d.field with
  | none => (a, .rejected (.unknownField d.field))
  | some s =>
    if s.version < d.base then (a, .rejected (.futureBase d.field d.base s.version))
    else if d.base = s.version then (a.write s d .clean, .applied (s.version + 1))
    else
      match s.head with
      | some head => a.contend policy s head d
      | none => (a.write s d .clean, .applied (s.version + 1))

/-- Merge the diffs of a batch in order. -/
def mergeAll (policy : Policy) (a : Arena) : List Diff → Arena × List Disposition
  | [] => (a, [])
  | d :: batch =>
    let (a, fate) := a.merge policy d
    let (a, fates) := mergeAll policy a batch
    (a, fate :: fates)

/-! ## Reports -/

/-- The state of a field, for a device that has seen the changes up to `seen`. Nothing is said
about what it has seen, and nothing about its own writes that were applied without conflict. -/
def update? (device : String) (seen : Nat) (field : String) (s : Slot) : Option Update :=
  match s.head with
  | none => none
  | some head =>
    if s.changed ≤ seen ∨ (s.standing = .clean ∧ head.device = device) then none
    else some ⟨field, s.version, s.value, head.device, head.time⟩

/-- The fields that a device has not seen in their present state, in the order of their names. -/
def updates (a : Arena) (device : String) (seen : Nat) : List Update :=
  a.slots.entries.filterMap fun (field, s) ↦ update? device seen field s

/-- The last change that a device has seen. -/
def seenBy (a : Arena) (device : String) : Nat :=
  ((a.points.find? device).map (·.change)).getD 0

/-- The conflicts that are held for a device. -/
def heldFor (a : Arena) (device : String) : List Conflict :=
  (a.pending.find? device).getD []

end Arena

namespace Disposition

/-- The report of an applied diff. -/
def applied? : Diff × Disposition → Option Applied
  | (d, .applied version) => some ⟨d.field, version⟩
  | _ => none

/-- The report of a settled diff. -/
def settled? : Disposition → Option Conflict
  | .settled c => some c
  | _ => none

/-- The report of a refused diff at a place in its batch. -/
def rejected? : (Diff × Disposition) × Nat → Option Rejection
  | ((d, .rejected e), index) => some (.ofError index d.field e)
  | _ => none

end Disposition

namespace Arena

/-- Sync a device: merge its batch in the given order, each diff stamped with the device, then
report what it has not seen and hand over what was held for it. -/
def sync (policy : Policy) (a : Arena) (device : String) (batch : List Diff) (now : Instant) :
    Arena × Outcome :=
  let seen := a.seenBy device
  let batch := batch.map fun d ↦ { d with device := device }
  let (merged, fates) := a.mergeAll policy batch
  let fated := batch.zip fates
  let settled := fates.filterMap Disposition.settled?
  let syncPoint := max seen merged.changes
  ({ merged with
      points := merged.points.insert device ⟨syncPoint, now⟩
      pending := merged.pending.erase device },
    { applied := fated.filterMap Disposition.applied?
      conflicts := settled ++ merged.heldFor device
      resolved := settled.length
      rejected := fated.zipIdx.filterMap Disposition.rejected?
      updates := merged.updates device seen
      syncPoint
      time := now })

/-- How many fields have been written. -/
def written (a : Arena) : Nat :=
  a.slots.values.countP fun s ↦ 0 < s.version

end Arena

end DeviceSync.Profile
