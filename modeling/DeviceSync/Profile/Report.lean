import DeviceSync.Profile.Policy

/-!
# Reports

What a device is told when it syncs: which of its diffs were applied, which met a conflict and how
that was settled, which were refused, and which fields it has not seen in their present state.
-/

namespace DeviceSync.Profile

/-- A diff that was applied without conflict, and the version it made. -/
structure Applied where
  field : String
  version : Nat
deriving DecidableEq

/-- A conflict between a late diff and the one that held the field, and how it was settled. -/
structure Conflict where
  field : String
  winner : Diff
  loser : Diff
  policy : Policy
  rule : Rule

/-- The present state of a field that a device has not seen. -/
structure Update where
  field : String
  version : Nat
  value : Json
  writer : String
  time : Instant

/-- Why a diff is refused. -/
inductive DiffError where
  | unknownField (field : String)
  | futureBase (field : String) (declared current : Nat)
deriving DecidableEq

namespace DiffError

def code : DiffError → String
  | unknownField _ => "unknown_field"
  | futureBase _ _ _ => "future_base_version"

def message : DiffError → String
  | unknownField field => s!"unknown profile field '{field}'"
  | futureBase field declared current =>
    s!"field '{field}' is at version {current}, diff declares base {declared}"

end DiffError

/-- A refused diff, by its place in the batch. The rest of the batch goes on without it. -/
structure Rejection where
  index : Nat
  field : String
  code : String
  message : String
deriving DecidableEq

def Rejection.ofError (index : Nat) (field : String) (e : DiffError) : Rejection :=
  ⟨index, field, e.code, e.message⟩

/-- What became of one batch. Of the conflicts the first `resolved` were settled by the batch
itself; the others were settled earlier against this device and held until now. -/
structure Outcome where
  applied : List Applied
  conflicts : List Conflict
  resolved : Nat
  rejected : List Rejection
  updates : List Update
  /-- How many changes of the profile the device has now seen. -/
  syncPoint : Nat
  time : Instant

/-- A field as anyone may look at it. -/
structure FieldView where
  field : String
  value : Json
  version : Nat
  writer : Option String
  time : Option Instant

end DeviceSync.Profile
