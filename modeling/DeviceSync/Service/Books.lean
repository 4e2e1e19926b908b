import DeviceSync.Text.Decimal

/-!
# Books

What the service counts, and the text in which monitoring reads it: for every family of numbers a
line with its meaning, a line with its kind, and its value. The families are in the order of their
names.

How long the sync of a profile takes is not measured here; its family only counts the syncs.
-/

namespace DeviceSync

structure Books where
  authRequests : Nat
  authFailures : Nat
  refreshes : Nat
  uploads : Nat
  uploadRejections : Nat
  downloads : Nat
  uploadedBytes : Nat
  profileSyncs : Nat
  applied : Nat
  conflicts : Nat
  rejections : Nat
  /-- Uploads, downloads and profile syncs that succeeded. -/
  operations : Nat
  /-- Calls that failed after their credential was accepted. -/
  failures : Nat
  /-- The number of devices when it was last looked at. -/
  devices : Nat
  /-- The number of bytes in the store when it was last looked at. -/
  storedBytes : Nat
deriving DecidableEq

namespace Books

def empty : Books :=
  ⟨0, 0, 0, 0, 0, 0, 0, 0, 0, 0, 0, 0, 0, 0, 0⟩

/-! ## Exposition -/

inductive FamilyKind where
  | counter
  | gauge
  | histogram
deriving DecidableEq

namespace FamilyKind

def name : FamilyKind → String
  | counter => "counter"
  | gauge => "gauge"
  | histogram => "histogram"

/-- What is added to the name of a family on the line of its value. -/
def ending : FamilyKind → String
  | histogram => "_count"
  | _ => ""

end FamilyKind

/-- A number with its name and meaning. -/
structure Family where
  name : String
  help : String
  kind : FamilyKind
  value : Nat

def Family.lines (f : Family) : List String :=
  let name := "bifrost_" ++ f.name
  [s!"# HELP {name} {f.help}", s!"# TYPE {name} {f.kind.name}",
    s!"{name}{f.kind.ending} " ++ String.ofList (Text.digits f.value)]

/-- All families, in the order of their names. -/
def families (b : Books) : List Family :=
  [⟨"active_devices", "Registered devices", .gauge, b.devices⟩,
    ⟨"auth_failures_total", "Total rejected credentials", .counter, b.authFailures⟩,
    ⟨"auth_requests_total", "Total device authentication requests", .counter, b.authRequests⟩,
    ⟨"conflicts_total", "Profile diffs resolved as conflicts", .counter, b.conflicts⟩,
    ⟨"diff_rejections_total", "Profile diffs rejected individually", .counter, b.rejections⟩,
    ⟨"diffs_applied_total", "Profile diffs applied cleanly", .counter, b.applied⟩,
    ⟨"manifest_bytes_total", "Total encrypted payload bytes accepted", .counter, b.uploadedBytes⟩,
    ⟨"manifest_downloads_total", "Total manifest download pages served", .counter, b.downloads⟩,
    ⟨"manifest_upload_rejections_total", "Manifest uploads rejected before reaching the store",
      .counter, b.uploadRejections⟩,
    ⟨"manifest_uploads_total", "Total manifests stored", .counter, b.uploads⟩,
    ⟨"profile_sync_duration_seconds", "Duration of profile sync batches in seconds", .histogram,
      b.profileSyncs⟩,
    ⟨"profile_syncs_total", "Total profile sync batches", .counter, b.profileSyncs⟩,
    ⟨"storage_bytes", "Payload bytes retained across all devices", .gauge, b.storedBytes⟩,
    ⟨"sync_errors_total", "Total failed sync operations", .counter, b.failures⟩,
    ⟨"sync_operations_total", "Total successful sync operations", .counter, b.operations⟩,
    ⟨"token_refreshes_total", "Total refreshed credential pairs", .counter, b.refreshes⟩]

/-- The lines that monitoring reads. -/
def lines (b : Books) : List String :=
  b.families.flatMap Family.lines

/-- The text that monitoring reads. -/
def exposition (b : Books) : String :=
  String.join (b.lines.map (· ++ "\n"))

end Books

end DeviceSync
