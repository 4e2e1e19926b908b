import DeviceSync.Manifest.Backend
import DeviceSync.Profile.Engine
import DeviceSync.Status.ErrorLog

/-!
# Snapshots

The status of a device, put together from the roster of its user, the logs of all devices on that
roster, the user's profile, the health of what the service depends on, and the device's own latest
failures. Nothing of it is stored.
-/

namespace DeviceSync.Status

open Codec (unsigned)

/-- Whether what the service depends on works. -/
structure Health where
  encryption : Bool
  connectivity : Bool
deriving DecidableEq

def Health.good : Health := ⟨true, true⟩

structure Snapshot where
  /-- Whether the device is on the roster of its user. -/
  enabled : Bool
  lastSync : Option Instant
  deviceCount : Nat
  /-- How many fields of the user's profile have been written. -/
  fieldCount : Nat
  devices : List String
  usedBytes : Nat
  limitBytes : Nat
  encryption : Bool
  connectivity : Bool
  recentErrors : List ErrorEntry
deriving DecidableEq

namespace Snapshot

def fields : Fields (Bool × Option Instant × Nat × Nat × List String × Nat × Nat × Bool × Bool ×
    List ErrorEntry × Unit) :=
  .cons (.required "sync_enabled" Codec.bool) <| .cons (.nullable "last_sync" Codec.instant) <|
    .cons (.required "total_devices" (unsigned 64)) <|
    .cons (.required "total_profiles" (unsigned 64)) <|
    .cons (.required "connected_devices" (Codec.list Codec.text)) <|
    .cons (.required "storage_used_bytes" (unsigned 64)) <|
    .cons (.required "storage_limit_bytes" (unsigned 64)) <|
    .cons (.required "encryption_healthy" Codec.bool) <|
    .cons (.required "connectivity_healthy" Codec.bool) <|
    .cons (.required "recent_errors" (Codec.list ErrorEntry.codec)) .nil

def ofParts : Bool × Option Instant × Nat × Nat × List String × Nat × Nat × Bool × Bool ×
    List ErrorEntry × Unit → Snapshot
  | (enabled, lastSync, deviceCount, fieldCount, devices, usedBytes, limitBytes, encryption,
      connectivity, recentErrors, ()) =>
    ⟨enabled, lastSync, deviceCount, fieldCount, devices, usedBytes, limitBytes, encryption,
      connectivity, recentErrors⟩

def parts (s : Snapshot) : Bool × Option Instant × Nat × Nat × List String × Nat × Nat × Bool ×
    Bool × List ErrorEntry × Unit :=
  (s.enabled, s.lastSync, s.deviceCount, s.fieldCount, s.devices, s.usedBytes, s.limitBytes,
    s.encryption, s.connectivity, s.recentErrors, ())

def codec : Codec Snapshot :=
  .record fields ofParts parts

end Snapshot

/-- How many bytes the logs of some devices hold together. -/
def usedBy (b : Manifest.Backend) : List String → Except Manifest.StoreError Nat
  | [] => .ok 0
  | device :: devices => do
    let used ← b.used device
    let others ← usedBy b devices
    return used + others

/-- The status of a device that belongs to a user. -/
def snapshot (b : Manifest.Backend) (e : Profile.Engine) (health : Health) (errors : ErrorLog)
    (limitBytes : Nat) (user device : String) : Except Manifest.StoreError Snapshot := do
  let roster ← b.roster user
  let usedBytes ← usedBy b roster
  return {
    enabled := device ∈ roster
    lastSync := e.lastSync? user device
    deviceCount := roster.length
    fieldCount := e.written user
    devices := roster
    usedBytes, limitBytes
    encryption := health.encryption
    connectivity := health.connectivity
    recentErrors := errors.recent device }

end DeviceSync.Status
