import DeviceSync.Profile.Wire
import DeviceSync.Status.Snapshot

/-!
# Requests and Responses

What clients send and what they are answered, with the written forms. Every answer says first
whether the call succeeded, so a client can tell the two kinds of answer apart.
-/

namespace DeviceSync

open Codec (unsigned list instant)
open Json (Document Fault Closing)

/-! ## Credentials -/

/-- A device that asks for its first credentials. -/
structure AuthRequest where
  device : String
  publicKey : String
deriving DecidableEq

def AuthRequest.codec : Codec AuthRequest :=
  .record
    (.cons (.required "device_id" Codec.text) <| .cons (.required "public_key" Codec.text) .nil)
    (fun (device, publicKey, ()) ↦ ⟨device, publicKey⟩)
    (fun r ↦ (r.device, r.publicKey, ()))

structure RefreshRequest where
  token : String
deriving DecidableEq

def RefreshRequest.codec : Codec RefreshRequest :=
  .record (.cons (.required "refresh_token" Codec.text) .nil)
    (fun (token, ()) ↦ ⟨token⟩)
    (fun r ↦ (r.token, ()))

structure AuthResponse where
  success : Bool
  device : String
  user : String
  access : String
  refresh : String
  expiresIn : Nat
  /-- Where the device is to sync. -/
  endpoint : String
deriving DecidableEq

def AuthResponse.codec : Codec AuthResponse :=
  .record
    (.cons (.required "success" Codec.bool) <| .cons (.required "device_id" Codec.text) <|
      .cons (.required "user_id" Codec.text) <| .cons (.required "access_token" Codec.text) <|
      .cons (.required "refresh_token" Codec.text) <|
      .cons (.required "expires_in" (unsigned 64)) <|
      .cons (.required "sync_endpoint" Codec.text) .nil)
    (fun (success, device, user, access, refresh, expiresIn, endpoint, ()) ↦
      ⟨success, device, user, access, refresh, expiresIn, endpoint⟩)
    (fun r ↦ (r.success, r.device, r.user, r.access, r.refresh, r.expiresIn, r.endpoint, ()))

/-! ## Manifests -/

structure UploadResponse where
  success : Bool
  message : String
  time : Instant
  /-- Manifests replace whole snapshots, so there never is a conflict. -/
  conflicts : Nat
deriving DecidableEq

def UploadResponse.codec : Codec UploadResponse :=
  .record
    (.cons (.required "success" Codec.bool) <| .cons (.required "message" Codec.text) <|
      .cons (.required "server_timestamp" instant) <|
      .cons (.required "conflict_count" (unsigned 32)) .nil)
    (fun (success, message, time, conflicts, ()) ↦ ⟨success, message, time, conflicts⟩)
    (fun r ↦ (r.success, r.message, r.time, r.conflicts, ()))

/-- Which manifests to download: those created after an instant, from a page on. -/
structure DownloadQuery where
  since : Option Instant
  pageToken : Option String
deriving DecidableEq

def DownloadQuery.codec : Codec DownloadQuery :=
  .record
    (.cons (.nullable "since" instant) <| .cons (.nullable "page_token" Codec.text) .nil)
    (fun (since, pageToken, ()) ↦ ⟨since, pageToken⟩)
    (fun q ↦ (q.since, q.pageToken, ()))

structure DownloadResponse where
  success : Bool
  manifests : List Manifest.Envelope
  time : Instant
  more : Bool
  nextToken : Option String
deriving DecidableEq

def DownloadResponse.codec : Codec DownloadResponse :=
  .record
    (.cons (.required "success" Codec.bool) <|
      .cons (.required "manifests" (list Manifest.Envelope.codec)) <|
      .cons (.required "server_timestamp" instant) <| .cons (.required "has_more" Codec.bool) <|
      .cons (.nullable "next_page_token" Codec.text) .nil)
    (fun (success, manifests, time, more, nextToken, ()) ↦
      ⟨success, manifests, time, more, nextToken⟩)
    (fun r ↦ (r.success, r.manifests, r.time, r.more, r.nextToken, ()))

/-! ## Profiles -/

structure SyncRequest where
  diffs : List Profile.Diff

def SyncRequest.codec : Codec SyncRequest :=
  .record (.cons (.defaulted "diffs" (list Profile.Diff.codec) []) .nil)
    (fun (diffs, ()) ↦ ⟨diffs⟩)
    (fun r ↦ (r.diffs, ()))

structure SyncResponse where
  success : Bool
  updates : List Profile.Update
  conflicts : List Profile.Conflict
  applied : List Profile.Applied
  rejected : List Profile.Rejection
  syncPoint : Nat
  time : Instant

def SyncResponse.codec : Codec SyncResponse :=
  .record
    (.cons (.required "success" Codec.bool) <|
      .cons (.required "server_diffs" (list Profile.Update.codec)) <|
      .cons (.required "conflicts" (list Profile.Conflict.codec)) <|
      .cons (.required "applied" (list Profile.Applied.codec)) <|
      .cons (.required "rejected" (list Profile.Rejection.codec)) <|
      .cons (.required "sync_point" (unsigned 64)) <|
      .cons (.required "new_sync_timestamp" instant) .nil)
    (fun (success, updates, conflicts, applied, rejected, syncPoint, time, ()) ↦
      ⟨success, updates, conflicts, applied, rejected, syncPoint, time⟩)
    (fun r ↦ (r.success, r.updates, r.conflicts, r.applied, r.rejected, r.syncPoint, r.time, ()))

/-! ## Status -/

/-- The members of the snapshot stand beside the success, not under a key of their own. -/
structure StatusResponse where
  success : Bool
  snapshot : Status.Snapshot
deriving DecidableEq

namespace StatusResponse

/-- Go through the members of an object: the success is read at once, the others are only checked
and kept for the snapshot. -/
def readMembers (room : Nat) (success : Option Bool) (others : List (Option String × Document)) :
    List (Option String × Document) →
      Except Fault (Option Bool × List (Option String × Document))
  | [] => .ok (success, others.reverse)
  | (none, _) :: _ => .error .malformed
  | (some key, value) :: rest => do
    if key = "success" then
      if success.isSome then throw .unexpected
      let b ← Codec.bool.decode room value
      readMembers room (some b) others rest
    else
      let _ ← value.toJson room
      readMembers room success ((some key, value) :: others) rest

/-- A snapshot whose members have been seen: whatever is wrong with it now is a wrong shape. -/
def readSnapshot (room : Nat) (members : List (Option String × Document)) :
    Except Fault Status.Snapshot :=
  match Status.Snapshot.fields.decodeMembers room members .closed with
  | .ok parts => .ok (.ofParts parts)
  | .error _ => .error .unexpected

def codec : Codec StatusResponse where
  encode r := .object
    (("success", .bool r.success) :: Status.Snapshot.fields.encode r.snapshot.parts)
  decode
    | 0, .object _ _ => .error .malformed
    | room + 1, .object members closing => do
      let (success, others) ← readMembers room none [] members
      closing.check
      match success with
      | none => throw .unexpected
      | some success => return ⟨success, ← readSnapshot room others⟩
    | _, d => .error d.mismatch

end StatusResponse

/-! ## Monitoring -/

structure Stats where
  devices : Nat
  /-- Uploads, downloads and profile syncs that succeeded. -/
  operations : Nat
  storedBytes : Nat
deriving DecidableEq

def Stats.codec : Codec Stats :=
  .record
    (.cons (.required "active_devices" (unsigned 64)) <|
      .cons (.required "total_syncs" (unsigned 64)) <|
      .cons (.required "storage_usage" (unsigned 64)) .nil)
    (fun (devices, operations, storedBytes, ()) ↦ ⟨devices, operations, storedBytes⟩)
    (fun s ↦ (s.devices, s.operations, s.storedBytes, ()))

/-- Whether the service can reach its store. -/
structure HealthReport where
  status : String
  service : String
  version : String
  time : Instant
deriving DecidableEq

def HealthReport.codec : Codec HealthReport :=
  .record
    (.cons (.required "status" Codec.text) <| .cons (.required "service" Codec.text) <|
      .cons (.required "version" Codec.text) <| .cons (.required "timestamp" instant) .nil)
    (fun (status, service, version, time, ()) ↦ ⟨status, service, version, time⟩)
    (fun r ↦ (r.status, r.service, r.version, r.time, ()))

/-! ## Failures -/

structure ErrorBody where
  success : Bool
  code : String
  message : String
deriving DecidableEq

def ErrorBody.codec : Codec ErrorBody :=
  .record
    (.cons (.required "success" Codec.bool) <| .cons (.required "code" Codec.text) <|
      .cons (.required "message" Codec.text) .nil)
    (fun (success, code, message, ()) ↦ ⟨success, code, message⟩)
    (fun r ↦ (r.success, r.code, r.message, ()))

end DeviceSync
