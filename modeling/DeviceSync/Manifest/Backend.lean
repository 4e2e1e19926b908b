import DeviceSync.Manifest.Store

/-!
# Storage Backends

A store behind a connection that may refuse some operations. Whoever uses a backend has to deal
with the refusal of every operation; a backend that refuses none is its store.
-/

namespace DeviceSync.Manifest

/-- What can be asked of a backend. -/
inductive Operation where
  | putManifest
  | getManifests
  | getRoster
  | registerDevice
  | storageUsed
  | manifestCount
  | totalStorageUsed
  | deviceCount
  | ping
deriving DecidableEq

namespace Operation

def name : Operation → String
  | putManifest => "store_manifest"
  | getManifests => "get_manifests"
  | getRoster => "get_device_list"
  | registerDevice => "register_device"
  | storageUsed => "storage_used"
  | manifestCount => "manifest_count"
  | totalStorageUsed => "total_storage_used"
  | deviceCount => "device_count"
  | ping => "ping"

def all : List Operation :=
  [putManifest, getManifests, getRoster, registerDevice, storageUsed, manifestCount,
    totalStorageUsed, deviceCount, ping]

def ofName? (s : String) : Option Operation :=
  all.find? fun op ↦ op.name = s

end Operation

structure Backend where
  store : Store
  /-- The operations that are refused. -/
  down : List Operation

namespace Backend

/-- Refuse an operation that is down. -/
def reach (b : Backend) (op : Operation) : Except StoreError Unit :=
  if op ∈ b.down then .error (.backend s!"{op.name} is down") else .ok ()

def put (b : Backend) (device : String) (e : Envelope) : Except StoreError Backend := do
  b.reach .putManifest
  let store ← b.store.put device e
  return { b with store }

def manifests (b : Backend) (device : String) (since : Instant) :
    Except StoreError (List Envelope) := do
  b.reach .getManifests
  return b.store.manifests device since

def roster (b : Backend) (user : String) : Except StoreError (List String) := do
  b.reach .getRoster
  return b.store.roster user

def register (b : Backend) (d : Device) : Except StoreError Backend := do
  b.reach .registerDevice
  return { b with store := b.store.register d }

def used (b : Backend) (device : String) : Except StoreError Nat := do
  b.reach .storageUsed
  return b.store.used device

def count (b : Backend) (device : String) : Except StoreError Nat := do
  b.reach .manifestCount
  return b.store.count device

def total (b : Backend) : Except StoreError Nat := do
  b.reach .totalStorageUsed
  return b.store.total

def deviceCount (b : Backend) : Except StoreError Nat := do
  b.reach .deviceCount
  return b.store.deviceCount

def ping (b : Backend) : Except StoreError Unit :=
  b.reach .ping

end Backend

end DeviceSync.Manifest
