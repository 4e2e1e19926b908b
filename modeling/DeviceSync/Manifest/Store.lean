import DeviceSync.Manifest.Envelope

/-!
# The Store

Every device has a log of its latest envelopes, in the order in which they arrived. A log that
grows beyond the retention bound loses its oldest envelopes, whatever their timestamps say. Beside
the logs stand the devices that have registered and, for each user, the roster of its devices.
-/

namespace DeviceSync.Manifest

/-- The envelopes of a device, the oldest first, and the sum of their sizes. -/
structure Log where
  entries : List Envelope
  bytes : Nat

namespace Log

def empty : Log := ⟨[], 0⟩

/-- Drop the oldest entries until no more than `retention` are left. -/
def evict (retention bytes : Nat) : List Envelope → Log
  | [] => ⟨[], bytes⟩
  | oldest :: others =>
    if others.length < retention then ⟨oldest :: others, bytes⟩
    else evict retention (bytes - oldest.size) others

def push (retention : Nat) (l : Log) (e : Envelope) : Log :=
  evict retention (l.bytes + e.size) (l.entries ++ [e])

/-- How many bytes some logs hold together. -/
def totalBytes : List Log → Nat
  | [] => 0
  | l :: logs => l.bytes + totalBytes logs

/-- The entries that were created after an instant. -/
def after (l : Log) (since : Instant) : List Envelope :=
  l.entries.filter fun e ↦ since < e.createdAt

end Log

inductive StoreError where
  | capacityExceeded (device : String) (size limit : Nat)
  | backend (reason : String)
deriving DecidableEq

def StoreError.message : StoreError → String
  | capacityExceeded device size limit =>
    s!"storage capacity exceeded for device {device}: {size} bytes exceeds limit of {limit}"
  | backend reason => s!"storage backend error: {reason}"

structure Store where
  /-- How many envelopes a log may hold. -/
  retention : Nat
  /-- How many bytes the payload of one envelope may have, if there is a limit. -/
  limit : Option Nat
  logs : Table Log
  devices : Table Device
  /-- For each user the names of its devices. -/
  rosters : Table (Table Unit)

namespace Store

def defaultRetention : Nat := 100

/-- A store without content. A log holds at least one envelope. -/
def new (retention : Nat) (limit : Option Nat) : Store :=
  ⟨max retention 1, limit, .empty, .empty, .empty⟩

/-! ## Manifests -/

def log (s : Store) (device : String) : Log :=
  (s.logs.find? device).getD .empty

/-- Append an envelope to the log of a device. Equal envelopes are kept apart. -/
def put (s : Store) (device : String) (e : Envelope) : Except StoreError Store :=
  let append := { s with logs := s.logs.insert device ((s.log device).push s.retention e) }
  match s.limit with
  | some limit =>
    if limit < e.size then .error (.capacityExceeded device e.size limit) else .ok append
  | none => .ok append

/-- The envelopes of a device that were created after an instant, in the order of the log. -/
def manifests (s : Store) (device : String) (since : Instant) : List Envelope :=
  (s.log device).after since

/-- How many bytes the log of a device holds. -/
def used (s : Store) (device : String) : Nat :=
  (s.log device).bytes

/-- How many envelopes the log of a device holds. -/
def count (s : Store) (device : String) : Nat :=
  (s.log device).entries.length

/-- How many bytes all logs hold together. -/
def total (s : Store) : Nat :=
  Log.totalBytes s.logs.values

/-! ## Devices -/

/-- What is remembered of a device that registers. One that is known keeps its user and the time
at which it first registered. -/
def merged (known : Option Device) (d : Device) : Device :=
  match known with
  | some old => { old with publicKey := d.publicKey, lastSeen := d.lastSeen }
  | none => d

/-- The names of a user's devices, in order. -/
def roster (s : Store) (user : String) : List String :=
  ((s.rosters.find? user).getD .empty).keys

def register (s : Store) (d : Device) : Store :=
  let names := (s.rosters.find? d.user).getD .empty
  { s with
    devices := s.devices.insert d.name (merged (s.devices.find? d.name) d)
    rosters := s.rosters.insert d.user (names.insert d.name ()) }

/-- How many devices have registered. -/
def deviceCount (s : Store) : Nat :=
  s.devices.size

end Store

end DeviceSync.Manifest
