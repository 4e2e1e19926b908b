import DeviceSync.Wire.Record

/-!
# Error Logs

The latest failures of every device, so that its status can show them. Each device has a ring of
its own: what one device does wrong never pushes out what another did.
-/

namespace DeviceSync.Status

/-- A failure that is remembered. -/
structure ErrorEntry where
  time : Instant
  code : String
  message : String
deriving DecidableEq

def ErrorEntry.codec : Codec ErrorEntry :=
  .record
    (.cons (.required "at" Codec.instant) <| .cons (.required "code" Codec.text) <|
      .cons (.required "message" Codec.text) .nil)
    (fun (time, code, message, ()) ↦ ⟨time, code, message⟩)
    (fun e ↦ (e.time, e.code, e.message, ()))

structure ErrorLog where
  /-- How many failures are remembered for a device. -/
  capacity : Nat
  rings : Table (List ErrorEntry)

namespace ErrorLog

def defaultCapacity : Nat := 10

/-- A log without entries. A ring holds at least one entry. -/
def new (capacity : Nat) : ErrorLog :=
  ⟨max capacity 1, .empty⟩

/-- What is remembered for a device, the oldest failure first. -/
def recent (l : ErrorLog) (device : String) : List ErrorEntry :=
  (l.rings.find? device).getD []

/-- The last entries of a list, `capacity` at most. -/
def lastOf (capacity : Nat) (entries : List ErrorEntry) : List ErrorEntry :=
  entries.drop (entries.length - capacity)

def record (l : ErrorLog) (device : String) (e : ErrorEntry) : ErrorLog :=
  { l with rings := l.rings.insert device (lastOf l.capacity (l.recent device ++ [e])) }

end ErrorLog

end DeviceSync.Status
