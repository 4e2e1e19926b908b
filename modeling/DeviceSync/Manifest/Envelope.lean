import DeviceSync.Wire.Record

/-!
# Envelopes and Devices

A manifest as the service sees it: bytes that only the client can read, and what the client says
about them. A device as the service remembers it.
-/

namespace DeviceSync.Manifest

structure Envelope where
  device : String
  payload : List UInt8
  /-- The digest that the client declares for the payload. -/
  digest : String
  createdAt : Instant
deriving DecidableEq

/-- The size of the payload in bytes. -/
def Envelope.size (e : Envelope) : Nat :=
  e.payload.length

def Envelope.codec : Codec Envelope :=
  .record
    (.cons (.required "device_id" Codec.text) <| .cons (.required "payload" Codec.bytes) <|
      .cons (.required "payload_hash" Codec.text) <|
      .cons (.required "created_at" Codec.instant) .nil)
    (fun (device, payload, digest, createdAt, ()) ↦ ⟨device, payload, digest, createdAt⟩)
    (fun e ↦ (e.device, e.payload, e.digest, e.createdAt, ()))

structure Device where
  name : String
  user : String
  publicKey : String
  registeredAt : Instant
  lastSeen : Instant
deriving DecidableEq

def Device.codec : Codec Device :=
  .record
    (.cons (.required "device_id" Codec.text) <| .cons (.required "user_id" Codec.text) <|
      .cons (.required "public_key" Codec.text) <|
      .cons (.required "registered_at" Codec.instant) <|
      .cons (.required "last_seen" Codec.instant) .nil)
    (fun (name, user, publicKey, registeredAt, lastSeen, ()) ↦
      ⟨name, user, publicKey, registeredAt, lastSeen⟩)
    (fun d ↦ (d.name, d.user, d.publicKey, d.registeredAt, d.lastSeen, ()))

end DeviceSync.Manifest
