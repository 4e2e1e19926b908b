import DeviceSync.Hash.Sha256

/-!
# HMAC-SHA256

The keyed hash of RFC 2104 over SHA-256, with which credentials are signed.
-/

namespace DeviceSync.Hmac

/-- A key of one block: long keys are hashed first, short ones filled up with zeros. -/
def blockKey (key : List UInt8) : List UInt8 :=
  let key := if key.length > 64 then Sha256.digest key else key
  key ++ List.replicate (64 - key.length) 0

/-- The 32 bytes of the authentication code of a message under a key. -/
def sha256 (key message : List UInt8) : List UInt8 :=
  let key := blockKey key
  Sha256.digest (key.map (· ^^^ 0x5c) ++ Sha256.digest (key.map (· ^^^ 0x36) ++ message))

end DeviceSync.Hmac
