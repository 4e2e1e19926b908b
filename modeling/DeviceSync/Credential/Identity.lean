import DeviceSync.Bytes.Base64
import DeviceSync.Hash.Sha256
import DeviceSync.Text.Utf8

/-!
# User Identity

The user that a device belongs to is computed from the device's name, so the same device is always
bound to the same user without a table of accounts.
-/

namespace DeviceSync.Credential

/-- How many bytes of the hash make up a user's name. -/
def userDigestLength : Nat := 16

/-- The user of a device: the front of the hash of the device's name, in padded URL-safe base64. -/
def userOf (device : String) : String :=
  Base64.urlSafe.text ((Sha256.digest (Text.octets device)).take userDigestLength)

end DeviceSync.Credential
