import DeviceSync.Bytes.Base64
import DeviceSync.Text.Blank

/-!
# Signing Secrets

The key under which credentials are signed. It is never shorter than the hash it is used with.
-/

namespace DeviceSync.Credential

def minSecretLength : Nat := 32

structure Secret where
  bytes : List UInt8
  long : minSecretLength ≤ bytes.length
deriving DecidableEq

inductive SecretError where
  | tooShort (length : Nat)
  | encoding
deriving DecidableEq

def SecretError.message : SecretError → String
  | tooShort length => s!"signing secret must be at least {minSecretLength} bytes, got {length}"
  | encoding => "signing secret is not valid base64"

namespace Secret

def ofBytes (bytes : List UInt8) : Except SecretError Secret :=
  if h : minSecretLength ≤ bytes.length then .ok ⟨bytes, h⟩ else .error (.tooShort bytes.length)

/-- The secret of a text in padded base64, with blanks around it allowed. -/
def ofBase64 (s : String) : Except SecretError Secret :=
  match Base64.standard.decode? (Text.trim s.toList) with
  | some bytes => ofBytes bytes
  | none => .error .encoding

def toBase64 (s : Secret) : String :=
  Base64.standard.text s.bytes

/-- What may be shown of a secret. -/
def redacted (s : Secret) : String :=
  s!"SigningSecret({s.bytes.length} bytes, redacted)"

end Secret

end DeviceSync.Credential
