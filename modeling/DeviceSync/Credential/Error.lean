/-!
# Credential Errors

Why a device, a key or a credential is not accepted. Every cause has one wording; causes that are
the caller's to mend share the lead-in of an invalid credential.
-/

namespace DeviceSync.Credential

/-- The two credentials of a pair. -/
inductive Kind where
  | access
  | refresh
deriving DecidableEq

namespace Kind

def name : Kind → String
  | access => "access"
  | refresh => "refresh"

def ofName? : String → Option Kind
  | "access" => some access
  | "refresh" => some refresh
  | _ => none

/-- The kind as messages name it. -/
def title : Kind → String
  | access => "Access"
  | refresh => "Refresh"

end Kind

/-- What is wrong with what a caller presents, where the caller is told. -/
inductive Defect where
  | blankDevice
  | emptyKey
  | unterminatedKey
  | undecodableKey
  | keyLength (bytes : Nat)
  | wrongKind (expected actual : Kind)
  | inconsistentBinding
deriving DecidableEq

/-- The least and the greatest number of bytes of a public key. -/
def minKeyLength : Nat := 32
def maxKeyLength : Nat := 4096

def Defect.message : Defect → String
  | blankDevice => "device_id is empty"
  | emptyKey => "public_key is empty"
  | unterminatedKey => "public_key PEM block is not terminated"
  | undecodableKey => "public_key is not valid base64"
  | keyLength bytes => s!"public_key length {bytes} outside {minKeyLength}..={maxKeyLength} bytes"
  | wrongKind expected actual => s!"expected {expected.title} credential, got {actual.title}"
  | inconsistentBinding => "credential identity binding is inconsistent"

inductive Error where
  | invalid (defect : Defect)
  | expired
  /-- Nothing is said about what is wrong with a signature or the text it covers. -/
  | badSignature
  /-- The credential would expire after the last instant there is. -/
  | expiryOutOfRange
deriving DecidableEq

def Error.invalidMessage (reason : String) : String :=
  s!"invalid device credentials: {reason}"

def Error.signingMessage (reason : String) : String :=
  s!"failed to sign credential: {reason}"

def Error.expiryReason : String := "credential expiry out of range"

def Error.message : Error → String
  | invalid defect => invalidMessage defect.message
  | expired => "credential has expired"
  | badSignature => "credential signature is invalid"
  | expiryOutOfRange => signingMessage expiryReason

end DeviceSync.Credential
