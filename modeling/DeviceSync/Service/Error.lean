import DeviceSync.Credential.Error
import DeviceSync.Manifest.Digest
import DeviceSync.Manifest.Store

/-!
# Errors of the Service

Every way in which a call can fail, with a code that clients can rely on and a message that they
can show. The parts of the service have errors of their own, which are taken over here.
-/

namespace DeviceSync

inductive ServiceError where
  | invalidCredentials (reason : String)
  | expired
  | invalidSignature
  | signing (reason : String)
  | deviceMismatch (bound requested : String)
  | missingDigest
  | malformedDigest (reason : String)
  | capacityExceeded (device : String) (size limit : Nat)
  | backend (reason : String)
  | badRequest (reason : String)
deriving DecidableEq

namespace ServiceError

def code : ServiceError → String
  | invalidCredentials _ => "invalid_credentials"
  | expired => "expired"
  | invalidSignature => "invalid_signature"
  | signing _ => "internal_error"
  | deviceMismatch _ _ => "device_mismatch"
  | missingDigest => "missing_digest"
  | malformedDigest _ => "malformed_digest"
  | capacityExceeded _ _ _ => "storage_capacity_exceeded"
  | backend _ => "storage_error"
  | badRequest _ => "bad_request"

/-- The lead-in of what is wrong with a payload. -/
def integrityMessage (reason : String) : String :=
  s!"payload integrity check failed: {reason}"

def message : ServiceError → String
  | invalidCredentials reason => Credential.Error.invalidMessage reason
  | expired => Credential.Error.expired.message
  | invalidSignature => Credential.Error.badSignature.message
  | signing reason => Credential.Error.signingMessage reason
  | deviceMismatch bound requested =>
    s!"device mismatch: credential is bound to '{bound}' but the request names '{requested}'"
  | missingDigest => integrityMessage Manifest.DigestError.missing.message
  | malformedDigest reason => integrityMessage (Manifest.DigestError.malformedMessage reason)
  | capacityExceeded device size limit =>
    (Manifest.StoreError.capacityExceeded device size limit).message
  | backend reason => (Manifest.StoreError.backend reason).message
  | badRequest reason => s!"bad request: {reason}"

/-! ## Errors of the parts -/

def ofCredential : Credential.Error → ServiceError
  | .invalid defect => invalidCredentials defect.message
  | .expired => expired
  | .badSignature => invalidSignature
  | .expiryOutOfRange => signing Credential.Error.expiryReason

def ofDigest : Manifest.DigestError → ServiceError
  | .missing => missingDigest
  | .malformed flaw => malformedDigest flaw.message

def ofStore : Manifest.StoreError → ServiceError
  | .capacityExceeded device size limit => capacityExceeded device size limit
  | .backend reason => backend reason

end ServiceError

end DeviceSync
