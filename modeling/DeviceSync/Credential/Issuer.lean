import DeviceSync.Credential.Identity
import DeviceSync.Credential.PublicKey
import DeviceSync.Credential.Token

/-!
# The Issuer

Issues pairs of credentials and judges those that come back. Nothing is remembered about a
credential: it counts if it is signed under the current secret or the one before, has not expired,
is of the expected kind, and binds its device to the device's own user.
-/

namespace DeviceSync.Credential

/-- The secret in use, and the one that the last rotation replaced. -/
structure KeyRing where
  current : Secret
  previous : Option Secret
deriving DecidableEq

structure Issuer where
  name : String
  /-- Lifetimes in nanoseconds. -/
  accessLifetime : Int
  refreshLifetime : Int
  keys : KeyRing
deriving DecidableEq

/-- A pair of credentials for a device. -/
structure Issued where
  device : String
  user : String
  access : String
  refresh : String
  /-- The lifetime of the access credential in seconds. -/
  expiresIn : Nat
deriving DecidableEq

def Issued.codec : Codec Issued :=
  .record
    (.cons (.required "device_id" Codec.text) <| .cons (.required "user_id" Codec.text) <|
      .cons (.required "access_token" Codec.text) <| .cons (.required "refresh_token" Codec.text) <|
      .cons (.required "expires_in" (Codec.unsigned 64)) .nil)
    (fun (device, user, access, refresh, expiresIn, ()) ↦ ⟨device, user, access, refresh, expiresIn⟩)
    (fun i ↦ (i.device, i.user, i.access, i.refresh, i.expiresIn, ()))

namespace Issuer

def defaultName : String := "bifrost-sync"

/-! Lifetimes that are chosen otherwise, in milliseconds. -/

def defaultAccessLifetime : Int := 3600000
def defaultRefreshLifetime : Int := 86400000

/-- An issuer that has not rotated its secret yet, with lifetimes in milliseconds. -/
def new (name : String) (accessLifetime refreshLifetime : Int) (secret : Secret) : Issuer :=
  ⟨name, accessLifetime * 1000000, refreshLifetime * 1000000, ⟨secret, none⟩⟩

def lifetime (i : Issuer) : Kind → Int
  | .access => i.accessLifetime
  | .refresh => i.refreshLifetime

/-- The lifetime of an access credential in whole seconds. -/
def accessSeconds (i : Issuer) : Nat :=
  (i.accessLifetime.tdiv 1000000000).toNat

/-- Replace the secret; credentials signed with the old one stay good until the next rotation. -/
def rotate (i : Issuer) (secret : Secret) : Issuer :=
  { i with keys := ⟨secret, some i.keys.current⟩ }

/-! ## Issuing -/

/-- What a credential issued now to a device says, if its expiry can be told. -/
def claimsAt? (i : Issuer) (device user : String) (kind : Kind) (now : Instant) : Option Claims :=
  (now.addNanos? (i.lifetime kind)).map fun expiry ↦
    { subject := device, device, user, kind, issuer := i.name
      issuedAt := now.seconds, expiresAt := expiry.seconds }

def signAt (i : Issuer) (device user : String) (kind : Kind) (now : Instant) :
    Except Error String :=
  match i.claimsAt? device user kind now with
  | some c => .ok (Token.sign i.keys.current c)
  | none => .error .expiryOutOfRange

def issue (i : Issuer) (device user : String) (now : Instant) : Except Error Issued := do
  let access ← i.signAt device user .access now
  let refresh ← i.signAt device user .refresh now
  return ⟨device, user, access, refresh, i.accessSeconds⟩

/-- Issue a pair to a device that presents a name and a public key. -/
def authenticate (i : Issuer) (device publicKey : String) (now : Instant) :
    Except Error Issued := do
  if Text.trim device.toList = [] then throw (.invalid .blankDevice)
  match PublicKey.decode publicKey with
  | .error defect => throw (.invalid defect)
  | .ok _ => i.issue device (userOf device) now

/-! ## Judging -/

/-- The claims of a token signed under a secret of the ring. The previous secret is only tried when
all that is wrong under the current one is the signature. -/
def verify (i : Issuer) (token : String) : Except Error Claims :=
  match Token.verify i.name i.keys.current token, i.keys.previous with
  | .ok c, _ => .ok c
  | .error .mismatch, some previous =>
    match Token.verify i.name previous token with
    | .ok c => .ok c
    | .error _ => .error .badSignature
  | .error _, _ => .error .badSignature

/-- Judge a credential of which a kind is expected. It has expired once the clock, in whole
seconds, reaches its expiry. -/
def validate (i : Issuer) (token : String) (expected : Kind) (now : Instant) :
    Except Error Claims := do
  let c ← i.verify token
  if c.expiresAt ≤ now.seconds then throw .expired
  if c.kind ≠ expected then throw (.invalid (.wrongKind expected c.kind))
  if c.subject ≠ c.device ∨ c.user ≠ userOf c.device then throw (.invalid .inconsistentBinding)
  return c

/-- Exchange a refresh credential for a new pair. -/
def refresh (i : Issuer) (token : String) (now : Instant) : Except Error Issued := do
  let c ← i.validate token .refresh now
  i.issue c.device c.user now

end Issuer

end DeviceSync.Credential
