import DeviceSync.Credential.Header
import DeviceSync.Credential.Secret
import DeviceSync.Hash.Hmac

/-!
# Tokens

A credential as text: a header, the claims and a signature in unpadded URL-safe base64, joined by
dots. The signature is the keyed hash of the text before the last dot, and is compared as text, so
every signed text has exactly one token.

Verifying tells two refusals apart. A signature that is not the one of this secret may be that of
another; anything else is wrong under every secret.
-/

namespace DeviceSync.Credential

open Json (Document Fault)

/-- What a credential says. -/
structure Claims where
  subject : String
  device : String
  user : String
  kind : Kind
  issuer : String
  /-- Seconds since the start of 1970. -/
  issuedAt : Int
  expiresAt : Int
deriving DecidableEq

def Kind.codec : Codec Kind := .named Kind.name Kind.ofName?

def Claims.codec : Codec Claims :=
  .record
    (.cons (.required "sub" Codec.text) <| .cons (.required "device_id" Codec.text) <|
      .cons (.required "user_id" Codec.text) <| .cons (.required "kind" Kind.codec) <|
      .cons (.required "iss" Codec.text) <| .cons (.required "iat" Codec.signed64) <|
      .cons (.required "exp" Codec.signed64) .nil)
    (fun (subject, device, user, kind, issuer, issuedAt, expiresAt, ()) ↦
      ⟨subject, device, user, kind, issuer, issuedAt, expiresAt⟩)
    (fun c ↦ (c.subject, c.device, c.user, c.kind, c.issuer, c.issuedAt, c.expiresAt, ()))

namespace Token

/-- The three parts of a token, and the text that its signature covers. -/
structure Parts where
  header : List Char
  payload : List Char
  signature : List Char

def Parts.signed (p : Parts) : List Char :=
  p.header ++ '.' :: p.payload

/-- A token is cut at its last two dots. -/
def parts? (cs : List Char) : Option Parts := do
  let (signed, signature) ← Text.cutLast '.' cs
  let (header, payload) ← Text.cutLast '.' signed
  return ⟨header, payload, signature⟩

def encode (bytes : List UInt8) : List Char :=
  Base64.urlSafeBare.encode bytes

/-- The octets of a part of a token. -/
def decode? (cs : List Char) : Option (List UInt8) :=
  Base64.urlSafeBare.decode? cs

/-- The signature of a text under a secret. -/
def signatureOf (secret : Secret) (signed : List Char) : List Char :=
  encode (Hmac.sha256 secret.bytes (Text.octets (String.ofList signed)))

/-! ## Signing -/

/-- The header of every token that is issued. -/
def headerText : String := "\x7b\"typ\":\"JWT\",\"alg\":\"HS256\"\x7d"

/-- The text before the last dot of the token for some claims. -/
def signingInput (c : Claims) : List Char :=
  encode (Text.octets headerText) ++ '.' :: encode (Text.octets (Claims.codec.toText c))

def sign (secret : Secret) (c : Claims) : String :=
  let signed := signingInput c
  String.ofList (signed ++ '.' :: signatureOf secret signed)

/-! ## Verifying -/

inductive Refusal where
  /-- The signature is not that of the text under this secret. -/
  | mismatch
  /-- The token is refused whatever the secret. -/
  | unusable
deriving DecidableEq

/-- Whether a value names an audience: a string or a list of strings. -/
def namesAudience : Document → Bool
  | .text _ => true
  | .array items _ => items.all fun d ↦ match d with
    | .text _ => true
    | _ => false
  | _ => false

/-- How deep the values of a payload may be nested. -/
def valueDepth : Nat := Document.maxDepth - 1

/-- Whether a member of the payload can be passed over as its audience. The service is nobody's
audience, so a token that names one is not for it. A value that cannot be read names none, but then
the rest of the payload must be found again behind it. -/
def passesAsAudience (d : Document) : Bool :=
  match d.lapse? valueDepth with
  | some lapse => lapse = .behind
  | none => !namesAudience d

/-- Whether a member can be passed over as a time. A list or object is given up at its start, so
that one with something in it cannot. -/
def passesAsTime : Document → Bool
  | .array items closing => items.isEmpty && closing = .closed
  | .object members closing => members.isEmpty && closing = .closed
  | d => d.lapse? valueDepth ≠ some .inside

/-- The members of an object with a given key. -/
def membersNamed (key : String) : Document → List Document
  | .object members _ => members.filterMap fun (k, d) ↦ if k = some key then some d else none
  | _ => []

/-- What the payload must look like beyond its claims. -/
def admissible (payload : Document) : Bool :=
  let audiences := membersNamed "aud" payload
  let starts := membersNamed "nbf" payload
  audiences.length ≤ 1 && audiences.all passesAsAudience &&
    starts.length ≤ 1 && starts.all passesAsTime &&
    match payload with
    | .object _ _ => true
    | _ => false

/-- The claims of a payload, for an issuer of the given name. -/
def claims? (issuer : String) (payload : List Char) : Option Claims := do
  let bytes ← decode? payload
  let c ← (Claims.codec.ofOctets bytes).toOption
  if admissible (Document.ofOctets bytes).1 ∧ 0 ≤ c.expiresAt ∧ c.issuer = issuer then some c
  else none

/-- The claims of a token that is signed with the secret and made for an issuer of this name. -/
def verify (issuer : String) (secret : Secret) (token : String) : Except Refusal Claims :=
  match parts? token.toList with
  | none => .error .unusable
  | some p =>
    match (decode? p.header).map Header.codec.ofOctets with
    | some (.ok ()) =>
      if p.signature = signatureOf secret p.signed then
        match claims? issuer p.payload with
        | some c => .ok c
        | none => .error .unusable
      else .error .mismatch
    | _ => .error .unusable

end Token

end DeviceSync.Credential
