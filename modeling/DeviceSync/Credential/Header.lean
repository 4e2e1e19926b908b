import DeviceSync.Credential.Error
import DeviceSync.Wire.Record

/-!
# Headers of Tokens

What stands in front of the claims of a token. Of its members only the algorithm is looked at, and
one algorithm is accepted. The others must have the right form all the same, down to the public key
that a token may carry along: keys are not taken from tokens, but a key of no known form is refused.
-/

namespace DeviceSync.Credential.Header

open Json (Document)

/-! ## Carried keys -/

/-- One name and no other. -/
def only (name : String) : Codec Unit :=
  .named (fun _ ↦ name) fun s ↦ if s = name then some () else none

/-- Any name, or an object with a name as its only key and nothing or an empty object under it. -/
def anyName : Codec Unit where
  encode _ := .null
  decode
    | _, .text (.ok _) => .ok ()
    | _, .object [(some _, .null)] .closed => .ok ()
    | _, .object [(some _, .object [] .closed)] .closed => .ok ()
    | _, d => .error d.mismatch

/-- The members that keys of every form may have. -/
def commonFields : Fields (Option String × Option (List String) × Option Unit × Option String ×
    Option String × Option (List String) × Option String × Option String × Unit) :=
  .cons (.nullable "use" Codec.text) <| .cons (.nullable "key_ops" (Codec.list Codec.text)) <|
    .cons (.nullable "alg" anyName) <| .cons (.nullable "kid" Codec.text) <|
    .cons (.nullable "x5u" Codec.text) <| .cons (.nullable "x5c" (Codec.list Codec.text)) <|
    .cons (.nullable "x5t" Codec.text) <| .cons (.nullable "x5t#S256" Codec.text) .nil

/-- A curve by its name. -/
def curve : Codec String :=
  .named id fun s ↦ if s ∈ ["P-256", "P-384", "P-521", "Ed25519"] then some s else none

/-- A key that is a point of a curve. -/
def pointFields : Fields (Unit × String × String × String × Unit) :=
  .cons (.required "kty" (only "EC")) <| .cons (.required "crv" curve) <|
    .cons (.required "x" Codec.text) <| .cons (.required "y" Codec.text) .nil

/-- A key that is a modulus and an exponent. -/
def modulusFields : Fields (Unit × String × String × Unit) :=
  .cons (.required "kty" (only "RSA")) <| .cons (.required "n" Codec.text) <|
    .cons (.required "e" Codec.text) .nil

/-- A key that is shared. -/
def sharedFields : Fields (Unit × String × Unit) :=
  .cons (.required "kty" (only "oct")) <| .cons (.required "k" Codec.text) .nil

/-- A key that is one coordinate on a curve. -/
def coordinateFields : Fields (Unit × String × String × Unit) :=
  .cons (.required "kty" (only "OKP")) <| .cons (.required "crv" curve) <|
    .cons (.required "x" Codec.text) .nil

/-- Whether the members of an object are as the fields say. -/
def fits {τ : Type} (room : Nat) (fields : Fields τ)
    (members : List (Option String × Document)) : Bool :=
  (fields.decodeMembers room members .closed).toBool

/-- Whether members make up a key. Those that are common to all forms belong to no form. -/
def isKey (room : Nat) (members : List (Option String × Document)) : Bool :=
  let (common, special) := members.partition fun m ↦ m.1.any (· ∈ commonFields.names)
  fits room commonFields common &&
    (fits room pointFields special || fits room modulusFields special ||
      fits room sharedFields special || fits room coordinateFields special)

/-- A key that is carried along. All of it is read before its form is judged. -/
def key : Codec Unit where
  encode _ := .null
  decode
    | room + 1, .object members closing => do
      let _ ← Document.toJson (room + 1) (.object members closing)
      if isKey room members then return () else throw .unexpected
    | 0, .object _ _ => .error .malformed
    | _, d => .error d.mismatch

/-! ## Headers -/

def fields : Fields (Option String × Unit × Option String × Option String × Option Unit ×
    Option String × Option String × Option (List String) × Option String × Option String × Unit) :=
  .cons (.nullable "typ" Codec.text) <| .cons (.required "alg" (only "HS256")) <|
    .cons (.nullable "cty" Codec.text) <| .cons (.nullable "jku" Codec.text) <|
    .cons (.nullable "jwk" key) <| .cons (.nullable "kid" Codec.text) <|
    .cons (.nullable "x5u" Codec.text) <| .cons (.nullable "x5c" (Codec.list Codec.text)) <|
    .cons (.nullable "x5t" Codec.text) <| .cons (.nullable "x5t#S256" Codec.text) .nil

def codec : Codec Unit :=
  .record fields (fun _ ↦ ())
    (fun () ↦ (none, (), none, none, none, none, none, none, none, none, ()))

end DeviceSync.Credential.Header
