import DeviceSync.Bytes.Base64
import DeviceSync.Credential.Error
import DeviceSync.Text.Blank

/-!
# Public Keys

A device presents its public key as base64 in any of four encodings, bare or inside a PEM block.
The encodings overlap only where they mean the same bytes, so it does not matter which is tried
first. Inside a PEM block blanks may stand anywhere, outside only at the ends.
-/

namespace DeviceSync.Credential.PublicKey

open Text

def pemBegin : List Char := "-----BEGIN PUBLIC KEY-----".toList
def pemEnd : List Char := "-----END PUBLIC KEY-----".toList

/-- The encodings in which a key may be written. -/
def encodings : List Base64 :=
  [.standard, .standardBare, .urlSafe, .urlSafeBare]

/-- What precedes `tail` at the end of a text, if the text ends with it. -/
def beforeTail (tail cs : List Char) : Option (List Char) :=
  (afterLead tail.reverse cs.reverse).map List.reverse

/-- The part of a trimmed text that should be base64. -/
def body (cs : List Char) : Except Defect (List Char) :=
  match afterLead pemBegin cs with
  | none => .ok cs
  | some rest =>
    match beforeTail pemEnd rest with
    | some inner => .ok (squeeze inner)
    | none => .error .unterminatedKey

/-- The bytes of a key, with the encodings that are tried in turn. -/
def decodeWith (order : List Base64) (s : String) : Except Defect (List UInt8) := do
  let cs := trim s.toList
  if cs = [] then throw .emptyKey
  let cs ← body cs
  match order.findSome? fun e ↦ e.decode? cs with
  | none => throw .undecodableKey
  | some bytes =>
    if minKeyLength ≤ bytes.length ∧ bytes.length ≤ maxKeyLength then return bytes
    else throw (.keyLength bytes.length)

/-- The bytes of a key. -/
def decode (s : String) : Except Defect (List UInt8) :=
  decodeWith encodings s

end DeviceSync.Credential.PublicKey
