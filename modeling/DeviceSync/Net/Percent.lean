import DeviceSync.Bytes.Hex
import DeviceSync.Text.Utf8

/-!
# Percent-Encoding

Octets as percent signs with two hexadecimal digits, for what may not stand in an address as it is.
-/

namespace DeviceSync.Percent

open Text

def encodeOctet (b : UInt8) : List Char :=
  ['%', (Hex.digit (b.toNat / 16)).toUpper, (Hex.digit (b.toNat % 16)).toUpper]

/-- Encode the characters outside ASCII, the control characters and the given ones. -/
def escape (unsafeChars : List Char) (cs : List Char) : List Char :=
  cs.flatMap fun c ↦
    if c.toNat < 0x20 ∨ 0x7F ≤ c.toNat ∨ c ∈ unsafeChars then
      (octets c.toString).flatMap encodeOctet
    else [c]

/-- The octets of a text in which percent signs are resolved where two digits follow. -/
def decode : List Char → List UInt8
  | '%' :: hi :: lo :: rest =>
    match Hex.nibble? hi, Hex.nibble? lo with
    | some h, some l => UInt8.ofNat (16 * h + l) :: decode rest
    | _, _ => 0x25 :: decode (hi :: lo :: rest)
  | c :: rest => octets c.toString ++ decode rest
  | [] => []

end DeviceSync.Percent
