/-!
# Text as Octets

The UTF-8 octets of a text, the exact way back, and the forgiving way back that puts U+FFFD where
the octets are not UTF-8. The forgiving decoder replaces each maximal part of a character at once:
octets that could still begin a character are dropped together with one mark for all of them.
-/

namespace DeviceSync.Text

/-- The UTF-8 octets of a text. -/
def octets (s : String) : List UInt8 :=
  s.toUTF8.data.toList

/-- The text that the octets encode, if they are UTF-8. -/
def ofOctets? (bytes : List UInt8) : Option String :=
  String.fromUTF8? ⟨bytes.toArray⟩

theorem ofOctets?_octets (s : String) : ofOctets? (octets s) = some s := by
  have h : (⟨s.toUTF8.data.toList.toArray⟩ : ByteArray) = s.toByteArray := by
    simp [String.toUTF8]
  simp only [ofOctets?, octets, h, String.fromUTF8?, s.isValidUTF8, dite_true]
  rfl

/-- Only the octets of a text are read as that text. -/
theorem octets_of_ofOctets? {bytes : List UInt8} {s : String} (h : ofOctets? bytes = some s) :
    octets s = bytes := by
  unfold ofOctets? String.fromUTF8? at h
  split at h
  next =>
    cases h
    rfl
  next => exact nomatch h

/-! ## Forgiving decoding -/

/-- A character of which the first octets have been read: the bits so far, how many octets are
still owed, and the least and greatest that the next one may be. -/
structure Pending where
  bits : Nat
  owed : Nat
  least : Nat
  greatest : Nat

/-- What the first octet of a character of several octets announces. -/
def Pending.ofLead? (b : Nat) : Option Pending :=
  if 0xC2 ≤ b ∧ b ≤ 0xDF then some ⟨b - 0xC0, 1, 0x80, 0xBF⟩
  else if b = 0xE0 then some ⟨0, 2, 0xA0, 0xBF⟩
  else if b = 0xED then some ⟨0xD, 2, 0x80, 0x9F⟩
  else if 0xE1 ≤ b ∧ b ≤ 0xEF then some ⟨b - 0xE0, 2, 0x80, 0xBF⟩
  else if b = 0xF0 then some ⟨0, 3, 0x90, 0xBF⟩
  else if 0xF1 ≤ b ∧ b ≤ 0xF3 then some ⟨b - 0xF0, 3, 0x80, 0xBF⟩
  else if b = 0xF4 then some ⟨4, 3, 0x80, 0x8F⟩
  else none

/-- The mark that stands for octets that are not UTF-8. -/
def replacement : Char := '\uFFFD'

/-- One octet between characters: what it writes at once, and the character it begins. -/
def decodeFirst (b : Nat) : List Char × Option Pending :=
  if b < 0x80 then ([Char.ofNat b], none)
  else match Pending.ofLead? b with
    | some p => ([], some p)
    | none => ([replacement], none)

/-- One octet after the octets of `pending`. -/
def decodeNext (pending : Option Pending) (b : Nat) : List Char × Option Pending :=
  match pending with
  | none => decodeFirst b
  | some p =>
    if p.least ≤ b ∧ b ≤ p.greatest then
      let bits := p.bits * 64 + (b - 0x80)
      if p.owed ≤ 1 then ([Char.ofNat bits], none) else ([], some ⟨bits, p.owed - 1, 0x80, 0xBF⟩)
    else
      let (written, next) := decodeFirst b
      (replacement :: written, next)

/-- Decode the octets that follow those of `pending`. -/
def decodeFrom (pending : Option Pending) : List UInt8 → List Char
  | [] => if pending.isSome then [replacement] else []
  | b :: rest =>
    let (written, next) := decodeNext pending b.toNat
    written ++ decodeFrom next rest

/-- The text of the octets, with U+FFFD for each part that is not UTF-8. -/
def ofOctetsLossy (bytes : List UInt8) : String :=
  String.ofList (decodeFrom none bytes)

end DeviceSync.Text
