import DeviceSync.Net.Domain.Direction
import DeviceSync.Net.Domain.Joining
import DeviceSync.Net.Domain.Mapping
import DeviceSync.Net.Punycode

/-!
# Domain Names

Names of hosts in the form in which they are looked up: small ASCII letters, with labels of other
characters encoded. Names that are written differently but count as the same get the same form, and
names that could be mistaken for others are refused.
-/

namespace DeviceSync.Domain

open Text

/-- The ASCII characters that no name may hold. -/
def isForbidden (c : Char) : Bool :=
  c.toNat ≤ 0x20 || c.toNat = 0x7F || c ∈ "#/:<>?@[\\]^|%".toList

/-! ## Labels -/

/-- A label as it is looked up and as it is shown. -/
structure Label where
  ascii : List Char
  shown : List Char

namespace Label

/-- What an encoded label starts with. -/
def lead : List Char := "xn--".toList

/-- How long a label may be that is decoded, and one that is encoded: the work grows with the
square of the length. -/
def maxEncoded : Nat := 2000
def maxShown : Nat := 1000

/-- Whether a text can be the encoding of something beyond ASCII. -/
def isEncoding (cs : List Char) : Bool :=
  cs.all Punycode.isAscii && cs.getLast?.any (· ≠ '-') && cs.length ≤ maxEncoded

/-- The label that an encoded one stands for. What it shows must be in the only form that has an
encoding. -/
def ofEncoded? (cs encoded : List Char) : Option Label := do
  let shown ← if isEncoding encoded then Punycode.decode? encoded else none
  if Composition.compose shown = shown ∧ shown.all isSettled then return ⟨cs, shown⟩ else none

/-- The label of a text that has been mapped and composed. -/
def ofMapped? (cs : List Char) : Option Label :=
  match afterLead lead cs with
  | some encoded => ofEncoded? cs encoded
  | none => some ⟨if cs.all Punycode.isAscii then cs else lead ++ Punycode.encode cs, cs⟩

/-- The label of a text, if its characters may stand beside each other. -/
def ofText? (cs : List Char) : Option Label :=
  (ofMapped? cs).filter fun label ↦
    isCoherent label.shown && (label.shown.all Punycode.isAscii || label.shown.length ≤ maxShown)

end Label

/-! ## Names -/

/-- The characters of a name after mapping and composition. -/
def normalized? (cs : List Char) : Option (List Char) :=
  (cs.mapM mapped?).map fun parts ↦ Composition.compose parts.flatten

/-- Whether the directions in a name are in order. -/
def isOrderly (labels : List Label) : Bool :=
  !labels.any (fun label ↦ label.shown.any fun c ↦ (Direction.ofChar c).isRight) ||
    labels.all fun label ↦ Direction.isOrderly label.shown

/-- The form of a name in which it is looked up. -/
def ofText? (cs : List Char) : Option (List Char) := do
  let name ← normalized? cs
  if name.any isForbidden then none
  else
    let labels ← (splitAll '.' name).mapM Label.ofText?
    if isOrderly labels then return ['.'].intercalate (labels.map (·.ascii)) else none

end DeviceSync.Domain
