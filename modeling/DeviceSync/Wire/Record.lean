import DeviceSync.Wire.Codec

/-!
# Records

Structures on the wire, described by the list of their fields. A record is written as an object
with its fields in order. It is read from an object, in which other keys are skipped and no field
may occur twice, or from an array of its fields in order.

What a missing field means is said field by field: in an object a field may have a value of its own
for that, and in an array that ends early it may have one too.
-/

namespace DeviceSync

open Json (Document Fault Closing)

/-- A field: its key, its codec, and what it is when an object leaves it out or an array ends
before it. -/
structure Field (α : Type) where
  name : String
  codec : Codec α
  ifAbsent : Option α
  ifShort : Option α

namespace Field

/-- A field that must be there. -/
def required {α : Type} (name : String) (c : Codec α) : Field α :=
  ⟨name, c, none, none⟩

/-- A field that may be null, and that an object may leave out. -/
def nullable {α : Type} (name : String) (c : Codec α) : Field (Option α) :=
  ⟨name, c.optional, some none, none⟩

/-- A field that has a value when it is left out, wherever that is. -/
def defaulted {α : Type} (name : String) (c : Codec α) (x : α) : Field α :=
  ⟨name, c, some x, some x⟩

end Field

/-- The fields of a record whose content is the given product of types. -/
inductive Fields : Type → Type 1 where
  | nil : Fields Unit
  | cons {α β : Type} (field : Field α) (others : Fields β) : Fields (α × β)

namespace Fields

def encode {τ : Type} : Fields τ → τ → List (String × Json)
  | nil, () => []
  | cons field others, (x, xs) => (field.name, field.codec.encode x) :: others.encode xs

/-- The keys of the fields. -/
def names {τ : Type} : Fields τ → List String
  | nil => []
  | cons field others => field.name :: others.names

/-- For each field the value found so far. -/
def Slots {τ : Type} : Fields τ → Type
  | nil => Unit
  | @cons α _ _ others => Option α × Slots others

def emptySlots {τ : Type} : (fields : Fields τ) → fields.Slots
  | nil => ()
  | cons _ others => (none, others.emptySlots)

/-- Put the value of one member into its slot; the answer is empty if no field has this key. -/
def place {τ : Type} (room : Nat) (key : String) (value : Document) :
    (fields : Fields τ) → fields.Slots → Except Fault (Option fields.Slots)
  | nil, _ => .ok none
  | @cons α _ field others, slots =>
    let slots : Option α × others.Slots := slots
    if field.name = key then
      match slots.1 with
      | some _ => .error .unexpected
      | none => do
        let x ← field.codec.decode room value
        return some (some x, slots.2)
    else do
      let found ← others.place room key value slots.2
      return found.map fun rest ↦ (slots.1, rest)

/-- Go through the members of an object. -/
def placeAll {τ : Type} (room : Nat) (fields : Fields τ) :
    fields.Slots → List (Option String × Document) → Except Fault fields.Slots
  | slots, [] => .ok slots
  | _, (none, _) :: _ => .error .malformed
  | slots, (some key, value) :: members => do
    match ← fields.place room key value slots with
    | some slots => fields.placeAll room slots members
    | none => if value.intact then fields.placeAll room slots members else throw .malformed

/-- The content of the record, once all members have been seen. -/
def finish {τ : Type} : (fields : Fields τ) → fields.Slots → Except Fault τ
  | nil, _ => .ok ()
  | @cons α _ field others, slots => do
    let slots : Option α × others.Slots := slots
    let x ← match slots.1 <|> field.ifAbsent with
      | some x => .ok x
      | none => .error .unexpected
    let xs ← others.finish slots.2
    return (x, xs)

/-- The content of a record written as an array. -/
def decodeItems {τ : Type} (room : Nat) (closing : Closing) :
    Fields τ → List Document → Except Fault τ
  | nil, [] => closing.check
  | nil, _ :: _ => .error .malformed
  | cons field others, [] =>
    match closing, field.ifShort with
    | .cut, _ => .error .malformed
    | .closed, none => .error .unexpected
    | .closed, some x => do
      let xs ← others.decodeItems room closing []
      return (x, xs)
  | cons field others, item :: items => do
    let x ← field.codec.decode room item
    let xs ← others.decodeItems room closing items
    return (x, xs)

/-- The content of a record written as an object. -/
def decodeMembers {τ : Type} (room : Nat) (fields : Fields τ)
    (members : List (Option String × Document)) (closing : Closing) : Except Fault τ := do
  let slots ← fields.placeAll room fields.emptySlots members
  closing.check
  fields.finish slots

end Fields

/-- The codec of a structure with the given fields. -/
def Codec.record {α τ : Type} (fields : Fields τ) (make : τ → α) (parts : α → τ) : Codec α where
  encode x := .object (fields.encode (parts x))
  decode
    | 0, .array _ _ => .error .malformed
    | 0, .object _ _ => .error .malformed
    | room + 1, .array items closing => (fields.decodeItems room closing items).map make
    | room + 1, .object members closing => (fields.decodeMembers room members closing).map make
    | _, d => .error d.mismatch

end DeviceSync
