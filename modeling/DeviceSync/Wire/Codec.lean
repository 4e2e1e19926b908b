import DeviceSync.Bytes.Base64
import DeviceSync.Json.Document
import DeviceSync.Json.Printer
import DeviceSync.Number.Power
import DeviceSync.Time.Text

/-!
# Codecs

How values of a type are written as JSON and read from a document. A reader is told how many more
arrays and objects may be opened, and reports the first fault it meets from left to right.

A value of the wrong kind is an unexpected one, unless it is a string or a number that stands for
nothing: then the text itself is at fault.
-/

namespace DeviceSync

open Json (Document Fault)

/-- A way of writing values as JSON and of reading them back. -/
structure Codec (α : Type) where
  encode : α → Json
  decode : (room : Nat) → Document → Except Fault α

/-- The fault of a document where a value of another kind was expected. An array or object is
refused as soon as it is opened. -/
def Json.Document.mismatch : Document → Fault
  | broken => .malformed
  | number (.error _) => .malformed
  | text (.error _) => .malformed
  | _ => .unexpected

namespace Codec

/-! ## Scalars -/

/-- Any JSON value, kept as it is. -/
def opaqueValue : Codec Json where
  encode v := v
  decode room d := d.toJson room

def text : Codec String where
  encode s := .text s
  decode
    | _, .text (.ok s) => .ok s
    | _, d => .error d.mismatch

def bool : Codec Bool where
  encode b := .bool b
  decode
    | _, .bool b => .ok b
    | _, d => .error d.mismatch

/-- Integers from `least` up to but not including `limit`. -/
def integerIn (least limit : Int) : Codec Int where
  encode i := .number (.integer i)
  decode
    | _, .number (.ok (.integer i)) =>
      if least ≤ i ∧ i < limit then .ok i else .error .unexpected
    | _, d => .error d.mismatch

/-- Integers of 64 bits in two's complement. -/
def signed64 : Codec Int := integerIn (-(twoTo 63)) (twoTo 63)

/-- Natural numbers of the given number of bits. -/
def unsigned (bits : Nat) : Codec Nat where
  encode n := .natural n
  decode room d := ((integerIn 0 (twoTo bits)).decode room d).map Int.toNat

/-- A value written as text, with a reader that may refuse the text. -/
def written {α : Type} (write : α → String) (read? : String → Option α) : Codec α where
  encode x := .text (write x)
  decode room d := do
    let s ← text.decode room d
    match read? s with
    | some x => .ok x
    | none => .error .unexpected

def instant : Codec Instant := written Timestamp.text Timestamp.ofText?

/-- Bytes in padded base64 of the standard alphabet. -/
def bytes : Codec (List UInt8) := written Base64.standard.text Base64.standard.ofText?

/-! ## Names -/

/-- The value with a given name. -/
def ofName? {α : Type} (readName? : String → Option α) (s : String) : Except Fault α :=
  match readName? s with
  | some x => .ok x
  | none => .error .unexpected

/-- One of several named values: its name, or an object with the name as its only key and nothing
under it. Anything but a string or an object does not even count as text of the right kind. -/
def named {α : Type} (name : α → String) (readName? : String → Option α) : Codec α where
  encode x := .text (name x)
  decode
    | _, .text (.ok s) => ofName? readName? s
    | 0, .object _ _ => .error .malformed
    | _ + 1, .object ((some key, value) :: others) closing => do
      let x ← ofName? readName? key
      match value with
      | .null => pure ()
      | d => throw d.mismatch
      if others.isEmpty ∧ closing = .closed then return x else throw .malformed
    | _, _ => .error .malformed

/-! ## Combinations -/

/-- A value or null. -/
def optional {α : Type} (c : Codec α) : Codec (Option α) where
  encode
    | some x => c.encode x
    | none => .null
  decode
    | _, .null => .ok none
    | room, d => (c.decode room d).map some

def decodeItems {α : Type} (c : Codec α) (room : Nat) : List Document → Except Fault (List α)
  | [] => .ok []
  | item :: items => do
    let x ← c.decode room item
    let xs ← decodeItems c room items
    return x :: xs

def list {α : Type} (c : Codec α) : Codec (List α) where
  encode xs := .array (xs.map c.encode)
  decode
    | 0, .array _ _ => .error .malformed
    | room + 1, .array items closing => do
      let xs ← c.decodeItems room items
      closing.check
      return xs
    | _, d => .error d.mismatch

/-! ## Texts -/

/-- Read a whole document. Whatever stands behind it is a fault that comes last. -/
def ofDocument {α : Type} (c : Codec α) (d : Document) (complete : Bool) : Except Fault α := do
  let x ← c.decode Document.maxDepth d
  if complete then return x else throw .malformed

def ofText {α : Type} (c : Codec α) (s : String) : Except Fault α :=
  let (d, complete) := Document.ofText s
  c.ofDocument d complete

def ofOctets {α : Type} (c : Codec α) (bytes : List UInt8) : Except Fault α :=
  let (d, complete) := Document.ofOctets bytes
  c.ofDocument d complete

/-- Read a value that has been taken out of another document. -/
def ofJson {α : Type} (c : Codec α) (v : Json) : Except Fault α :=
  c.decode Document.maxDepth (.ofJson v)

def toText {α : Type} (c : Codec α) (x : α) : String :=
  (c.encode x).compact

end Codec

end DeviceSync
