/-!
# Base64

The four encodings of bytes that keys, secrets, payloads and tokens use: two alphabets, each with
or without padding. Decoding accepts exactly what encoding writes, so a byte string has one text in
each encoding: no blanks, padding exactly where it belongs, and no stray bits behind the last byte.
-/

namespace DeviceSync

/-- How bytes are written: which symbols stand for 62 and 63, and whether the last group is
filled up with `=`. -/
structure Base64 where
  symbol62 : Char
  symbol63 : Char
  padded : Bool
deriving DecidableEq

namespace Base64

def standard : Base64 := ⟨'+', '/', true⟩
def standardBare : Base64 := ⟨'+', '/', false⟩
def urlSafe : Base64 := ⟨'-', '_', true⟩
def urlSafeBare : Base64 := ⟨'-', '_', false⟩

/-- The symbol of a number below 64. -/
def symbol (e : Base64) (n : Nat) : Char :=
  if n < 26 then Char.ofNat (65 + n)
  else if n < 52 then Char.ofNat (71 + n)
  else if n < 62 then Char.ofNat (n - 4)
  else if n = 62 then e.symbol62
  else e.symbol63

/-- The number that a symbol stands for. -/
def value? (e : Base64) (c : Char) : Option Nat :=
  if 'A' ≤ c ∧ c ≤ 'Z' then some (c.toNat - 65)
  else if 'a' ≤ c ∧ c ≤ 'z' then some (c.toNat - 71)
  else if '0' ≤ c ∧ c ≤ '9' then some (c.toNat + 4)
  else if c = e.symbol62 then some 62
  else if c = e.symbol63 then some 63
  else none

/-! ## Writing -/

/-- The padding of a last group that lacks `n` symbols. -/
def fill (e : Base64) (n : Nat) : List Char :=
  if e.padded then List.replicate n '=' else []

/-- Four symbols for three bytes; a shorter last group takes as many as its bits need. -/
def encode (e : Base64) : List UInt8 → List Char
  | [] => []
  | [a] => [e.symbol (a.toNat / 4), e.symbol (a.toNat % 4 * 16)] ++ e.fill 2
  | [a, b] =>
    [e.symbol (a.toNat / 4), e.symbol (a.toNat % 4 * 16 + b.toNat / 16),
      e.symbol (b.toNat % 16 * 4)] ++ e.fill 1
  | a :: b :: c :: rest =>
    e.symbol (a.toNat / 4) :: e.symbol (a.toNat % 4 * 16 + b.toNat / 16) ::
      e.symbol (b.toNat % 16 * 4 + c.toNat / 64) :: e.symbol (c.toNat % 64) :: e.encode rest

/-! ## Reading -/

/-- The byte of a last group of two symbols, whose four spare bits are zero. -/
def oneByte? (e : Base64) (c₁ c₂ : Char) : Option (List UInt8) := do
  let n₁ ← e.value? c₁
  let n₂ ← e.value? c₂
  if n₂ % 16 = 0 then some [UInt8.ofNat (n₁ * 4 + n₂ / 16)] else none

/-- The bytes of a last group of three symbols, whose two spare bits are zero. -/
def twoBytes? (e : Base64) (c₁ c₂ c₃ : Char) : Option (List UInt8) := do
  let n₁ ← e.value? c₁
  let n₂ ← e.value? c₂
  let n₃ ← e.value? c₃
  if n₃ % 4 = 0 then
    some [UInt8.ofNat (n₁ * 4 + n₂ / 16), UInt8.ofNat (n₂ % 16 * 16 + n₃ / 4)]
  else none

/-- The bytes of a full group. -/
def threeBytes? (e : Base64) (c₁ c₂ c₃ c₄ : Char) : Option (List UInt8) := do
  let n₁ ← e.value? c₁
  let n₂ ← e.value? c₂
  let n₃ ← e.value? c₃
  let n₄ ← e.value? c₄
  return [UInt8.ofNat (n₁ * 4 + n₂ / 16), UInt8.ofNat (n₂ % 16 * 16 + n₃ / 4),
    UInt8.ofNat (n₃ % 4 * 64 + n₄)]

/-- The bytes of a group of four that is the last one and ends in `=`. -/
def paddedGroup? (e : Base64) (c₁ c₂ c₃ : Char) : Option (List UInt8) :=
  if e.padded then if c₃ = '=' then e.oneByte? c₁ c₂ else e.twoBytes? c₁ c₂ c₃ else none

/-- The bytes that a text encodes. -/
def decode? (e : Base64) : List Char → Option (List UInt8)
  | [] => some []
  | [_] => none
  | [c₁, c₂] => if e.padded then none else e.oneByte? c₁ c₂
  | [c₁, c₂, c₃] => if e.padded then none else e.twoBytes? c₁ c₂ c₃
  | c₁ :: c₂ :: c₃ :: c₄ :: rest =>
    if c₄ = '=' ∧ rest = [] then e.paddedGroup? c₁ c₂ c₃
    else do
      let bytes ← e.threeBytes? c₁ c₂ c₃ c₄
      let others ← e.decode? rest
      return bytes ++ others

/-- The text of bytes. -/
def text (e : Base64) (bytes : List UInt8) : String :=
  String.ofList (e.encode bytes)

/-- The bytes of a text. -/
def ofText? (e : Base64) (s : String) : Option (List UInt8) :=
  e.decode? s.toList

end Base64

end DeviceSync
