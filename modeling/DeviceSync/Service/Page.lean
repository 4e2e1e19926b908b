import DeviceSync.Bytes.Base64
import DeviceSync.Number.Power
import DeviceSync.Text.Decimal
import DeviceSync.Text.Utf8

/-!
# Pages

A long list is handed out page by page. Where the next page starts is told by a token, which is the
offset in the list as decimal text in unpadded URL-safe base64. A token names an offset and nothing
else: it is read against the list as it is when it comes back.
-/

namespace DeviceSync

/-- A part of a list, and where the next part starts if this is not the last one. -/
structure Page (α : Type) where
  items : List α
  next : Option Nat

namespace Page

variable {α : Type}

/-- The sum of two words of 64 bits, or the greatest word if the sum is not one. -/
def cappedSum (a b : Nat) : Nat :=
  min (a + b) (twoTo 64 - 1)

/-- The items from one place up to another, if the places are in order and within the list. -/
def between? (start stop : Nat) (xs : List α) : Option (List α) :=
  if start ≤ stop ∧ stop ≤ xs.length then some ((xs.take stop).drop start) else none

/-- The page of at most `size` items that starts at an offset. Places are words, and an offset may
be any word, also one far behind the end of the list. -/
def ofList (size offset : Nat) (xs : List α) : Page α :=
  let stop := min (cappedSum offset size) xs.length
  ⟨(between? offset stop xs).getD [], if stop < xs.length then some stop else none⟩

/-! ## Tokens -/

def token (offset : Nat) : String :=
  Base64.urlSafeBare.text (Text.octets (String.ofList (Text.digits offset)))

/-- The offset of a token. The number may have a plus sign and zeros in front, and has at most 64
bits. -/
def offset? (token : String) : Option Nat := do
  let bytes ← Base64.urlSafeBare.ofText? token
  let s ← Text.ofOctets? bytes
  Text.unsigned? (twoTo 64) s.toList

end Page

end DeviceSync
