import DeviceSync.Bytes.Hex
import DeviceSync.Text.Blank

/-!
# Sets of Characters

Sets of characters as closed ranges of code points. Larger sets are written as text: hexadecimal
code points and ranges with a hyphen, between blanks or line ends.
-/

namespace DeviceSync

open Text

/-- A set of characters, as closed ranges of code points. -/
structure CharSet where
  ranges : List (Nat × Nat)

namespace CharSet

def containsPoint (set : CharSet) (n : Nat) : Bool :=
  set.ranges.any fun range ↦ range.1 ≤ n && n ≤ range.2

def contains (set : CharSet) (c : Char) : Bool :=
  set.containsPoint c.toNat

/-! ## Reading -/

/-- The words of a text that is written in lines. -/
def words (cs : List Char) : List (List Char) :=
  ((splitAll '\n' cs).flatMap (splitAll ' ')).filter (· ≠ [])

/-- A code point, or two of them with a hyphen between. -/
def range? (cs : List Char) : Option (Nat × Nat) := do
  let (first, last) := (cutFirst '-' cs).getD (cs, cs)
  return (← Hex.natural? first, ← Hex.natural? last)

def ofText (s : String) : CharSet :=
  ⟨(words s.toList).filterMap range?⟩

end CharSet

end DeviceSync
