import DeviceSync.Bytes.Hex
import DeviceSync.Json.Value
import DeviceSync.Number.Shortest

/-!
# JSON Text

The compact text of a value: no blanks, and in a string only the quote, the backslash and the
control characters are escaped.
-/

namespace DeviceSync.Json

open Text

/-- A character inside a string. -/
def escape (c : Char) : List Char :=
  if c = '"' then ['\\', '"']
  else if c = '\\' then ['\\', '\\']
  else if 0x20 ≤ c.toNat then [c]
  else if c.toNat = 0x08 then ['\\', 'b']
  else if c.toNat = 0x0C then ['\\', 'f']
  else if c.toNat = 0x0A then ['\\', 'n']
  else if c.toNat = 0x0D then ['\\', 'r']
  else if c.toNat = 0x09 then ['\\', 't']
  else ['\\', 'u', '0', '0', Hex.digit (c.toNat / 16), Hex.digit (c.toNat % 16)]

def quote (s : String) : List Char :=
  '"' :: s.toList.flatMap escape ++ ['"']

/-- The text of a number; JSON has no name for what is not finite. -/
def numberText : Number → List Char
  | .integer i => integerDigits i
  | .real (.finite negative m e) => (Binary64.finite negative m e).scientific
  | .real _ => "null".toList

mutual

def write : Json → List Char
  | null => "null".toList
  | bool true => "true".toList
  | bool false => "false".toList
  | number n => numberText n
  | text s => quote s
  | array [] => ['[', ']']
  | array (item :: items) => '[' :: write item ++ writeItems items
  | object [] => ['\x7b', '\x7d']
  | object ((key, value) :: members) =>
    '\x7b' :: quote key ++ ':' :: write value ++ writeMembers members

/-- The items after the first one and the closing bracket. -/
def writeItems : List Json → List Char
  | [] => [']']
  | item :: items => ',' :: write item ++ writeItems items

/-- The members after the first one and the closing brace. -/
def writeMembers : List (String × Json) → List Char
  | [] => ['\x7d']
  | (key, value) :: members => ',' :: quote key ++ ':' :: write value ++ writeMembers members

end

/-- The compact text of a value. -/
def compact (v : Json) : String :=
  String.ofList v.write

end DeviceSync.Json
