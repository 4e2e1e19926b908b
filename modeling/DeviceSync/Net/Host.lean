import DeviceSync.Net.Address
import DeviceSync.Net.Domain
import DeviceSync.Net.Percent
import DeviceSync.Number.Power
import DeviceSync.Text.Utf8

/-!
# Hosts

The text between the slashes of an address that says which machine is meant: an address of either
version in its only spelling, a domain name in the form in which it is looked up, or, where the
scheme leaves that open, a text that is kept as it is.
-/

namespace DeviceSync

open Text

inductive HostError where
  | empty
  | badName
  | badCharacter
  | badV4
  | badV6
deriving DecidableEq

namespace Host

/-! ## Numeric hosts -/

/-- A part of an address of version 4: decimal, octal after a zero, or hexadecimal after `0x`. -/
def numberPart? (cs : List Char) : Option Nat :=
  match cs with
  | '0' :: x :: rest =>
    if x = 'x' ∨ x = 'X' then if rest = [] then some 0 else Hex.natural? rest
    else (x :: rest).foldlM (fun acc c ↦
      (digitValue? c).bind fun d ↦ if d < 8 then some (8 * acc + d) else none) 0
  | _ => natural? cs

/-- The parts of a name; one empty part at the end does not count. -/
def nameParts (cs : List Char) : List (List Char) :=
  match (splitAll '.' cs).reverse with
  | [] :: part :: parts => (part :: parts).reverse
  | parts => parts.reverse

/-- Whether a name can only be an address of version 4. -/
def endsInNumber (cs : List Char) : Bool :=
  match (nameParts cs).getLast? with
  | some last => last ≠ [] && (last.all isDigit || (numberPart? last).isSome)
  | none => false

/-- The number of an address with at most four parts, of which the last fills what is left. -/
def v4? (cs : List Char) : Option Nat := do
  let parts ← (nameParts cs).mapM numberPart?
  let last ← parts.getLast?
  let front := parts.dropLast
  if 3 < front.length ∨ twoTo (8 * (4 - front.length)) ≤ last ∨ front.any (256 ≤ ·) then none
  else return front.foldl (fun acc n ↦ 256 * acc + n) 0 * twoTo (8 * (4 - front.length)) + last

/-- An address of version 6, from behind its opening bracket. -/
def ofBracketed (cs : List Char) : Except HostError (List Char) :=
  match cs.reverse with
  | ']' :: inner =>
    match Address.allGroups? inner.reverse with
    | some groups => .ok ('[' :: Address.groupsText groups ++ [']'])
    | none => .error .badV6
  | _ => .error .badV6

/-! ## Named hosts -/

/-- The host that a domain name stands for. -/
def ofName (name : List Char) : Except HostError (List Char) :=
  match Domain.ofText? name with
  | none => .error .badName
  | some name =>
    if name = [] then .error .empty
    else if endsInNumber name then
      match v4? name with
      | some n => .ok (Address.dotted n)
      | none => .error .badV4
    else .ok name

/-- The host of a scheme under which names are domain names. -/
def ofText (cs : List Char) : Except HostError (List Char) :=
  match cs with
  | '[' :: rest => ofBracketed rest
  | _ =>
    match ofOctets? (Percent.decode cs) with
    | some name => ofName name.toList
    | none => .error .badName

/-- What may not stand in a host that is kept as it is. -/
def isForbidden (c : Char) : Bool :=
  c ∈ "\x00\x09\x0a\x0d #/:<>?@[\\]^|".toList

/-- The host of any other scheme. -/
def ofOpaque (cs : List Char) : Except HostError (List Char) :=
  match cs with
  | '[' :: rest => ofBracketed rest
  | _ => if cs.any isForbidden then .error .badCharacter else .ok (Percent.escape [] cs)

end Host

end DeviceSync
