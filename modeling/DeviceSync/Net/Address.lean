import DeviceSync.Bytes.Hex
import DeviceSync.Text.Blank
import DeviceSync.Text.Decimal

/-!
# Internet Addresses

Addresses of both versions, as numbers. An address of the new version that embeds one of the old
is a different address.
-/

namespace DeviceSync

inductive Address where
  /-- An address of 32 bits. -/
  | v4 (n : Nat)
  /-- An address of 128 bits. -/
  | v6 (n : Nat)
deriving DecidableEq, Hashable

namespace Address

open Text

/-! ## Version 4 -/

/-- A part of a dotted address: one to three digits, without a leading zero. -/
def octet? (cs : List Char) : Option Nat :=
  if 1 < cs.length ∧ cs.head? = some '0' then none else (natural? cs).filter (· < 256)

/-- The number of a dotted address. -/
def dotted? (cs : List Char) : Option Nat := do
  let parts ← (splitAll '.' cs).mapM octet?
  if parts.length = 4 then return parts.foldl (fun acc n ↦ 256 * acc + n) 0 else none

def dotted (n : Nat) : List Char :=
  digits (n / 16777216 % 256) ++ '.' :: digits (n / 65536 % 256) ++
    '.' :: digits (n / 256 % 256) ++ '.' :: digits (n % 256)

/-! ## Version 6 -/

/-- A group of one to four hexadecimal digits. -/
def group? (cs : List Char) : Option Nat :=
  if cs.length ≤ 4 then Hex.natural? cs else none

/-- The groups between colons. The last one may be written as a dotted address, which counts as
two groups. -/
def groups? (allowDotted : Bool) : List (List Char) → Option (List Nat)
  | [] => some []
  | [last] =>
    match group? last with
    | some n => some [n]
    | none =>
      if allowDotted then (dotted? last).map fun n ↦ [n / 65536, n % 65536] else none
  | cs :: rest => do
    let n ← group? cs
    let others ← groups? allowDotted rest
    return n :: others

/-- The groups of a text that may be empty. -/
def groupsOf? (allowDotted : Bool) (cs : List Char) : Option (List Nat) :=
  if cs = [] then some [] else groups? allowDotted (splitAll ':' cs)

/-- The text before and after the first double colon. -/
def cutGap : List Char → Option (List Char × List Char)
  | ':' :: ':' :: rest => some ([], rest)
  | c :: rest => (cutGap rest).map fun (before, after) ↦ (c :: before, after)
  | [] => none

/-- The eight groups of an address; a double colon stands for one or more groups of zeros. -/
def allGroups? (cs : List Char) : Option (List Nat) :=
  match cutGap cs with
  | none => (groupsOf? true cs).filter fun groups ↦ groups.length = 8
  | some (before, after) => do
    let front ← groupsOf? false before
    let back ← groupsOf? true after
    let size := front.length + back.length
    if size < 8 then return front ++ List.replicate (8 - size) 0 ++ back else none

def ofGroups (groups : List Nat) : Nat :=
  groups.foldl (fun acc n ↦ 65536 * acc + n) 0

/-- Hexadecimal digits of a group, without leading zeros. -/
def groupText (n : Nat) : List Char :=
  match [n / 4096 % 16, n / 256 % 16, n / 16 % 16, n % 16].dropWhile (· = 0) with
  | [] => ['0']
  | ds => ds.map Hex.digit

/-- How many zeros a list starts with. -/
def zerosAhead (groups : List Nat) : Nat :=
  (groups.takeWhile (· = 0)).length

/-- Where the first of the longest runs of zeros starts, and how long it is. -/
def longestGap (groups : List Nat) : Nat × Nat :=
  (List.range groups.length).foldl (fun best i ↦
    let run := zerosAhead (groups.drop i)
    if best.2 < run then (i, run) else best) (0, 0)

def joinGroups (groups : List Nat) : List Char :=
  [':'].intercalate (groups.map groupText)

/-- The groups as text, where the longest run of at least two zeros becomes a double colon. -/
def groupsText (groups : List Nat) : List Char :=
  let (start, run) := longestGap groups
  if run < 2 then joinGroups groups
  else joinGroups (groups.take start) ++ "::".toList ++ joinGroups (groups.drop (start + run))

/-! ## Peers -/

/-- The address at the front of a text that ends with a port. -/
def ofSocket? (s : String) : Option Address := do
  let (host, port) ← cutLast ':' s.toList
  let _ ← (natural? port).filter (· < 65536)
  match host with
  | '[' :: rest =>
    match rest.reverse with
    | ']' :: inner =>
      let inner := inner.reverse.takeWhile (· ≠ '%')
      (allGroups? inner).map fun groups ↦ v6 (ofGroups groups)
    | _ => none
  | _ => (dotted? host).map v4

end Address

end DeviceSync
