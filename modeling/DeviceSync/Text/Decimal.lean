import DeviceSync.Number.Power

/-!
# Decimal Digits

Natural numbers and integers in decimal notation. Reading is strict: ASCII digits only, at least
one of them. Where a sign may stand in front of a number is said by the reader that allows it.
-/

namespace DeviceSync.Text

/-- The value of an ASCII digit. -/
def digitValue? (c : Char) : Option Nat :=
  if '0' ≤ c ∧ c ≤ '9' then some (c.toNat - 48) else none

/-- Whether a character is an ASCII digit. -/
def isDigit (c : Char) : Bool :=
  (digitValue? c).isSome

/-- The digit that stands for a number below ten. -/
def digitChar (n : Nat) : Char :=
  Char.ofNat (48 + n)

/-- The decimal digits of a number, without leading zeros. -/
def digits (n : Nat) : List Char :=
  if n < 10 then [digitChar n] else digits (n / 10) ++ [digitChar (n % 10)]
termination_by n

/-- The number that a run of digits denotes, continuing from the digits already read. -/
def foldDigits : Nat → List Char → Option Nat
  | acc, [] => some acc
  | acc, c :: rest => (digitValue? c).bind fun d ↦ foldDigits (10 * acc + d) rest

/-- The number written by a text of one or more digits. -/
def natural? : List Char → Option Nat
  | [] => none
  | cs => foldDigits 0 cs

/-- A number below `bound`, with an optional plus sign in front. -/
def unsigned? (bound : Nat) (cs : List Char) : Option Nat :=
  let body := match cs with
    | '+' :: rest => rest
    | _ => cs
  (natural? body).filter (· < bound)

/-- An integer of 64 bits in two's complement, with an optional sign in front. -/
def signed64? (cs : List Char) : Option Int :=
  let read := match cs with
    | '-' :: rest => (natural? rest).map fun n ↦ -(n : Int)
    | '+' :: rest => (natural? rest).map Int.ofNat
    | _ => (natural? cs).map Int.ofNat
  read.filter fun i ↦ decide (-(twoTo 63 : Int) ≤ i ∧ i < twoTo 63)

/-- The decimal notation of an integer. -/
def integerDigits : Int → List Char
  | .ofNat n => digits n
  | .negSucc n => '-' :: digits (n + 1)

/-- The last `width` digits of a number, with zeros in front where it has fewer. -/
def padded : Nat → Nat → List Char
  | 0, _ => []
  | width + 1, n => padded width (n / 10) ++ [digitChar (n % 10)]

end DeviceSync.Text
