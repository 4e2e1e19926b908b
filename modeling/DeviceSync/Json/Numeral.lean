import DeviceSync.Json.Value
import DeviceSync.Number.Power
import DeviceSync.Text.Decimal

/-!
# JSON Numerals

Numbers as they stand in a JSON text, and the value a reader takes them for. A numeral without
fraction and exponent that fits 64 bits is an integer. Any other is a floating point number, read
in two roundings: the leading digits, as many as fit 64 bits without sign, give a significand, and
that is multiplied or divided by a power of ten. A numeral too large for that has no value.

Where a reader gives up on a part of a text matters to one who goes on from there.
-/

namespace DeviceSync.Json

open Text

/-- Where a reader stands that gives up on a number or a string: right behind it, or still inside. -/
inductive Lapse where
  | behind
  | inside
deriving DecidableEq

/-- The parts of a numeral: digits before and after the point, and the exponent. -/
structure Numeral where
  negative : Bool
  whole : List Char
  fraction : List Char
  exponent : Option Int

namespace Numeral

/-! ## Scanning -/

/-- The digits of a fraction, if a point comes next; at least one must follow it. -/
def scanFraction (cs : List Char) : Option (List Char × List Char) :=
  match cs with
  | '.' :: rest =>
    let ds := rest.takeWhile isDigit
    if ds = [] then none else some (ds, rest.dropWhile isDigit)
  | _ => some ([], cs)

/-- An exponent, if its mark comes next; at least one digit must follow it. -/
def scanExponent (cs : List Char) : Option (Option Int × List Char) :=
  match cs with
  | c :: rest =>
    if c = 'e' ∨ c = 'E' then
      let (negative, rest) := match rest with
        | '-' :: rest => (true, rest)
        | '+' :: rest => (false, rest)
        | _ => (false, rest)
      (natural? (rest.takeWhile isDigit)).map fun n ↦
        (some (if negative then -(n : Int) else n), rest.dropWhile isDigit)
    else some (none, cs)
  | [] => some (none, cs)

/-- A minus sign at the front, if there is one, and what follows. -/
def cutMinus : List Char → Bool × List Char
  | '-' :: rest => (true, rest)
  | cs => (false, cs)

/-- The numeral at the front of a text. Its whole part has no leading zero unless it is zero. -/
def scan? (cs : List Char) : Option (Numeral × List Char) := do
  let (negative, cs) := cutMinus cs
  let whole := cs.takeWhile isDigit
  if whole = [] ∨ (whole.head? = some '0' ∧ 1 < whole.length) then none
  else
    let (fraction, rest) ← scanFraction (cs.dropWhile isDigit)
    let (exponent, rest) ← scanExponent rest
    return (⟨negative, whole, fraction, exponent⟩, rest)

theorem length_le_of_scanFraction {cs ds rest : List Char}
    (h : scanFraction cs = some (ds, rest)) : rest.length ≤ cs.length := by
  simp only [scanFraction] at h
  split at h
  next tail =>
    split at h
    · simp at h
    · simp only [Option.some.injEq, Prod.mk.injEq] at h
      have := (List.dropWhile_suffix isDigit (l := tail)).length_le
      simp only [← h.2, List.length_cons]
      omega
  next => simp_all

theorem length_le_of_scanExponent {cs rest : List Char} {e : Option Int}
    (h : scanExponent cs = some (e, rest)) : rest.length ≤ cs.length := by
  simp only [scanExponent] at h
  split at h
  next c tail =>
    split at h
    · simp only [Option.map_eq_some_iff, Prod.mk.injEq] at h
      obtain ⟨_, _, _, hrest⟩ := h
      rw [← hrest]
      have hdrop (cs : List Char) : (cs.dropWhile isDigit).length ≤ cs.length :=
        (List.dropWhile_suffix isDigit).length_le
      split <;> grind
    · simp_all
  next => simp_all

theorem length_cutMinus_le (cs : List Char) : (cutMinus cs).2.length ≤ cs.length := by
  unfold cutMinus
  split <;> simp

theorem length_lt_of_scan? {cs rest : List Char} {n : Numeral}
    (h : scan? cs = some (n, rest)) : rest.length < cs.length := by
  have hcut := length_cutMinus_le cs
  simp only [scan?] at h
  split at h
  · simp at h
  next hwhole =>
    simp only [Option.bind_eq_bind, Option.bind_eq_some_iff, Prod.exists, pure, Option.some.injEq,
      Prod.mk.injEq] at h
    obtain ⟨fraction, afterFraction, hfraction, e, afterExponent, hexponent, -, rfl⟩ := h
    have := length_le_of_scanFraction hfraction
    have := length_le_of_scanExponent hexponent
    have hsplit := congrArg List.length
      (List.takeWhile_append_dropWhile (p := isDigit) (l := (cutMinus cs).2))
    have hpos : 0 < ((cutMinus cs).2.takeWhile isDigit).length :=
      List.length_pos_iff.2 fun hnil ↦ hwhole (Or.inl hnil)
    simp only [List.length_append] at hsplit
    omega

/-! ## The value -/

/-- A significand of at most 64 bits and the power of ten that belongs to it. -/
structure Significand where
  value : Nat
  power : Int
  full : Bool

/-- A digit before the point: once one does not fit, it and the ones after it count as zeros. -/
def Significand.addWhole (s : Significand) (c : Char) : Significand :=
  let next := 10 * s.value + (digitValue? c).getD 0
  if s.full ∨ twoTo 64 ≤ next then ⟨s.value, s.power + 1, true⟩ else ⟨next, s.power, false⟩

/-- A digit after the point: once one does not fit, it and the ones after it are dropped. -/
def Significand.addFraction (s : Significand) (c : Char) : Significand :=
  let next := 10 * s.value + (digitValue? c).getD 0
  if s.full ∨ twoTo 64 ≤ next then ⟨s.value, s.power, true⟩ else ⟨next, s.power - 1, false⟩

def significand (n : Numeral) : Significand :=
  let whole := n.whole.foldl Significand.addWhole ⟨0, 0, false⟩
  n.fraction.foldl Significand.addFraction ⟨whole.value, whole.power, false⟩

/-- A number divided by `10 ^ power`, in steps of at most 308 places as far as that changes it. -/
def dividedBy (x : Binary64.Magnitude) (power : Nat) : Option Binary64.Magnitude := do
  let divide (x : Binary64.Magnitude) (places : Nat) := do
    x.div? (← Binary64.nearest? (tenTo places) 1)
  if power ≤ 308 then divide x power
  else
    let x ← divide x 308
    if power ≤ 616 then divide x (power - 308) else Binary64.nearest? 0 1

/-- The floating point number of a numeral. -/
def magnitude? (n : Numeral) : Option Binary64.Magnitude := do
  let s := n.significand
  let power := s.power + n.exponent.getD 0
  let x ← Binary64.nearest? s.value 1
  if s.value = 0 then some x
  else if 0 ≤ power then
    if power ≤ 308 then x.mul? (← Binary64.nearest? (tenTo power.toNat) 1) else none
  else dividedBy x (-power).toNat

/-- The integer that the numeral writes, if it fits 64 bits; a negative zero is no integer. -/
def integer? (n : Numeral) : Option Int :=
  if n.fraction ≠ [] ∨ n.exponent.isSome then none
  else (natural? n.whole).bind fun whole ↦
    if n.negative then if 0 < whole ∧ whole ≤ twoTo 63 then some (-(whole : Int)) else none
    else if whole < twoTo 64 then some whole else none

/-- The greatest exponent that a reader takes in. -/
def maxExponent : Int := 2147483647

/-- Where a reader gives up on a numeral that is too large: with the digit that makes the exponent
too great, and else at the end. -/
def lapse (n : Numeral) : Lapse :=
  if maxExponent < n.exponent.getD 0 / 10 then .inside else .behind

/-- The value of a numeral, unless it is too large to have one. -/
def number (n : Numeral) : Except Lapse Number :=
  match n.integer? with
  | some i => .ok (.integer i)
  | none =>
    match n.magnitude? with
    | some x => .ok (.real (.ofMagnitude n.negative x))
    | none => .error n.lapse

end Numeral

end DeviceSync.Json
