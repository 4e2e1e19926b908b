import DeviceSync.Text.Blank

/-!
# Punycode

Text of any characters as ASCII text. The ASCII characters come first, as they are. Behind a hyphen
follows where the others go: they are inserted in ascending order, and a number tells for each of
them how many other insertions, at later places or of greater characters, would have been possible
in between. The numbers are written in base 36 with digits of varying weight, adapted to the size
of the numbers before, the least significant digit first.
-/

namespace DeviceSync.Punycode

open Text

/-! ## Numbers of varying weight -/

/-- The digits of base 36: small letters, then the decimal digits. -/
def digitChar (n : Nat) : Char :=
  if n < 26 then Char.ofNat (97 + n) else Char.ofNat (22 + n)

/-- The value of a digit, in either case. -/
def digitValue? (c : Char) : Option Nat :=
  if 'a' ≤ c ∧ c ≤ 'z' then some (c.toNat - 97)
  else if 'A' ≤ c ∧ c ≤ 'Z' then some (c.toNat - 65)
  else if '0' ≤ c ∧ c ≤ '9' then some (c.toNat - 22)
  else none

/-- The least digit at a place that does not end a number. -/
def threshold (bias place : Nat) : Nat :=
  min 26 (max 1 (place - bias))

theorem threshold_pos (bias place : Nat) : 1 ≤ threshold bias place := by
  unfold threshold
  omega

/-- How often a number is divided by 35 until it is at most 455, in steps of 36, and what is left. -/
def scaleDown (n steps : Nat) : Nat × Nat :=
  if 455 < n then scaleDown (n / 35) (steps + 36) else (n, steps)
termination_by n
decreasing_by omega

/-- The bias for the next number, from this one and from how many characters there are by now. -/
def adapt (delta count : Nat) (isFirst : Bool) : Nat :=
  let delta := if isFirst then delta / 700 else delta / 2
  let (delta, steps) := scaleDown (delta + delta / count) 0
  steps + 36 * delta / (delta + 38)

/-- The digits of a number, from a place on. -/
def writeNumber (bias place n : Nat) : List Char :=
  let t := threshold bias place
  if n < t then [digitChar n]
  else digitChar (t + (n - t) % (36 - t)) :: writeNumber bias (place + 36) ((n - t) / (36 - t))
termination_by n
decreasing_by
  have := threshold_pos bias place
  have := Nat.div_le_self (n - threshold bias place) (36 - threshold bias place)
  omega

/-- The number at the front of a text, added to `sum`, and what follows it. -/
def readNumber (bias place weight sum : Nat) : List Char → Option (Nat × List Char)
  | [] => none
  | c :: rest => do
    let d ← digitValue? c
    let t := threshold bias place
    if d < t then return (sum + d * weight, rest)
    else readNumber bias (place + 36) (weight * (36 - t)) (sum + d * weight) rest

theorem length_lt_of_readNumber {bias place weight sum n : Nat} {cs rest : List Char}
    (h : readNumber bias place weight sum cs = some (n, rest)) : rest.length < cs.length := by
  induction cs generalizing place weight sum with
  | nil => simp [readNumber] at h
  | cons c tail ih =>
    simp only [readNumber, Option.bind_eq_bind, Option.bind_eq_some_iff] at h
    obtain ⟨d, -, h⟩ := h
    split at h
    · simp_all
    · have := ih h
      simp only [List.length_cons]
      omega

/-! ## Writing -/

/-- What is known while the insertions are written: how many characters there are by now, and the
number and the bias for the next insertion. -/
structure Insertion where
  count : Nat
  delta : Nat
  bias : Nat
  isFirst : Bool

/-- Go through the text for the insertions of one character. -/
def writePoint (point : Nat) (s : Insertion) : List Char → List Char × Insertion
  | [] => ([], s)
  | c :: rest =>
    if c.toNat < point then writePoint point { s with delta := s.delta + 1 } rest
    else if c.toNat = point then
      let count := s.count + 1
      let (written, s') := writePoint point ⟨count, 0, adapt s.delta count s.isFirst, false⟩ rest
      (writeNumber s.bias 36 s.delta ++ written, s')
    else writePoint point s rest

/-- Write the insertions of the given characters, in ascending order from `next` on. -/
def writePoints (cs : List Char) (next : Nat) (s : Insertion) : List Nat → List Char
  | [] => []
  | point :: points =>
    let s := { s with delta := s.delta + (point - next) * (s.count + 1) }
    let (written, s) := writePoint point s cs
    written ++ writePoints cs (point + 1) { s with delta := s.delta + 1 } points

/-- Put a number into an ascending list, unless it is in it. -/
def insertPoint (n : Nat) : List Nat → List Nat
  | [] => [n]
  | m :: rest =>
    if n < m then n :: m :: rest else if n = m then m :: rest else m :: insertPoint n rest

def isAscii (c : Char) : Bool :=
  c.toNat < 0x80

def encode (cs : List Char) : List Char :=
  let plain := cs.filter isAscii
  let points := (cs.filter fun c ↦ !isAscii c).foldr (fun c ↦ insertPoint c.toNat) []
  (if plain = [] then [] else plain ++ ['-']) ++
    writePoints cs 0x80 ⟨plain.length, 0, 72, true⟩ points

/-! ## Reading -/

/-- Read insertions into the characters so far. `start` is the number that stands for the next
place of the character `point`. -/
def readPoints (bias point start : Nat) (isFirst : Bool) (done : List Char) :
    List Char → Option (List Char)
  | [] => some done
  | c :: tail =>
    match hread : readNumber bias 36 1 start (c :: tail) with
    | none => none
    | some (n, rest) =>
      let count := done.length + 1
      let point := point + n / count
      if point.isValidChar then
        have : rest.length < (c :: tail).length := length_lt_of_readNumber hread
        readPoints (adapt (n - start) count isFirst) point (n % count + 1) false
          (done.insertIdx (n % count) (Char.ofNat point)) rest
      else none
termination_by cs => cs.length
decreasing_by exact this

/-- The text that is encoded. A hyphen at the front belongs to no ASCII characters and is no digit
either. -/
def decode? (cs : List Char) : Option (List Char) :=
  match cutLast '-' cs with
  | some (c :: plain, rest) => readPoints 72 0x80 0 true (c :: plain) rest
  | _ => readPoints 72 0x80 0 true [] cs

end DeviceSync.Punycode
