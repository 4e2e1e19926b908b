import DeviceSync.Json.Printer
import DeviceSync.Proofs.Json.Numeral
import DeviceSync.Proofs.Number.Shortest

/-!
# Written Numbers Are Scanned

The text of a number is that of a numeral: of an integer, or of the shortest decimal of a finite
number. A numeral whose text is followed by something that cannot belong to it is scanned as it is,
and if the number is within its format the numeral has a value. Of an integer that is the integer
itself; what becomes of any other number is a matter of rounding.
-/

namespace DeviceSync.Json

open Text
open Binary64 (Magnitude)

namespace Numeral

/-! ## Texts of numerals -/

def fractionText (ds : List Char) : List Char :=
  if ds = [] then [] else '.' :: ds

def exponentText : Option Int → List Char
  | none => []
  | some e => 'e' :: integerDigits e

def text (n : Numeral) : List Char :=
  Binary64.signText n.negative ++ (n.whole ++ (fractionText n.fraction ++ exponentText n.exponent))

/-- Whether the parts of a numeral are what a scan makes of its text. -/
structure Proper (n : Numeral) : Prop where
  whole_isDigit : ∀ c ∈ n.whole, isDigit c
  whole_ne_nil : n.whole ≠ []
  leading : n.whole.head? = some '0' → n.whole.length = 1
  fraction_isDigit : ∀ c ∈ n.fraction, isDigit c

/-- The text of a numeral begins with a digit or a minus sign. -/
theorem Proper.exists_text_eq_cons {n : Numeral} (hn : n.Proper) :
    ∃ c cs, (isDigit c = true ∨ c = '-') ∧ n.text = c :: cs := by
  obtain ⟨negative, whole, fraction, e⟩ := n
  obtain ⟨c, cs, rfl⟩ := List.exists_cons_of_ne_nil hn.whole_ne_nil
  cases negative with
  | true => exact ⟨'-', _, .inr rfl, rfl⟩
  | false => exact ⟨c, _, .inl (hn.whole_isDigit c List.mem_cons_self), rfl⟩

/-- Whether a numeral ends before a text: the text does not begin with what could belong to it. -/
def EndsBefore (rest : List Char) : Prop :=
  ∀ c ∈ rest.head?, isDigit c = false ∧ c ≠ '.' ∧ c ≠ 'e' ∧ c ≠ 'E'

theorem endsBefore_nil : EndsBefore [] := nofun

theorem endsBefore_cons {c : Char} (rest : List Char)
    (h : isDigit c = false ∧ c ≠ '.' ∧ c ≠ 'e' ∧ c ≠ 'E') : EndsBefore (c :: rest) := by
  intro d hd
  obtain rfl := Option.some.inj hd
  exact h

theorem span_digits {ds rest : List Char} (hds : ∀ c ∈ ds, isDigit c)
    (hrest : ∀ c ∈ rest.head?, isDigit c = false) :
    (ds ++ rest).takeWhile isDigit = ds ∧ (ds ++ rest).dropWhile isDigit = rest := by
  rw [List.takeWhile_append_of_pos hds, List.dropWhile_append_of_pos hds]
  cases rest with
  | nil => simp
  | cons c rest => simp [hrest c rfl]

theorem digitChar_ne_sign : ∀ d, d < 10 → digitChar d ≠ '-' ∧ digitChar d ≠ '+' := by decide

theorem cutMinus_signText (negative : Bool) {cs : List Char} (h : cs.head? ≠ some '-') :
    cutMinus (Binary64.signText negative ++ cs) = (negative, cs) := by
  cases negative with
  | true => rfl
  | false =>
    rw [Binary64.signText, if_neg Bool.false_ne_true, List.nil_append]
    unfold cutMinus
    split
    next => exact absurd rfl h
    next => rfl

section Rest

variable {rest : List Char} (hrest : EndsBefore rest)
include hrest

theorem isDigit_of_head? {c : Char} (hc : c ∈ rest.head?) : isDigit c = false :=
  (hrest c hc).1

theorem span_digits_rest (n : Nat) :
    (digits n ++ rest).takeWhile isDigit = digits n ∧
      (digits n ++ rest).dropWhile isDigit = rest :=
  span_digits (fun _ ↦ isDigit_of_mem_digits) fun _ ↦ isDigit_of_head? hrest

theorem scanExponent_exponentText (e : Option Int) :
    scanExponent (exponentText e ++ rest) = some (e, rest) := by
  match e with
  | none =>
    rw [exponentText, List.nil_append]
    cases rest with
    | nil => rfl
    | cons c rest =>
      obtain ⟨-, -, he, hE⟩ := hrest c rfl
      simp [scanExponent, he, hE]
  | some (.ofNat n) =>
    obtain ⟨d, tail, hd, hdigits⟩ := exists_digits_eq_cons n
    obtain ⟨hminus, hplus⟩ := digitChar_ne_sign d hd
    obtain ⟨htake, hdrop⟩ := span_digits_rest hrest n
    have htext : exponentText (some (.ofNat n)) ++ rest = 'e' :: (digits n ++ rest) := rfl
    rw [htext, scanExponent, if_pos (.inl rfl), htake, hdrop, natural?_digits]
    · rfl
    · intro tail heq
      rw [hdigits] at heq
      exact hminus (List.cons.inj heq).1
    · intro tail heq
      rw [hdigits] at heq
      exact hplus (List.cons.inj heq).1
  | some (.negSucc n) =>
    obtain ⟨htake, hdrop⟩ := span_digits_rest hrest (n + 1)
    have htext : exponentText (some (.negSucc n)) ++ rest = 'e' :: '-' :: (digits (n + 1) ++ rest) :=
      rfl
    rw [htext, scanExponent, if_pos (.inl rfl), htake, hdrop, natural?_digits]
    rfl

theorem head?_exponentText (e : Option Int) {c : Char}
    (hc : c ∈ (exponentText e ++ rest).head?) : isDigit c = false ∧ c ≠ '.' := by
  cases e with
  | none =>
    obtain ⟨hdigit, hpoint, -⟩ := hrest c hc
    exact ⟨hdigit, hpoint⟩
  | some e =>
    obtain rfl := Option.some.inj hc
    decide

theorem scanFraction_fractionText {ds : List Char} (hds : ∀ c ∈ ds, isDigit c) (e : Option Int) :
    scanFraction (fractionText ds ++ (exponentText e ++ rest)) =
      some (ds, exponentText e ++ rest) := by
  unfold fractionText
  split
  next hnil =>
    rw [hnil, List.nil_append]
    unfold scanFraction
    split
    next tail heq =>
      have hhead : '.' ∈ (exponentText e ++ rest).head? := by
        rw [heq]
        rfl
      exact absurd rfl (head?_exponentText hrest e hhead).2
    next => rfl
  next hcons =>
    obtain ⟨htake, hdrop⟩ := span_digits hds fun c hc ↦ (head?_exponentText hrest e hc).1
    rw [List.cons_append, scanFraction, htake, hdrop, if_neg hcons]

/-- The text of a numeral is scanned as the numeral. -/
theorem scan?_text {n : Numeral} (hn : n.Proper) : scan? (n.text ++ rest) = some (n, rest) := by
  obtain ⟨negative, whole, fraction, e⟩ := n
  have htail : ∀ c ∈ (fractionText fraction ++ (exponentText e ++ rest)).head?,
      isDigit c = false := by
    intro c hc
    unfold fractionText at hc
    split at hc
    next => exact (head?_exponentText hrest e hc).1
    next =>
      obtain rfl := Option.some.inj hc
      decide
  obtain ⟨htake, hdrop⟩ := span_digits hn.whole_isDigit htail
  have hcut : cutMinus ((⟨negative, whole, fraction, e⟩ : Numeral).text ++ rest) =
      (negative, whole ++ (fractionText fraction ++ (exponentText e ++ rest))) := by
    simp only [text, List.append_assoc]
    refine cutMinus_signText negative fun hminus ↦ ?_
    rw [List.head?_append_of_ne_nil _ hn.whole_ne_nil] at hminus
    exact absurd (hn.whole_isDigit '-' (List.mem_of_head? hminus)) (by decide)
  have hwhole : ¬(whole = [] ∨ (whole.head? = some '0' ∧ 1 < whole.length)) := by
    rintro (hnil | ⟨hzero, hlength⟩)
    · exact hn.whole_ne_nil hnil
    · exact absurd (hn.leading hzero) hlength.ne'
  rw [scan?, hcut]
  dsimp only
  rw [htake, hdrop, if_neg hwhole, scanFraction_fractionText hrest hn.fraction_isDigit]
  dsimp only [bind, Option.bind]
  rw [scanExponent_exponentText hrest]
  rfl

end Rest

/-! ## Integers -/

/-- The numeral of an integer. -/
def ofInt : Int → Numeral
  | .ofNat n => ⟨false, digits n, [], none⟩
  | .negSucc n => ⟨true, digits (n + 1), [], none⟩

theorem text_ofInt (i : Int) : (ofInt i).text = integerDigits i := by
  cases i <;> simp [ofInt, text, Binary64.signText, fractionText, exponentText, integerDigits]

theorem proper_digits (negative : Bool) (n : Nat) (e : Option Int) :
    Proper ⟨negative, digits n, [], e⟩ where
  whole_isDigit _ := isDigit_of_mem_digits
  whole_ne_nil := digits_ne_nil n
  leading h := by
    obtain rfl := eq_zero_of_head?_digits h
    have hzero : (digits 0).length = 1 := by decide +kernel
    exact hzero
  fraction_isDigit := nofun

theorem proper_ofInt (i : Int) : (ofInt i).Proper := by
  cases i <;> exact proper_digits ..

/-- An integer of 64 bits, signed or unsigned, is the value of its numeral. -/
theorem number_ofInt {i : Int} (hleast : -(twoTo 63 : Int) ≤ i) (hlimit : i < twoTo 64) :
    (ofInt i).number = .ok (.integer i) := by
  have hinteger : (ofInt i).integer? = some i := by
    cases i with
    | ofNat n =>
      have hsize : n < twoTo 64 := Int.ofNat_lt.1 hlimit
      simp [integer?, ofInt, natural?_digits, hsize]
    | negSucc n =>
      have hsize : n + 1 ≤ twoTo 63 := by omega
      simp [integer?, ofInt, natural?_digits, hsize, Int.negSucc_eq]
  rw [number, hinteger]

/-! ## Decimals -/

/-- The numeral of a decimal, as it is written with a point or an exponent. -/
def ofDecimal (negative : Bool) (d : Decimal) : Numeral :=
  let (ds, point) := d.layout
  if d.digits = 0 then ⟨negative, ['0'], ['0'], none⟩
  else if -5 < point ∧ point ≤ 16 then
    if point ≤ 0 then ⟨negative, ['0'], List.replicate (-point).toNat '0' ++ ds, none⟩
    else if ds.length ≤ point then
      ⟨negative, ds ++ List.replicate (point.toNat - ds.length) '0', ['0'], none⟩
    else ⟨negative, ds.take point.toNat, ds.drop point.toNat, none⟩
  else ⟨negative, ds.take 1, ds.drop 1, some (point - 1)⟩

/-- Whether a numeral is scanned from a text and stands for a decimal. -/
structure Spells (n : Numeral) (negative : Bool) (cs : List Char) (d : Decimal) : Prop where
  text_eq : n.text = Binary64.signText negative ++ cs
  proper : n.Proper
  length_whole : n.whole.length ≤ 16
  decimal_eq : n.decimal = d.value

theorem isDigit_zero : isDigit '0' = true := by decide

theorem isDigit_of_mem_zeros {count : Nat} {c : Char} (h : c ∈ List.replicate count '0') :
    isDigit c = true := by
  obtain rfl := List.eq_of_mem_replicate h
  exact isDigit_zero

/-- A numeral stands for a decimal if it has the digits of it, with zeros in front or behind, and
the point stands where it belongs. -/
theorem decimal_eq_value {n : Numeral} {d : Decimal} (zeros : Nat)
    (hvalue : valueFrom 0 (n.whole ++ n.fraction) = d.digits * 10 ^ zeros)
    (hplace : n.exponent.getD 0 - n.fraction.length + zeros = d.exponent) :
    n.decimal = d.value := by
  rw [decimal, hvalue, Decimal.value, ← hplace, zpow_add₀ (by norm_num), zpow_natCast]
  push_cast
  ring

theorem spells_zero (negative : Bool) {d : Decimal} (hd : d.digits = 0) :
    Spells ⟨negative, ['0'], ['0'], none⟩ negative ['0', '.', '0'] d where
  text_eq := rfl
  proper := ⟨by simp [isDigit_zero], nofun, fun _ ↦ rfl, by simp [isDigit_zero]⟩
  length_whole := by simp
  decimal_eq := by
    have hvalue : valueFrom 0 (['0'] ++ ['0']) = 0 := by decide
    rw [decimal, Decimal.value, hd, hvalue]
    simp

section Shapes

variable (negative : Bool) {d : Decimal} (hd : d.digits ≠ 0)

theorem spells_small {point : Int} (hpoint : (digits d.digits).length + d.exponent = point)
    (hsmall : point ≤ 0) :
    Spells ⟨negative, ['0'], List.replicate (-point).toNat '0' ++ digits d.digits, none⟩ negative
      (Decimal.positional (digits d.digits) point) d where
  text_eq := by
    rw [Decimal.positional, if_pos hsmall, text, fractionText, if_neg]
    · simp [exponentText]
    · simp [digits_ne_nil]
  proper := by
    refine ⟨by simp [isDigit_zero], nofun, fun _ ↦ rfl, fun c hc ↦ ?_⟩
    rcases List.mem_append.1 hc with hc | hc
    · exact isDigit_of_mem_zeros hc
    · exact isDigit_of_mem_digits hc
  length_whole := by simp
  decimal_eq := by
    refine decimal_eq_value 0 ?_ ?_
    · have hzeros : valueFrom 0 ('0' :: List.replicate (-point).toNat '0') = 0 := by
        rw [← List.replicate_succ, valueFrom_zeros, Nat.zero_mul]
      rw [← List.append_assoc, List.singleton_append, valueFrom_append, hzeros, valueFrom_digits,
        Nat.pow_zero, Nat.mul_one]
    · dsimp only [Option.getD_none]
      rw [List.length_append, List.length_replicate]
      omega

include hd

/-- A front part of the digits of a number that is not zero, and what is behind the point. -/
theorem proper_of_front {whole fraction : List Char} {e : Option Int}
    (hwhole : ∀ c ∈ whole, isDigit c) (hhead : whole.head? = (digits d.digits).head?)
    (hfraction : ∀ c ∈ fraction, isDigit c) : Proper ⟨negative, whole, fraction, e⟩ where
  whole_isDigit := hwhole
  whole_ne_nil := by
    rintro rfl
    exact digits_ne_nil _ (List.head?_eq_none_iff.1 hhead.symm)
  leading h := absurd (eq_zero_of_head?_digits (hhead ▸ h)) hd
  fraction_isDigit := hfraction

theorem spells_whole {point : Int} (hpoint : (digits d.digits).length + d.exponent = point)
    (hwhole : (digits d.digits).length ≤ point) (hlarge : point ≤ 16) :
    Spells ⟨negative, digits d.digits ++
        List.replicate (point.toNat - (digits d.digits).length) '0', ['0'], none⟩ negative
      (Decimal.positional (digits d.digits) point ++ ['.', '0']) d where
  text_eq := by
    have hpos := List.length_pos_iff.2 (digits_ne_nil d.digits)
    rw [Decimal.positional, if_neg (by omega), if_pos hwhole]
    simp [text, fractionText, exponentText]
  proper := by
    refine proper_of_front negative hd (fun c hc ↦ ?_) ?_ (by simp [isDigit_zero])
    · rcases List.mem_append.1 hc with hc | hc
      · exact isDigit_of_mem_digits hc
      · exact isDigit_of_mem_zeros hc
    · exact List.head?_append_of_ne_nil _ (digits_ne_nil _)
  length_whole := by
    dsimp only
    rw [List.length_append, List.length_replicate]
    omega
  decimal_eq := by
    refine decimal_eq_value (point.toNat - (digits d.digits).length + 1) ?_ ?_
    · rw [List.append_assoc, ← List.replicate_one, List.replicate_append_replicate,
        valueFrom_append, valueFrom_digits, valueFrom_zeros]
    · dsimp only [Option.getD_none]
      rw [List.length_singleton]
      omega

/-- Digits that are cut in two, with an exponent that makes up for it. -/
theorem spells_split {count : Nat} (hpos : 0 < count) (hshort : count ≤ 16)
    (hinside : count ≤ (digits d.digits).length) {e : Option Int}
    (hplace : e.getD 0 + count = (digits d.digits).length + d.exponent) :
    Spells ⟨negative, (digits d.digits).take count, (digits d.digits).drop count, e⟩ negative
      ((digits d.digits).take count ++
        (fractionText ((digits d.digits).drop count) ++ exponentText e)) d where
  text_eq := rfl
  proper := by
    refine proper_of_front negative hd (fun c hc ↦ ?_) ?_ fun c hc ↦ ?_
    · exact isDigit_of_mem_digits (List.mem_of_mem_take hc)
    · rw [List.head?_take, if_neg hpos.ne']
    · exact isDigit_of_mem_digits (List.mem_of_mem_drop hc)
  length_whole := by
    dsimp only
    rw [List.length_take]
    omega
  decimal_eq := by
    refine decimal_eq_value 0 ?_ ?_
    · rw [List.take_append_drop, valueFrom_digits, Nat.pow_zero, Nat.mul_one]
    · dsimp only
      rw [List.length_drop]
      omega

end Shapes

theorem spells_ofDecimal (negative : Bool) (d : Decimal) :
    (ofDecimal negative d).Spells negative d.scientific d := by
  unfold ofDecimal Decimal.scientific
  rw [Decimal.layout]
  dsimp only
  generalize hpoint : ((digits d.digits).length + d.exponent : Int) = point
  by_cases hd : d.digits = 0
  · rw [if_pos hd, if_pos hd]
    exact spells_zero negative hd
  rw [if_neg hd, if_neg hd]
  have hlength : 0 < (digits d.digits).length := List.length_pos_iff.2 (digits_ne_nil _)
  by_cases hrange : -5 < point ∧ point ≤ 16
  · rw [if_pos hrange, if_pos hrange]
    by_cases hsmall : point ≤ 0
    · rw [if_pos hsmall, if_neg (by omega), List.append_nil]
      exact spells_small negative hpoint hsmall
    rw [if_neg hsmall]
    by_cases hwhole : (digits d.digits).length ≤ point
    · rw [if_pos hwhole, if_pos hwhole]
      exact spells_whole negative hd hpoint hwhole hrange.2
    · rw [if_neg hwhole, if_neg hwhole, List.append_nil, Decimal.positional, if_neg hsmall,
        if_neg hwhole]
      have hsplit := spells_split negative hd (e := none) (show 0 < point.toNat by omega)
        (by omega) (by omega) (by dsimp only [Option.getD_none]; omega)
      rwa [fractionText, if_neg, exponentText, List.append_nil] at hsplit
      intro hnil
      have := List.drop_eq_nil_iff.1 hnil
      omega
  · rw [if_neg hrange, if_neg hrange]
    have hsplit := spells_split negative hd (e := some (point - 1)) Nat.one_pos
      (by decide) hlength (by dsimp only [Option.getD_some]; omega)
    rwa [← List.append_assoc] at hsplit

/-- The two greatest numbers are read back from their shortest decimals. -/
theorem magnitude?_greatest : ∀ significand ∈ [2 ^ 53 - 2, 2 ^ 53 - 1],
    (ofDecimal false (Magnitude.shortest ⟨significand, 971⟩)).magnitude?.isSome := by
  decide +kernel

theorem magnitude?_ofDecimal (negative : Bool) (d : Decimal) :
    (ofDecimal negative d).magnitude? = (ofDecimal false d).magnitude? := by
  unfold ofDecimal
  dsimp only
  repeat' split
  all_goals rfl

/-- The numeral of a finite number has a value. -/
theorem exists_number_ofDecimal (negative : Bool) {x : Magnitude} (hx : x.Finite) :
    ∃ y, (ofDecimal negative x.shortest).number = .ok y := by
  have hspells := spells_ofDecimal negative x.shortest
  suffices hsome : ∃ z, (ofDecimal negative x.shortest).magnitude? = some z by
    obtain ⟨z, hz⟩ := hsome
    exact exists_number hz
  by_cases hgreatest : x.IsGreatest
  · obtain ⟨significand, exponent⟩ := x
    obtain ⟨rfl, hlarge⟩ := hgreatest
    have hless : significand < 2 ^ 53 := hx.significand
    have hmem : significand ∈ [2 ^ 53 - 2, 2 ^ 53 - 1] := by
      dsimp only at hlarge
      rw [List.mem_pair]
      omega
    rw [magnitude?_ofDecimal]
    exact Option.isSome_iff_exists.1 (magnitude?_greatest significand hmem)
  · refine exists_magnitude? ?_ ?_
    · calc
        valueFrom 0 (ofDecimal negative x.shortest).whole <
            (0 + 1) * 10 ^ (ofDecimal negative x.shortest).whole.length := valueFrom_lt ..
        _ ≤ (0 + 1) * 10 ^ 16 :=
          Nat.mul_le_mul_left _ (Nat.pow_le_pow_right (by decide) hspells.length_whole)
        _ < 2 ^ 64 := by decide
    · rw [hspells.decimal_eq]
      refine lt_of_le_of_lt ?_ (Magnitude.upper_mul_lt_limit hx hgreatest)
      gcongr
      exact x.value_shortest_le

end Numeral

/-! ## Numbers -/

/-- The numeral that a number is written as, if it is finite. -/
def numeral? : Number → Option Numeral
  | .integer i => some (.ofInt i)
  | .real (.finite negative m e) => some (.ofDecimal negative (Magnitude.shortest ⟨m, e⟩))
  | .real _ => none

theorem numberText_eq {x : Number} {n : Numeral} (h : numeral? x = some n) :
    numberText x = n.text ∧ n.Proper := by
  match x, h with
  | .integer i, rfl => exact ⟨(Numeral.text_ofInt i).symm, Numeral.proper_ofInt i⟩
  | .real (.finite negative m e), rfl =>
    have hspells := Numeral.spells_ofDecimal negative (Magnitude.shortest ⟨m, e⟩)
    exact ⟨hspells.text_eq.symm, hspells.proper⟩

theorem numberText_eq_null {x : Number} (h : numeral? x = none) : numberText x = "null".toList :=
  match x, h with
  | .real (.infinite _), _ | .real .nan, _ => rfl

theorem exists_number_of_bounded {x : Number} (hx : x.Bounded) :
    ∃ n y, numeral? x = some n ∧ n.number = .ok y := by
  match x, hx with
  | .integer i, hx => exact ⟨_, _, rfl, Numeral.number_ofInt hx.1 hx.2⟩
  | .real (.finite negative m e), hx =>
    obtain ⟨y, hy⟩ := Numeral.exists_number_ofDecimal negative hx
    exact ⟨_, y, rfl, hy⟩

end DeviceSync.Json
