import DeviceSync.Json.Numeral
import DeviceSync.Proofs.Number.Rounding
import DeviceSync.Proofs.Text.Decimal

/-!
# Numerals That Have a Value

A numeral is read in two roundings, and a number that is close to the greatest finite one may be
lost on the way. The numerals here stay away from it by two parts in `2 ^ 53`, and always have a
value. Of the digits only as many are taken in as fit 64 bits; what is left out makes the number
smaller.

Whatever value a numeral has is within its format: an integer of 64 bits or a finite number.
-/

namespace DeviceSync

/-- Whether a number is within its format: an integer of 64 bits, signed or unsigned, or finite. -/
def Number.Bounded : Number → Prop
  | .integer i => -(twoTo 63 : Int) ≤ i ∧ i < twoTo 64
  | .real (.finite _ m e) => Binary64.Magnitude.Finite ⟨m, e⟩
  | .real _ => False

/-! ## Runs of digits -/

namespace Text

/-- The number that a run of digits denotes, continuing from the digits already read. -/
def valueFrom (acc : Nat) (ds : List Char) : Nat :=
  ds.foldl (fun acc c ↦ 10 * acc + (digitValue? c).getD 0) acc

theorem valueFrom_cons (acc : Nat) (c : Char) (ds : List Char) :
    valueFrom acc (c :: ds) = valueFrom (10 * acc + (digitValue? c).getD 0) ds := rfl

theorem valueFrom_append (acc : Nat) (ds es : List Char) :
    valueFrom acc (ds ++ es) = valueFrom (valueFrom acc ds) es :=
  List.foldl_append

theorem valueFrom_of_foldDigits {acc n : Nat} {ds : List Char} (h : foldDigits acc ds = some n) :
    valueFrom acc ds = n := by
  induction ds generalizing acc with
  | nil => exact Option.some.inj h
  | cons c ds ih =>
    obtain ⟨d, hd, hrest⟩ := Option.bind_eq_some_iff.1 h
    rw [valueFrom_cons, hd]
    exact ih hrest

theorem valueFrom_digits (n : Nat) : valueFrom 0 (digits n) = n :=
  valueFrom_of_foldDigits (foldDigits_digits n)

theorem valueFrom_zeros (acc count : Nat) :
    valueFrom acc (List.replicate count '0') = acc * 10 ^ count := by
  induction count generalizing acc with
  | zero => exact (Nat.mul_one acc).symm
  | succ count ih =>
    have hzero : (digitValue? '0').getD 0 = 0 := by decide
    rw [List.replicate_succ, valueFrom_cons, hzero, ih, Nat.pow_succ]
    ring

theorem mul_pow_le_valueFrom (acc : Nat) (ds : List Char) :
    acc * 10 ^ ds.length ≤ valueFrom acc ds := by
  induction ds generalizing acc with
  | nil => exact (Nat.mul_one acc).le
  | cons c ds ih =>
    refine Nat.le_trans ?_ (ih _)
    rw [List.length_cons, Nat.pow_succ]
    calc
      acc * (10 ^ ds.length * 10) = 10 * acc * 10 ^ ds.length := by ring
      _ ≤ _ := Nat.mul_le_mul_right _ (Nat.le_add_right ..)

theorem le_valueFrom (acc : Nat) (ds : List Char) : acc ≤ valueFrom acc ds :=
  Nat.le_trans (Nat.le_mul_of_pos_right _ (Nat.pow_pos (by decide))) (mul_pow_le_valueFrom acc ds)

theorem digitValue_le (c : Char) : (digitValue? c).getD 0 ≤ 9 := by
  unfold digitValue?
  split
  next h =>
    have hle : c.toNat ≤ 57 := h.2
    exact Nat.sub_le_of_le_add hle
  next => exact Nat.zero_le _

theorem valueFrom_lt (acc : Nat) (ds : List Char) :
    valueFrom acc ds < (acc + 1) * 10 ^ ds.length := by
  induction ds generalizing acc with
  | nil => simp [valueFrom]
  | cons c ds ih =>
    have hdigit := digitValue_le c
    rw [valueFrom_cons, List.length_cons, Nat.pow_succ]
    refine Nat.lt_of_lt_of_le (ih _) ?_
    calc
      (10 * acc + (digitValue? c).getD 0 + 1) * 10 ^ ds.length ≤
          (acc + 1) * 10 * 10 ^ ds.length := Nat.mul_le_mul_right _ (by omega)
      _ = (acc + 1) * (10 ^ ds.length * 10) := by ring

end Text

namespace Json.Numeral

open Binary64 (Magnitude limit)
open Text (valueFrom digitValue? valueFrom_cons)

/-! ## Significands -/

namespace Significand

/-- The number that a significand with its power of ten stands for. -/
def amount (s : Significand) : ℚ :=
  s.value * 10 ^ s.power

/-- Digits before the point that fit are taken in as they are. -/
theorem foldl_addWhole {acc : Nat} {ds : List Char} (h : valueFrom acc ds < 2 ^ 64) :
    ds.foldl addWhole ⟨acc, 0, false⟩ = ⟨valueFrom acc ds, 0, false⟩ := by
  induction ds generalizing acc with
  | nil => rfl
  | cons c ds ih =>
    rw [valueFrom_cons] at h ⊢
    have hnext : 10 * acc + (digitValue? c).getD 0 < 2 ^ 64 :=
      Nat.lt_of_le_of_lt (Text.le_valueFrom _ ds) h
    have hfits : ¬(false = true ∨ twoTo 64 ≤ 10 * acc + (digitValue? c).getD 0) := by
      rintro (hfull | hle)
      · cases hfull
      · exact absurd hnext (Nat.not_lt.2 hle)
    rw [List.foldl_cons, addWhole, if_neg hfits]
    exact ih h

theorem foldl_addFraction_of_full (value : Nat) (power : Int) (ds : List Char) :
    ds.foldl addFraction ⟨value, power, true⟩ = ⟨value, power, true⟩ := by
  induction ds with
  | nil => rfl
  | cons c ds ih =>
    rw [List.foldl_cons, addFraction, if_pos (.inl rfl)]
    exact ih

/-- Digits after the point are taken in or make the number smaller. -/
theorem foldl_addFraction {value : Nat} (hvalue : value < 2 ^ 64) (power : Int) (ds : List Char) :
    let s := ds.foldl addFraction ⟨value, power, false⟩
    s.value < 2 ^ 64 ∧ s.amount ≤ valueFrom value ds * 10 ^ (power - ds.length) := by
  induction ds generalizing value power with
  | nil =>
    refine ⟨hvalue, le_of_eq ?_⟩
    rw [List.length_nil, Nat.cast_zero, sub_zero]
    rfl
  | cons c ds ih =>
    rw [List.foldl_cons, addFraction]
    dsimp only
    split
    next hfull =>
      rw [foldl_addFraction_of_full]
      refine ⟨hvalue, ?_⟩
      have hle : (value : ℚ) * 10 ^ (c :: ds).length ≤ valueFrom value (c :: ds) := by
        exact_mod_cast Text.mul_pow_le_valueFrom value (c :: ds)
      calc
        (value : ℚ) * 10 ^ power =
            value * 10 ^ (c :: ds).length * 10 ^ (power - ((c :: ds).length : Nat)) := by
          rw [mul_assoc, ← zpow_natCast, ← zpow_add₀ (by norm_num)]
          congr 2
          omega
        _ ≤ _ := by gcongr
    next hfits =>
      have hnext : 10 * value + (digitValue? c).getD 0 < 2 ^ 64 :=
        Nat.lt_of_not_le fun hle ↦ hfits (.inr hle)
      obtain ⟨hless, hamount⟩ := ih hnext (power - 1)
      refine ⟨hless, hamount.trans (le_of_eq ?_)⟩
      rw [valueFrom_cons, List.length_cons]
      congr 2
      push_cast
      ring

end Significand

/-! ## Values -/

/-- The number that the digits and the exponent of a numeral denote. -/
def decimal (n : Numeral) : ℚ :=
  valueFrom 0 (n.whole ++ n.fraction) * 10 ^ (n.exponent.getD 0 - n.fraction.length : Int)

theorem decimal_nonneg (n : Numeral) : 0 ≤ n.decimal := by
  unfold decimal
  positivity

/-- The significand takes in no more than what is written. -/
theorem significand_spec {n : Numeral} (hwhole : valueFrom 0 n.whole < 2 ^ 64) :
    n.significand.value < 2 ^ 64 ∧
      (n.significand.value * 10 ^ (n.significand.power + n.exponent.getD 0) : ℚ) ≤ n.decimal := by
  obtain ⟨hvalue, hamount⟩ := Significand.foldl_addFraction hwhole 0 n.fraction
  have hsignificand : n.significand = n.fraction.foldl Significand.addFraction
      ⟨valueFrom 0 n.whole, 0, false⟩ := by
    rw [significand, Significand.foldl_addWhole hwhole]
  rw [← hsignificand] at hvalue hamount
  refine ⟨hvalue, ?_⟩
  calc
    (n.significand.value * 10 ^ (n.significand.power + n.exponent.getD 0) : ℚ) =
        n.significand.amount * 10 ^ n.exponent.getD 0 := by
      rw [zpow_add₀ (by norm_num), ← mul_assoc, Significand.amount]
    _ ≤ valueFrom (valueFrom 0 n.whole) n.fraction * 10 ^ (0 - n.fraction.length : Int) *
        10 ^ n.exponent.getD 0 := by gcongr
    _ = n.decimal := by
      rw [decimal, Text.valueFrom_append, mul_assoc, ← zpow_add₀ (by norm_num)]
      congr 2
      omega

/-- A power of ten in the range of the format is rounded to at least a half of it. -/
theorem exists_nearest?_tenTo {places : Nat} (hplaces : places ≤ 308) :
    ∃ y, Binary64.nearest? (tenTo places) 1 = some y ∧
      y.value ≤ 10 ^ places * (1 + 1 / 2 ^ 53) ∧ (10 ^ places : ℚ) / 2 ≤ y.value := by
  have hpower : ((tenTo places : Nat) : ℚ) / (1 : Nat) = 10 ^ places := by
    rw [Nat.cast_one, div_one, Binary64.cast_tenTo]
  have hlimit : (10 : ℚ) ^ places < limit :=
    lt_of_le_of_lt (pow_le_pow_right₀ (by norm_num) hplaces) Binary64.tenTo_lt_limit
  obtain ⟨y, hy⟩ := Binary64.exists_nearest?_eq_some one_pos (hpower ▸ hlimit)
  have hone : (1 : ℚ) ≤ 10 ^ places := one_le_pow₀ (by norm_num)
  have hvalue := Binary64.value_of_nearest? (tenTo_pos places) one_pos (hpower ▸ hone) hy
  rw [hpower] at hvalue
  exact ⟨y, hy, hvalue⟩

/-- Dividing by at most 308 places never fails. -/
theorem exists_div?_tenTo {x : Magnitude} (hx : x.Finite) {places : Nat} (hpos : 0 < places)
    (hplaces : places ≤ 308) :
    ∃ y z, Binary64.nearest? (tenTo places) 1 = some y ∧ x.div? y = some z := by
  obtain ⟨y, hy, -, hlow⟩ := exists_nearest?_tenTo hplaces
  have hten : (10 : ℚ) ≤ 10 ^ places := le_self_pow₀ (by norm_num) hpos.ne'
  have hvalue : 5 ≤ y.value := by linarith
  have hsignificand : 0 < y.significand := by
    apply Nat.pos_of_ne_zero
    intro hzero
    rw [Magnitude.value, hzero, Nat.cast_zero, zero_mul] at hvalue
    norm_num at hvalue
  have hlimit : x.value / y.value < limit := by
    rw [div_lt_iff₀ (by linarith), mul_comm]
    calc
      x.value < 2 ^ 1024 := hx.value_lt
      _ < 5 * limit := Binary64.lt_five_mul_limit
      _ ≤ y.value * limit := by gcongr; exact Binary64.limit_pos.le
  obtain ⟨z, hz⟩ := Magnitude.exists_div?_eq_some hsignificand hlimit
  exact ⟨y, z, hy, hz⟩

theorem exists_dividedBy {x : Magnitude} (hx : x.Finite) {power : Nat} (hpower : 0 < power) :
    ∃ z, dividedBy x power = some z := by
  unfold dividedBy
  dsimp only
  split
  next hplaces =>
    obtain ⟨y, z, hy, hz⟩ := exists_div?_tenTo hx hpower hplaces
    rw [hy]
    exact ⟨z, hz⟩
  next hplaces =>
    obtain ⟨y, z, hy, hz⟩ := exists_div?_tenTo hx (show 0 < 308 by decide) (Nat.le_refl _)
    rw [hy]
    dsimp only [bind, Option.bind]
    rw [hz]
    dsimp only
    split
    next hrest =>
      obtain ⟨y', z', hy', hz'⟩ := exists_div?_tenTo (Magnitude.finite_of_div? hz)
        (show 0 < power - 308 by omega) (by omega)
      rw [hy']
      exact ⟨z', hz'⟩
    next => exact ⟨_, rfl⟩

/-- A numeral that stays away from the limit of the format by two roundings has a value. -/
theorem exists_magnitude? {n : Numeral} (hwhole : valueFrom 0 n.whole < 2 ^ 64)
    (hlimit : n.decimal * (1 + 1 / 2 ^ 53) ^ 2 < limit) : ∃ x, n.magnitude? = some x := by
  obtain ⟨hvalue, hdecimal⟩ := significand_spec hwhole
  unfold magnitude?
  dsimp only
  generalize n.significand = s at hvalue hdecimal
  generalize s.power + n.exponent.getD 0 = power at hdecimal
  have hcast : ((s.value : Nat) : ℚ) / (1 : Nat) = s.value := by rw [Nat.cast_one, div_one]
  have hsignificand : (s.value : ℚ) < limit := by
    calc
      (s.value : ℚ) < 2 ^ 64 := by exact_mod_cast hvalue
      _ ≤ 10 ^ 64 := by norm_num only
      _ ≤ 10 ^ 308 := pow_le_pow_right₀ (by norm_num) (by decide)
      _ < limit := Binary64.tenTo_lt_limit
  obtain ⟨x, hx⟩ := Binary64.exists_nearest?_eq_some one_pos (hcast ▸ hsignificand)
  rw [hx]
  dsimp only [bind, Option.bind]
  split
  next => exact ⟨x, rfl⟩
  next hzero =>
    have hone : (1 : ℚ) ≤ s.value := by exact_mod_cast Nat.one_le_iff_ne_zero.2 hzero
    split
    next hpower =>
      obtain ⟨places, rfl⟩ := Int.eq_ofNat_of_zero_le hpower
      rw [zpow_natCast] at hdecimal
      have hplaces : places ≤ 308 := by
        by_contra hlarge
        refine lt_irrefl limit ?_
        calc
          limit < 10 ^ 309 := Binary64.limit_lt_tenTo
          _ ≤ 10 ^ places := pow_le_pow_right₀ (by norm_num) (Nat.not_le.1 hlarge)
          _ ≤ s.value * 10 ^ places := le_mul_of_one_le_left (by positivity) hone
          _ ≤ n.decimal := hdecimal
          _ ≤ n.decimal * (1 + 1 / 2 ^ 53) ^ 2 :=
            le_mul_of_one_le_right n.decimal_nonneg (by norm_num)
          _ < limit := hlimit
      obtain ⟨y, hy, hhigh, -⟩ := exists_nearest?_tenTo hplaces
      have hrounded := (Binary64.value_of_nearest? (Nat.pos_of_ne_zero hzero) one_pos
        (hcast.symm ▸ hone) hx).1
      rw [hcast] at hrounded
      rw [if_pos (by omega), Int.toNat_natCast, hy]
      apply Magnitude.exists_mul?_eq_some
      calc
        x.value * y.value ≤ s.value * (1 + 1 / 2 ^ 53) * (10 ^ places * (1 + 1 / 2 ^ 53)) := by
          gcongr
          exact y.value_nonneg
        _ = s.value * 10 ^ places * (1 + 1 / 2 ^ 53) ^ 2 := by ring
        _ ≤ n.decimal * (1 + 1 / 2 ^ 53) ^ 2 := by gcongr
        _ < limit := hlimit
    next hpower => exact exists_dividedBy (Binary64.finite_of_nearest? hx) (by omega)

/-! ## Formats -/

theorem finite_of_dividedBy {x z : Magnitude} {power : Nat} (h : dividedBy x power = some z) :
    z.Finite := by
  unfold dividedBy at h
  dsimp only at h
  split at h
  next =>
    obtain ⟨y, -, hz⟩ := Option.bind_eq_some_iff.1 h
    exact Magnitude.finite_of_div? hz
  next =>
    obtain ⟨y, -, h⟩ := Option.bind_eq_some_iff.1 h
    split at h
    next =>
      obtain ⟨y', -, hz⟩ := Option.bind_eq_some_iff.1 h
      exact Magnitude.finite_of_div? hz
    next => exact Binary64.finite_of_nearest? h

theorem finite_of_magnitude? {n : Numeral} {z : Magnitude} (h : n.magnitude? = some z) :
    z.Finite := by
  unfold magnitude? at h
  obtain ⟨x, hx, h⟩ := Option.bind_eq_some_iff.1 h
  split at h
  next => exact Option.some.inj h ▸ Binary64.finite_of_nearest? hx
  next =>
    split at h
    next =>
      split at h
      next =>
        obtain ⟨y, -, hz⟩ := Option.bind_eq_some_iff.1 h
        exact Magnitude.finite_of_mul? hz
      next => cases h
    next => exact finite_of_dividedBy h

theorem integer?_bounds {n : Numeral} {i : Int} (h : n.integer? = some i) :
    -(twoTo 63 : Int) ≤ i ∧ i < twoTo 64 := by
  have hpositive : (twoTo 63 : Int) < twoTo 64 := by decide
  unfold integer? at h
  split at h
  next => cases h
  next =>
    obtain ⟨whole, -, h⟩ := Option.bind_eq_some_iff.1 h
    split at h <;> split at h <;> cases h <;> omega

/-- Whatever value a numeral has is within its format. -/
theorem bounded_of_number {n : Numeral} {x : Number} (h : n.number = .ok x) : x.Bounded := by
  unfold number at h
  split at h
  next i hi => exact Except.ok.inj h ▸ integer?_bounds hi
  next =>
    split at h
    next z hz => exact Except.ok.inj h ▸ finite_of_magnitude? hz
    next => cases h

theorem exists_number {n : Numeral} {z : Magnitude} (h : n.magnitude? = some z) :
    ∃ x, n.number = .ok x := by
  unfold number
  rw [h]
  split <;> exact ⟨_, rfl⟩

end Json.Numeral

end DeviceSync
