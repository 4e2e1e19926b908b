import DeviceSync.Number.Shortest
import DeviceSync.Proofs.Number.Rounding

/-!
# Shortest Decimals Are Near

A decimal that reads back as a number is not above the middle between this number and the next one,
and dropping its zeros does not change what it stands for. So the shortest decimal of a finite
number is below the limit of the format, and but for the two greatest numbers it is so far below
that two roundings do not reach it.
-/

namespace DeviceSync

/-- The number that a decimal stands for. -/
def Decimal.value (d : Decimal) : ℚ :=
  d.digits * 10 ^ d.exponent

namespace Binary64.Magnitude

/-- The middle between a number and the next one above it. -/
def upper (x : Magnitude) : ℚ :=
  (x.significand + 1 / 2) * 2 ^ x.exponent

theorem upper_eq (x : Magnitude) :
    x.upper = (4 * x.significand + 2 : Nat) * 2 ^ (x.exponent - 2) := by
  rw [upper, zpow_sub₀ two_ne_zero, zpow_ofNat]
  push_cast
  ring

theorem upper_nonneg (x : Magnitude) : 0 ≤ x.upper := by
  unfold upper
  positivity

/-! ## Decimals that read back -/

theorem le_of_compareScaled {n m : Nat} {k e : Int} (h : compareScaled n k m e ≠ .gt) :
    (n * 10 ^ k : ℚ) ≤ m * 2 ^ e := by
  have hnatural := Nat.compare_ne_gt.1 h
  rw [zpow_eq_div (by norm_num) k, zpow_eq_div two_ne_zero e, mul_div_assoc', mul_div_assoc',
    div_le_div_iff₀ (by positivity) (by positivity)]
  simp only [← cast_tenTo, ← cast_twoTo]
  exact_mod_cast hnatural

/-- Whatever reads back as a number is not above the middle. -/
theorem le_upper_of_covers {x : Magnitude} {n : Nat} {k : Int} (h : x.covers n k = true) :
    (n * 10 ^ k : ℚ) ≤ x.upper := by
  rw [upper_eq]
  unfold covers interval at h
  dsimp only at h
  split at h
  next _ hhigh => exact le_of_compareScaled (by rw [hhigh]; decide)
  next hlow =>
    -- The lower end reads back too, and it is below the upper end.
    refine (le_of_compareScaled (by rw [hlow]; decide)).trans ?_
    gcongr
    omega
  next _ hhigh _ => exact le_of_compareScaled (by rw [hhigh]; decide)
  next => cases h

theorem value_le_upper_of_onGrid? {x : Magnitude} {k : Int} {d : Decimal}
    (h : x.onGrid? k = some d) : d.value ≤ x.upper := by
  unfold onGrid? at h
  dsimp only at h
  split at h
  next hlow hhigh =>
    obtain rfl := Option.some.inj h
    split
    · exact le_upper_of_covers hlow
    · exact le_upper_of_covers hhigh
  next hlow _ => exact Option.some.inj h ▸ le_upper_of_covers hlow
  next _ hhigh => exact Option.some.inj h ▸ le_upper_of_covers hhigh
  next => cases h

theorem value_dropZeros (fuel : Nat) (d : Decimal) : (dropZeros fuel d).value = d.value := by
  induction fuel generalizing d with
  | zero => rfl
  | succ fuel ih =>
    rw [dropZeros]
    split
    next hzeros =>
      have hdigits : d.digits = 10 * (d.digits / 10) := by omega
      rw [ih, Decimal.value, Decimal.value, zpow_add_one₀ (by norm_num)]
      conv_rhs => rw [hdigits, Nat.cast_mul, Nat.cast_ofNat]
      ring
    next => rfl

/-- The shortest decimal of a number is not above the middle either. -/
theorem value_shortest_le (x : Magnitude) : x.shortest.value ≤ x.upper := by
  have hzero : Decimal.value ⟨0, 0⟩ = 0 := by
    rw [Decimal.value, Nat.cast_zero, zero_mul]
  unfold shortest
  split
  next => exact hzero ▸ x.upper_nonneg
  next =>
    dsimp only
    rw [value_dropZeros]
    generalize hgrids : ((List.range 18).map fun count : Nat ↦ x.leading + 1 - count) = grids
    cases hfound : grids.findSome? x.onGrid? with
    | none => exact hzero ▸ x.upper_nonneg
    | some d =>
      obtain ⟨k, -, hd⟩ := List.exists_of_findSome?_eq_some hfound
      exact value_le_upper_of_onGrid? hd

/-! ## The distance from the limit -/

/-- One of the two greatest finite numbers. -/
def IsGreatest (x : Magnitude) : Prop :=
  x.exponent = 971 ∧ 2 ^ 53 ≤ x.significand + 2

/-- Below the two greatest numbers the middle stays under the limit when it is rounded twice. -/
theorem upper_mul_lt_limit {x : Magnitude} (hx : x.Finite) (hbelow : ¬x.IsGreatest) :
    x.upper * (1 + 1 / 2 ^ 53) ^ 2 < limit := by
  have hsplit : (2 : ℚ) ^ (971 : Int) = 2 * 2 ^ 970 := by
    rw [zpow_ofNat, pow_succ']
  have hunit : (0 : ℚ) < 2 ^ 970 := by positivity
  have hless : (x.significand : ℚ) < 2 ^ 53 := by exact_mod_cast hx.significand
  rcases Int.lt_or_eq_of_le hx.exponent with hexponent | hexponent
  · have hpower : (2 : ℚ) ^ x.exponent ≤ 2 ^ 970 := by
      rw [← zpow_ofNat]
      exact zpow_le_zpow_right₀ one_le_two (by omega)
    calc
      x.upper * (1 + 1 / 2 ^ 53) ^ 2 ≤ (2 ^ 53 + 1 / 2) * 2 ^ 970 * (1 + 1 / 2 ^ 53) ^ 2 := by
        unfold upper
        gcongr
      _ < limit := by
        rw [limit, mul_right_comm]
        gcongr
        norm_num
  · have hsignificand : x.significand + 3 ≤ 2 ^ 53 := by
      have hless := hx.significand
      by_contra hlarge
      exact hbelow ⟨hexponent, by omega⟩
    have hcast : (x.significand : ℚ) + 3 ≤ 2 ^ 53 := by exact_mod_cast hsignificand
    rw [upper, hexponent, hsplit, limit]
    generalize (2 : ℚ) ^ 970 = unit at hunit
    calc
      (x.significand + 1 / 2) * (2 * unit) * (1 + 1 / 2 ^ 53) ^ 2 =
          (2 * x.significand + 1) * (1 + 1 / 2 ^ 53) ^ 2 * unit := by ring
      _ ≤ (2 * (2 ^ 53 - 3) + 1) * (1 + 1 / 2 ^ 53) ^ 2 * unit := by
        gcongr
        linarith
      _ < (2 ^ 54 - 1) * unit := by
        gcongr
        norm_num

end Binary64.Magnitude

end DeviceSync
