import DeviceSync.Number.Binary64
import Mathlib.Algebra.Order.Field.Power
import Mathlib.Tactic.Linarith
import Mathlib.Tactic.NormNum
import Mathlib.Tactic.Positivity
import Mathlib.Tactic.Ring

/-!
# Rounding Stays in Range

A fraction has a nearest finite number unless it is as large as the middle between the greatest
finite number and the next power of two. Rounding a number that is not tiny adds at most one part
in `2 ^ 53` to it, and takes away no more than half of it. Products and quotients of numbers that
keep away from the limit therefore have a value, even after several roundings.
-/

namespace DeviceSync.Binary64

theorem cast_twoTo (n : Nat) : (twoTo n : ℚ) = 2 ^ n := by
  rw [twoTo, Nat.pow_eq, Nat.cast_pow, Nat.cast_ofNat]

theorem cast_tenTo (n : Nat) : (tenTo n : ℚ) = 10 ^ n := by
  rw [tenTo, Nat.pow_eq, Nat.cast_pow, Nat.cast_ofNat]

/-- An integer power as a quotient of two natural ones. -/
theorem zpow_eq_div {b : ℚ} (hb : b ≠ 0) (e : Int) : b ^ e = b ^ e.toNat / b ^ (-e).toNat := by
  have he : e = (e.toNat : Int) - ((-e).toNat : Int) := by omega
  conv_lhs => rw [he, zpow_sub₀ hb, zpow_natCast, zpow_natCast]

/-- The least fraction that rounds to no finite number. -/
def limit : ℚ := (2 ^ 54 - 1) * 2 ^ 970

theorem limit_eq_cast : limit = ((2 ^ 54 - 1) * twoTo 970 : Nat) := by
  rw [limit, Nat.cast_mul, cast_twoTo]
  norm_num only

theorem limit_pos : 0 < limit := by
  unfold limit
  norm_num only
  positivity

theorem tenTo_lt_limit : (10 : ℚ) ^ 308 < limit := by
  have h : tenTo 308 < (2 ^ 54 - 1) * twoTo 970 := by decide +kernel
  rw [limit_eq_cast, ← cast_tenTo, Nat.cast_lt]
  exact h

theorem limit_lt_tenTo : limit < (10 : ℚ) ^ 309 := by
  have h : (2 ^ 54 - 1) * twoTo 970 < tenTo 309 := by decide +kernel
  rw [limit_eq_cast, ← cast_tenTo, Nat.cast_lt]
  exact h

theorem lt_five_mul_limit : (2 : ℚ) ^ 1024 < 5 * limit := by
  rw [limit, ← mul_assoc, (by decide : 1024 = 54 + 970), pow_add]
  gcongr
  norm_num

namespace Magnitude

/-- The number itself. -/
def value (x : Magnitude) : ℚ :=
  x.significand * 2 ^ x.exponent

/-- Whether the significand and the exponent are within the format. -/
structure Finite (x : Magnitude) : Prop where
  significand : x.significand < 2 ^ 53
  exponent : x.exponent ≤ 971

theorem value_nonneg (x : Magnitude) : 0 ≤ x.value := by
  unfold value
  positivity

theorem Finite.value_lt {x : Magnitude} (h : x.Finite) : x.value < 2 ^ 1024 := by
  have hsignificand : (x.significand : ℚ) < 2 ^ 53 := by exact_mod_cast h.significand
  calc
    x.value ≤ x.significand * 2 ^ (971 : Int) := by
      unfold value
      gcongr
      · norm_num
      · exact h.exponent
    _ < 2 ^ 53 * 2 ^ (971 : Int) := by gcongr
    _ = 2 ^ 1024 := by rw [zpow_ofNat, ← pow_add]

end Magnitude

/-! ## The nearest number -/

theorem roundDiv_cases (num den : Nat) :
    (roundDiv num den = num / den ∧ 2 * (num % den) ≤ den) ∨
      (roundDiv num den = num / den + 1 ∧ den ≤ 2 * (num % den)) := by
  unfold roundDiv
  dsimp only
  split
  · exact .inl ⟨rfl, by omega⟩
  · exact .inr ⟨rfl, by omega⟩

/-- Rounding moves a fraction by at most one half. -/
theorem roundDiv_near (num : Nat) {den : Nat} (hden : 0 < den) :
    (roundDiv num den : ℚ) ≤ num / den + 1 / 2 ∧ (num / den : ℚ) ≤ roundDiv num den + 1 / 2 := by
  have hpos : (0 : ℚ) < den := by exact_mod_cast hden
  have hsplit : (num : ℚ) = den * (num / den : Nat) + (num % den : Nat) := by
    exact_mod_cast (Nat.div_add_mod num den).symm
  have hfloor : (num / den : ℚ) = (num / den : Nat) + (num % den : Nat) / den := by
    rw [div_eq_iff hpos.ne', add_mul, div_mul_cancel₀ _ hpos.ne', mul_comm _ (den : ℚ)]
    exact hsplit
  have hmod : ((num % den : Nat) : ℚ) ≤ den := by exact_mod_cast (Nat.mod_lt num hden).le
  rw [hfloor]
  rcases roundDiv_cases num den with ⟨hround, hhalf⟩ | ⟨hround, hhalf⟩
  · have hrest : ((num % den : Nat) : ℚ) / den ≤ 1 / 2 := by
      have hcast : (2 * (num % den : Nat) : ℚ) ≤ den := by exact_mod_cast hhalf
      rw [div_le_div_iff₀ hpos two_pos]
      linarith
    have hnonneg : (0 : ℚ) ≤ ((num % den : Nat) : ℚ) / den := by positivity
    rw [hround]
    constructor <;> linarith
  · have hrest : 1 / 2 ≤ ((num % den : Nat) : ℚ) / den := by
      have hcast : (den : ℚ) ≤ 2 * (num % den : Nat) := by exact_mod_cast hhalf
      rw [div_le_div_iff₀ two_pos hpos]
      linarith
    have hone : ((num % den : Nat) : ℚ) / den ≤ 1 := (div_le_one hpos).2 hmod
    rw [hround, Nat.cast_add, Nat.cast_one]
    constructor <;> linarith

/-- A fraction in units of a power of two. -/
theorem scaled_eq (num : Nat) {den : Nat} (hden : 0 < den) (e : Int) :
    0 < (scaled num den e).2 ∧
      ((scaled num den e).1 / (scaled num den e).2 : ℚ) = num / den / 2 ^ e := by
  unfold scaled
  rw [zpow_eq_div two_ne_zero]
  split
  next he =>
    have hneg : (-e).toNat = 0 := by omega
    refine ⟨Nat.mul_pos hden (twoTo_pos _), ?_⟩
    rw [Nat.cast_mul, cast_twoTo, hneg, pow_zero, div_one, div_div]
  next he =>
    have hpos : e.toNat = 0 := by omega
    refine ⟨hden, ?_⟩
    rw [Nat.cast_mul, cast_twoTo, hpos, pow_zero, one_div, div_inv_eq_mul, div_mul_eq_mul_div]

/-- How the significand and the exponent are put together to the nearest number. -/
theorem nearest?_of_pos {num : Nat} (den : Nat) (hnum : 0 < num) :
    nearest? num den =
      let e := exponentFor num den
      let significand := roundDiv (scaled num den e).1 (scaled num den e).2
      if significand < 2 ^ 53 then if e ≤ 971 then some ⟨significand, e⟩ else none
      else if e + 1 ≤ 971 then some ⟨2 ^ 52, e + 1⟩ else none := by
  unfold nearest?
  rw [if_neg hnum.ne']
  dsimp only
  by_cases hsignificand : roundDiv (scaled num den (exponentFor num den)).1
      (scaled num den (exponentFor num den)).2 < 2 ^ 53
  · rw [if_pos hsignificand]
    exact (congrArg (fun p : Nat × Int ↦ if p.2 ≤ 971 then some (Magnitude.mk p.1 p.2) else none)
      (if_pos hsignificand)).trans rfl
  · rw [if_neg hsignificand]
    exact (congrArg (fun p : Nat × Int ↦ if p.2 ≤ 971 then some (Magnitude.mk p.1 p.2) else none)
      (if_neg hsignificand)).trans rfl

theorem finite_of_nearest? {num den : Nat} {x : Magnitude} (h : nearest? num den = some x) :
    x.Finite := by
  rcases Nat.eq_zero_or_pos num with rfl | hnum
  · obtain rfl := Option.some.inj h
    exact ⟨by decide, by decide⟩
  · rw [nearest?_of_pos den hnum] at h
    dsimp only at h
    split at h <;> split at h <;> cases h
    · exact ⟨‹_›, ‹_›⟩
    · exact ⟨show 2 ^ 52 < 2 ^ 53 by decide, ‹_›⟩

section Exponent

variable {num den : Nat} (hnum : 0 < num) (hden : 0 < den)

include hnum hden

theorem log2_bounds :
    (2 : ℚ) ^ ((num.log2 : Int) - den.log2 - 1) < num / den ∧
      (num / den : ℚ) < 2 ^ ((num.log2 : Int) - den.log2 + 1) := by
  have hpos : (0 : ℚ) < den := by exact_mod_cast hden
  have hnumLow : (2 : ℚ) ^ (num.log2 : Int) ≤ num := by
    exact_mod_cast Nat.log2_self_le hnum.ne'
  have hnumHigh : (num : ℚ) < 2 ^ ((num.log2 : Int) + 1) := by
    exact_mod_cast Nat.lt_log2_self
  have hdenLow : (2 : ℚ) ^ (den.log2 : Int) ≤ den := by
    exact_mod_cast Nat.log2_self_le hden.ne'
  have hdenHigh : (den : ℚ) < 2 ^ ((den.log2 : Int) + 1) := by
    exact_mod_cast Nat.lt_log2_self
  have hpow : (0 : ℚ) < 2 ^ ((num.log2 : Int) - den.log2 - 1) := by positivity
  constructor
  · rw [lt_div_iff₀ hpos]
    calc
      _ < (2 : ℚ) ^ ((num.log2 : Int) - den.log2 - 1) * 2 ^ ((den.log2 : Int) + 1) := by gcongr
      _ = 2 ^ (num.log2 : Int) := by
        rw [← zpow_add₀ two_ne_zero]
        congr 1
        omega
      _ ≤ num := hnumLow
  · rw [div_lt_iff₀ hpos]
    calc
      (num : ℚ) < 2 ^ ((num.log2 : Int) + 1) := hnumHigh
      _ = (2 : ℚ) ^ ((num.log2 : Int) - den.log2 + 1) * 2 ^ (den.log2 : Int) := by
        rw [← zpow_add₀ two_ne_zero]
        congr 1
        omega
      _ ≤ (2 : ℚ) ^ ((num.log2 : Int) - den.log2 + 1) * den := by gcongr

/-- The exponent for 53 bits before the point is the guess or one less. -/
theorem exists_exponentFor_eq :
    ∃ e : Int, exponentFor num den = max (-1074) e ∧
      (2 : ℚ) ^ 52 ≤ num / den / 2 ^ e ∧ (num / den / 2 ^ e : ℚ) < 2 ^ 53 := by
  obtain ⟨hlow, hhigh⟩ := log2_bounds hnum hden
  unfold exponentFor
  dsimp only
  generalize hguess : (num.log2 : Int) - den.log2 - 52 = guess
  obtain ⟨hpos, hvalue⟩ := scaled_eq num hden guess
  have hcast : (0 : ℚ) < (scaled num den guess).2 := by exact_mod_cast hpos
  have hsmall : (scaled num den guess).1 / (scaled num den guess).2 < twoTo 52 ↔
      (num / den / 2 ^ guess : ℚ) < 2 ^ 52 := by
    rw [Nat.div_lt_iff_lt_mul hpos, ← hvalue, div_lt_iff₀ hcast, ← cast_twoTo]
    exact_mod_cast Iff.rfl
  by_cases hlt : (scaled num den guess).1 / (scaled num den guess).2 < twoTo 52
  · refine ⟨guess - 1, by rw [if_pos hlt], ?_, ?_⟩
    · rw [le_div_iff₀ (by positivity), ← zpow_natCast, ← zpow_add₀ two_ne_zero]
      calc
        _ = (2 : ℚ) ^ ((num.log2 : Int) - den.log2 - 1) := by
          congr 1
          omega
        _ ≤ num / den := hlow.le
    · calc
        (num / den / 2 ^ (guess - 1) : ℚ) = num / den / 2 ^ guess * 2 := by
          rw [zpow_sub_one₀ two_ne_zero, div_mul_eq_div_div, div_inv_eq_mul]
        _ < 2 ^ 52 * 2 := by
          gcongr
          exact hsmall.1 hlt
        _ = 2 ^ 53 := by norm_num
  · refine ⟨guess, by rw [if_neg hlt], not_lt.1 (mt hsmall.2 hlt), ?_⟩
    rw [div_lt_iff₀ (by positivity), ← zpow_natCast, ← zpow_add₀ two_ne_zero]
    calc
      (num / den : ℚ) < 2 ^ ((num.log2 : Int) - den.log2 + 1) := hhigh
      _ = _ := by
        congr 1
        omega

/-- In units of its exponent a fraction is below `2 ^ 53`, and not below `2 ^ 52` unless the
exponent is the least one. -/
theorem exponentFor_spec :
    (num / den / 2 ^ exponentFor num den : ℚ) < 2 ^ 53 ∧
      (exponentFor num den = -1074 ∨ (2 : ℚ) ^ 52 ≤ num / den / 2 ^ exponentFor num den) := by
  obtain ⟨e, he, hlow, hhigh⟩ := exists_exponentFor_eq hnum hden
  rw [he]
  rcases le_total (-1074) e with hle | hle
  · rw [max_eq_right hle]
    exact ⟨hhigh, .inr hlow⟩
  · rw [max_eq_left hle]
    refine ⟨lt_of_le_of_lt ?_ hhigh, .inl rfl⟩
    gcongr
    exact one_le_two

/-- The significand is within one half of the fraction. -/
theorem exists_nearest?_eq :
    ∃ significand : Nat,
      (significand : ℚ) ≤ num / den / 2 ^ exponentFor num den + 1 / 2 ∧
      (num / den / 2 ^ exponentFor num den : ℚ) ≤ significand + 1 / 2 ∧
      nearest? num den =
        let e := exponentFor num den
        if significand < 2 ^ 53 then if e ≤ 971 then some ⟨significand, e⟩ else none
        else if e + 1 ≤ 971 then some ⟨2 ^ 52, e + 1⟩ else none := by
  obtain ⟨hpos, hvalue⟩ := scaled_eq num hden (exponentFor num den)
  obtain ⟨hhigh, hlow⟩ := roundDiv_near (scaled num den (exponentFor num den)).1 hpos
  rw [hvalue] at hhigh hlow
  exact ⟨_, hhigh, hlow, nearest?_of_pos den hnum⟩

/-- A fraction below the limit has an exponent within the format. -/
theorem exponentFor_le (hlimit : (num / den : ℚ) < limit) : exponentFor num den ≤ 971 := by
  rcases (exponentFor_spec hnum hden).2 with hleast | hnormal
  · omega
  · rw [le_div_iff₀ (by positivity), ← zpow_natCast, ← zpow_add₀ two_ne_zero] at hnormal
    have hbelow : (2 : ℚ) ^ ((52 : Nat) + exponentFor num den) < 2 ^ (1024 : Int) := by
      refine lt_of_le_of_lt hnormal (lt_trans hlimit ?_)
      rw [limit, sub_mul, zpow_ofNat, ← pow_add]
      exact sub_lt_self _ (by positivity)
    have hexponent := (zpow_lt_zpow_iff_right₀ (one_lt_two (α := ℚ))).1 hbelow
    omega

theorem exists_nearest?_eq_some_of_pos (hlimit : (num / den : ℚ) < limit) :
    ∃ x, nearest? num den = some x := by
  obtain ⟨significand, hhigh, -, hnearest⟩ := exists_nearest?_eq hnum hden
  have hexponent := exponentFor_le hnum hden hlimit
  rw [hnearest]
  dsimp only
  rw [if_pos hexponent]
  by_cases hsignificand : significand < 2 ^ 53
  · rw [if_pos hsignificand]
    exact ⟨_, rfl⟩
  · -- With the greatest exponent the significand would not be rounded up so far.
    have hne : exponentFor num den ≠ 971 := by
      intro heq
      rw [heq, zpow_ofNat] at hhigh
      have hunits : (num / den / 2 ^ 971 : ℚ) < 2 ^ 53 - 1 / 2 := by
        rw [div_lt_iff₀ (by positivity)]
        calc
          (num / den : ℚ) < limit := hlimit
          _ = (2 ^ 53 - 1 / 2) * 2 ^ 971 := by
            rw [limit, pow_succ (2 : ℚ) 970]
            generalize (2 : ℚ) ^ 970 = unit
            ring
      have hlarge : (2 : ℚ) ^ 53 ≤ significand := by exact_mod_cast not_lt.1 hsignificand
      generalize (num / den / 2 ^ 971 : ℚ) = units at hhigh hunits
      linarith
    rw [if_neg hsignificand, if_pos (by omega)]
    exact ⟨_, rfl⟩

/-- Rounding a fraction from one on adds little to it, and takes little away. -/
theorem value_of_nearest? {x : Magnitude} (hone : (1 : ℚ) ≤ num / den)
    (h : nearest? num den = some x) :
    x.value ≤ num / den * (1 + 1 / 2 ^ 53) ∧ (num / den : ℚ) / 2 ≤ x.value := by
  obtain ⟨significand, hhigh, hlow, hnearest⟩ := exists_nearest?_eq hnum hden
  obtain ⟨hless, hnormal⟩ := exponentFor_spec hnum hden
  generalize exponentFor num den = e at hhigh hlow hnearest hless hnormal
  have hpos : (0 : ℚ) < 2 ^ e := by positivity
  have hunits : (2 : ℚ) ^ 52 ≤ num / den / 2 ^ e := by
    rcases hnormal with rfl | hnormal
    · rw [zpow_neg, zpow_ofNat, div_inv_eq_mul]
      calc
        (2 : ℚ) ^ 52 ≤ 2 ^ 1074 := pow_le_pow_right₀ one_le_two (by decide)
        _ ≤ num / den * 2 ^ 1074 := le_mul_of_one_le_left (by positivity) hone
    · exact hnormal
  have hfraction : (num / den : ℚ) = num / den / 2 ^ e * 2 ^ e := (div_mul_cancel₀ _ hpos.ne').symm
  -- The value is the significand in units of the exponent, also when that moves up.
  have hvalue : x.value = (min significand (2 ^ 53) : Nat) * 2 ^ e := by
    rw [h] at hnearest
    dsimp only at hnearest
    split at hnearest
    next hsignificand =>
      split at hnearest
      next =>
        obtain rfl := Option.some.inj hnearest
        rw [Nat.min_eq_left hsignificand.le, Magnitude.value]
      next => cases hnearest
    next hsignificand =>
      split at hnearest
      next =>
        obtain rfl := Option.some.inj hnearest
        rw [Nat.min_eq_right (not_lt.1 hsignificand), Magnitude.value, zpow_add_one₀ two_ne_zero]
        push_cast
        ring
      next => cases hnearest
  rw [hvalue, hfraction, Nat.cast_min, Nat.cast_pow, Nat.cast_ofNat]
  generalize (num / den / 2 ^ e : ℚ) = units at hhigh hlow hless hunits
  constructor
  · calc
      min (significand : ℚ) (2 ^ 53) * 2 ^ e ≤ (units + 1 / 2) * 2 ^ e := by
        gcongr
        exact (min_le_left _ _).trans hhigh
      _ ≤ units * (1 + 1 / 2 ^ 53) * 2 ^ e := by
        gcongr
        linarith
      _ = units * 2 ^ e * (1 + 1 / 2 ^ 53) := by ring
  · rw [mul_div_right_comm]
    gcongr
    apply le_min <;> linarith

end Exponent

/-- A fraction below the limit has a nearest number. -/
theorem exists_nearest?_eq_some {num den : Nat} (hden : 0 < den)
    (hlimit : (num / den : ℚ) < limit) : ∃ x, nearest? num den = some x := by
  rcases Nat.eq_zero_or_pos num with rfl | hnum
  · exact ⟨_, rfl⟩
  · exact exists_nearest?_eq_some_of_pos hnum hden hlimit

/-! ## Products and quotients -/

theorem exists_nearestScaled?_eq_some {num den : Nat} (hden : 0 < den) {e : Int}
    (hlimit : (num / den * 2 ^ e : ℚ) < limit) : ∃ x, nearestScaled? num den e = some x := by
  rw [zpow_eq_div two_ne_zero] at hlimit
  unfold nearestScaled?
  split
  next he =>
    apply exists_nearest?_eq_some hden
    have hneg : (-e).toNat = 0 := by omega
    rwa [hneg, pow_zero, div_one, div_mul_eq_mul_div, ← cast_twoTo, ← Nat.cast_mul] at hlimit
  next he =>
    apply exists_nearest?_eq_some (Nat.mul_pos hden (twoTo_pos _))
    have hpos : e.toNat = 0 := by omega
    rwa [hpos, pow_zero, mul_one_div, div_div, ← cast_twoTo, ← Nat.cast_mul] at hlimit

theorem finite_of_nearestScaled? {num den : Nat} {e : Int} {x : Magnitude}
    (h : nearestScaled? num den e = some x) : x.Finite := by
  unfold nearestScaled? at h
  split at h <;> exact finite_of_nearest? h

namespace Magnitude

theorem exists_mul?_eq_some {x y : Magnitude} (hlimit : x.value * y.value < limit) :
    ∃ z, x.mul? y = some z := by
  apply exists_nearestScaled?_eq_some one_pos
  rw [Nat.cast_one, div_one, Nat.cast_mul, zpow_add₀ two_ne_zero, mul_mul_mul_comm]
  exact hlimit

theorem exists_div?_eq_some {x y : Magnitude} (hy : 0 < y.significand)
    (hlimit : x.value / y.value < limit) : ∃ z, x.div? y = some z := by
  apply exists_nearestScaled?_eq_some hy
  rw [zpow_sub₀ two_ne_zero, div_mul_div_comm]
  exact hlimit

theorem finite_of_mul? {x y z : Magnitude} (h : x.mul? y = some z) : z.Finite :=
  finite_of_nearestScaled? h

theorem finite_of_div? {x y z : Magnitude} (h : x.div? y = some z) : z.Finite :=
  finite_of_nearestScaled? h

end Magnitude

end DeviceSync.Binary64
