import DeviceSync.Time.Calendar
import Mathlib.Algebra.Ring.Nat

/-!
# Days and Their Numbers

Every number is the number of a day that the calendar has. Of the cycles that are taken out, those
of a hundred years and of a single year need care: the last one of its kind is a day longer, so the
quotient is cut at three. What remains lies in a year that is long enough for it.
-/

namespace DeviceSync.Date

/-! ## Months -/

theorem daysBeforeMonth_succ (leap : Bool) (m : Nat) :
    daysBeforeMonth leap (m + 1) = ((monthLengths leap).take m).sum := by
  rw [daysBeforeMonth, List.sum_eq_foldl]
  rfl

theorem sum_monthLengths (leap : Bool) :
    (monthLengths leap).sum = 365 + if leap then 1 else 0 := by
  cases leap <;> rfl

/-- A day that comes before the end of the last month is in one of the months. -/
theorem exists_inMonths (lengths : List Nat) (month rest : Nat) (h : rest < lengths.sum) :
    ∃ m day length, lengths[m]? = some length ∧ day < length ∧
      (lengths.take m).sum + day = rest ∧ inMonths lengths month rest = (month + m, day + 1) := by
  induction lengths generalizing month rest with
  | nil => exact absurd h (Nat.not_lt_zero rest)
  | cons first lengths ih =>
    rw [inMonths]
    by_cases hfirst : rest < first
    · rw [if_pos hfirst]
      exact ⟨0, rest, first, rfl, hfirst, Nat.zero_add rest, rfl⟩
    · rw [List.sum_cons] at h
      obtain ⟨m, day, length, hlength, hday, hsum, hmonths⟩ :=
        ih (month + 1) (rest - first) (by omega)
      refine ⟨m + 1, day, length, hlength, hday, ?_, ?_⟩
      · rw [List.take_succ_cons, List.sum_cons]
        omega
      · rw [if_neg hfirst, hmonths, Nat.add_assoc, Nat.add_comm 1 m]

/-! ## Years -/

/-- The cycles of 400, 100, 4 and 1 years before a day, and the days of its own year before it. -/
structure Cycles where
  quads : Int
  centuries : Nat
  fours : Nat
  ones : Nat
  rest : Nat

namespace Cycles

def year (c : Cycles) : Int :=
  400 * c.quads + (100 * c.centuries + 4 * c.fours + c.ones : Nat) + 1

/-- Cycles that are counted as far as they go. A year has its last day only if it is a leap year. -/
structure Counted (c : Cycles) : Prop where
  centuries : c.centuries ≤ 3
  fours : c.fours ≤ 24
  ones : c.ones ≤ 3
  rest : c.rest < 365 + if isLeap c.year then 1 else 0

theorem isLeap_year (c : Cycles) (hcenturies : c.centuries ≤ 3) (hfours : c.fours ≤ 24)
    (hones : c.ones ≤ 3) :
    isLeap c.year = true ↔ c.ones = 3 ∧ (c.fours = 24 → c.centuries = 3) := by
  rw [isLeap, year, Bool.and_eq_true, Bool.or_eq_true, decide_eq_true_iff, decide_eq_true_iff,
    decide_eq_true_iff]
  omega

/-- The days before a year are those of the cycles before it. -/
theorem Counted.daysBeforeYear {c : Cycles} (h : c.Counted) :
    daysBeforeYear c.year =
      146097 * c.quads + (36524 * c.centuries + 1461 * c.fours + 365 * c.ones : Nat) := by
  have hcenturies := h.centuries
  have hfours := h.fours
  have hones := h.ones
  rw [Date.daysBeforeYear, year]
  omega

/-- The cycles before the day with a given number. -/
def ofNumber (n : Int) : Cycles :=
  let inQuad := ((n + epochDay) % 146097).toNat
  let centuries := min (inQuad / 36524) 3
  let inCentury := inQuad - 36524 * centuries
  let ones := min (inCentury % 1461 / 365) 3
  ⟨(n + epochDay) / 146097, centuries, inCentury / 1461, ones, inCentury % 1461 - 365 * ones⟩

theorem counted_ofNumber (n : Int) : (ofNumber n).Counted := by
  have hcenturies : (ofNumber n).centuries ≤ 3 := Nat.min_le_right ..
  have hones : (ofNumber n).ones ≤ 3 := Nat.min_le_right ..
  have hfours : (ofNumber n).fours ≤ 24 := by
    simp only [ofNumber]
    omega
  refine ⟨hcenturies, hfours, hones, ?_⟩
  have hleap := isLeap_year (ofNumber n) hcenturies hfours hones
  by_cases hlast : isLeap (ofNumber n).year = true
  · rw [if_pos hlast]
    simp only [ofNumber]
    omega
  · -- The day would be the last one of a cycle of four years that is cut short.
    rw [if_neg hlast]
    rw [hleap] at hlast
    simp only [ofNumber] at hlast ⊢
    omega

theorem number_ofNumber (n : Int) :
    146097 * (ofNumber n).quads + (36524 * (ofNumber n).centuries + 1461 * (ofNumber n).fours +
      365 * (ofNumber n).ones + (ofNumber n).rest : Nat) = n + epochDay := by
  simp only [ofNumber]
  omega

end Cycles

/-! ## Days -/

theorem ofNumber_eq (n : Int) :
    ofNumber n =
      let c := Cycles.ofNumber n
      let (month, day) := inMonths (monthLengths (isLeap c.year)) 1 c.rest
      ⟨c.year, month, day⟩ := rfl

/-- The day with a given number is one that the calendar has, and has this number. -/
theorem exists_and_number_ofNumber (n : Int) :
    (ofNumber n).Exists ∧ (ofNumber n).number = n ∧ (ofNumber n).month ≤ 12 := by
  have hcounted := Cycles.counted_ofNumber n
  have hnumber := Cycles.number_ofNumber n
  have hyear := hcounted.daysBeforeYear
  rw [ofNumber_eq]
  generalize Cycles.ofNumber n = c at hcounted hnumber hyear ⊢
  obtain ⟨m, day, length, hlength, hday, hsum, hmonths⟩ :=
    exists_inMonths (monthLengths (isLeap c.year)) 1 c.rest
      (by rw [sum_monthLengths]; exact hcounted.rest)
  have hm : m < 12 := (List.getElem?_eq_some_iff.1 hlength).1
  dsimp only
  rw [hmonths, Nat.add_comm 1 m]
  refine ⟨⟨Nat.succ_le_succ (Nat.zero_le day), ?_⟩, ?_, Nat.succ_le_of_lt hm⟩
  · rw [monthLength, List.getD_eq_getElem?_getD, hlength]
    exact hday
  · rw [number, daysBeforeMonth_succ]
    dsimp only
    omega

theorem monthLength_le (leap : Bool) (month : Nat) : monthLength leap month ≤ 31 := by
  cases month with
  | zero => exact Nat.zero_le _
  | succ m =>
    rw [monthLength, List.getD_eq_getElem?_getD]
    cases hlength : (monthLengths leap)[m]? with
    | none => exact Nat.zero_le _
    | some length =>
      have hall : ∀ length ∈ monthLengths leap, length ≤ 31 := by cases leap <;> decide
      exact hall length (List.mem_of_getElem? hlength)

end DeviceSync.Date
