import DeviceSync.Proofs.Text.Decimal
import DeviceSync.Proofs.Time.Calendar
import DeviceSync.Time.Text

/-!
# Timestamps Read Back

Every instant is read from its own text. The readers of the parts allow more than the writers make
of it, so for each of them there is a lemma on the text that is written, with anything behind it;
what stands behind is a mark, which no reader of digits takes in.

A leap second is written as second 60 of its minute, which is possible because it can only hide
behind second 59.
-/

namespace DeviceSync.Text

theorem isBlank_of_isDigit {c : Char} (h : isDigit c = true) : isBlank c = false := by
  rw [isDigit, digitValue?] at h
  split at h
  next hrange =>
    have hleast : 48 ≤ c.toNat := hrange.1
    have hgreatest : c.toNat ≤ 57 := hrange.2
    simp [isBlank, blankRanges]
    omega
  next => cases h

theorem trimFront_cons {c : Char} (h : isBlank c = false) (cs : List Char) :
    trimFront (c :: cs) = c :: cs :=
  List.dropWhile_cons_of_neg (by simp [h])

end DeviceSync.Text

namespace DeviceSync.Timestamp

open Text

/-! ## Numbers and marks -/

section Digits

variable {limit n : Nat} {ds rest : List Char}

/-- Digits are taken in until there are enough of them or something else comes. -/
theorem spanDigits_append (hdigits : ∀ c ∈ ds, isDigit c = true) (hlength : ds.length ≤ limit)
    (hrest : ds.length = limit ∨ ∀ c ∈ rest.head?, isDigit c = false) :
    spanDigits limit (ds ++ rest) = (ds, rest) := by
  induction ds generalizing limit with
  | nil =>
    cases limit with
    | zero => rw [List.nil_append, spanDigits]; nofun
    | succ limit =>
      have hhead := hrest.resolve_left (by simp)
      cases rest with
      | nil => rw [List.nil_append, spanDigits]; nofun
      | cons c rest =>
        rw [List.nil_append, spanDigits, if_neg (by simp [hhead c rfl])]
  | cons c ds ih =>
    obtain ⟨hc, hds⟩ := List.forall_mem_cons.1 hdigits
    cases limit with
    | zero => exact absurd hlength (Nat.not_succ_le_zero _)
    | succ limit =>
      rw [List.cons_append, spanDigits, if_pos hc,
        ih hds (Nat.le_of_succ_le_succ hlength) (hrest.imp_left Nat.succ.inj)]

theorem readNumber_append (hnatural : natural? ds = some n) (hdigits : ∀ c ∈ ds, isDigit c = true)
    (hlength : ds.length ≤ limit)
    (hrest : ds.length = limit ∨ ∀ c ∈ rest.head?, isDigit c = false) :
    readNumber limit (ds ++ rest) = some (n, rest) := by
  have htrim : trimFront (ds ++ rest) = ds ++ rest := by
    cases ds with
    | nil => cases hnatural
    | cons c ds => exact trimFront_cons (isBlank_of_isDigit (hdigits c List.mem_cons_self)) _
  rw [readNumber, htrim, spanDigits_append hdigits hlength hrest]
  dsimp only
  rw [hnatural]
  rfl

theorem readNumber_padded (hlimit : 0 < limit) (h : n < tenTo limit) (rest : List Char) :
    readNumber limit (padded limit n ++ rest) = some (n, rest) :=
  readNumber_append (natural?_padded hlimit h) (fun _ ↦ isDigit_of_mem_padded)
    (Nat.le_of_eq (length_padded limit n)) (.inl (length_padded limit n))

theorem readMark_cons {mark : Char} (h : isBlank mark = false) (rest : List Char) :
    readMark mark (mark :: rest) = some rest := by
  rw [readMark, trimFront_cons h]
  exact if_pos rfl

end Digits

/-! ## Dates -/

/-- Digits after a sign may be as many as they like. -/
theorem signed_append (sign : Int) {n : Nat} {ds rest : List Char} (hnatural : natural? ds = some n)
    (hdigits : ∀ c ∈ ds, isDigit c = true) (hrest : ∀ c ∈ rest.head?, isDigit c = false) :
    readYear.signed sign (ds ++ rest) = some (sign * n, rest) := by
  have hlength : ds.length ≤ (ds ++ rest).length := by simp
  rw [readYear.signed, spanDigits_append hdigits hlength (.inr hrest)]
  dsimp only
  rw [hnatural]
  rfl

/-- A year that begins with a digit has no sign. -/
theorem readYear_of_isDigit {c : Char} (h : isDigit c = true) (cs : List Char) :
    readYear (c :: cs) = (readNumber 4 (c :: cs)).map fun (n, rest) ↦ ((n : Int), rest) := by
  rw [readYear, trimFront_cons (isBlank_of_isDigit h)]
  split
  next hcs =>
    rw [(List.cons.inj hcs).1] at h
    exact absurd h (by decide)
  next hcs =>
    rw [(List.cons.inj hcs).1] at h
    exact absurd h (by decide)
  next => rfl

theorem readYear_yearText (year : Int) (rest : List Char) :
    readYear (yearText year ++ '-' :: rest) = some (year, '-' :: rest) := by
  rw [yearText]
  by_cases hfour : 0 ≤ year ∧ year ≤ 9999
  · have hlt : year.toNat < tenTo 4 := by
      change year.toNat < 10000
      omega
    have hread := readNumber_padded (by decide) hlt ('-' :: rest)
    have hdigit : ∀ c ∈ padded 4 year.toNat, isDigit c = true := fun _ ↦ isDigit_of_mem_padded
    rw [if_pos hfour]
    cases hpadded : padded 4 year.toNat with
    | nil => cases hpadded ▸ length_padded 4 year.toNat
    | cons c ds =>
      rw [hpadded] at hread hdigit
      rw [List.cons_append] at hread ⊢
      rw [readYear_of_isDigit (hdigit c List.mem_cons_self), hread, Option.map_some]
      dsimp only
      rw [Int.toNat_of_nonneg hfour.1]
  · have hrest : ∀ c ∈ ('-' :: rest).head?, isDigit c = false := by
      rintro c ⟨⟩
      decide
    have hsize (sign : Int) :
        readYear.signed sign ((if year.natAbs ≤ 9999 then padded 4 year.natAbs
          else digits year.natAbs) ++ '-' :: rest) = some (sign * year.natAbs, '-' :: rest) := by
      by_cases hshort : year.natAbs ≤ 9999
      · rw [if_pos hshort]
        exact signed_append sign (natural?_padded (by decide) (Nat.lt_succ_of_le hshort))
          (fun _ ↦ isDigit_of_mem_padded) hrest
      · rw [if_neg hshort]
        exact signed_append sign (natural?_digits _) (fun _ ↦ isDigit_of_mem_digits) hrest
    rw [if_neg hfour]
    dsimp only
    by_cases hnegative : year < 0
    · rw [if_pos hnegative, List.cons_append, readYear, trimFront_cons (by decide)]
      refine (hsize (-1)).trans ?_
      congr 2
      omega
    · rw [if_neg hnegative, List.cons_append, readYear, trimFront_cons (by decide)]
      refine (hsize 1).trans ?_
      congr 2
      omega

theorem readDate_dateText {d : Date} (hmonth : d.month < 100) (hday : d.day < 100)
    (rest : List Char) : readDate (dateText d ++ rest) = some (d, rest) := by
  rw [dateText, readDate]
  simp only [List.append_assoc, List.cons_append]
  rw [readYear_yearText]
  simp only [bind, Option.bind]
  rw [readMark_cons (by decide)]
  dsimp only
  rw [readNumber_padded (by decide) hmonth]
  dsimp only
  rw [readMark_cons (by decide)]
  dsimp only
  rw [readNumber_padded (by decide) hday]
  rfl

/-! ## Times of day -/

theorem readFraction_cons {c : Char} (h : c ≠ '.') (rest : List Char) :
    readFraction (c :: rest) = some (0, c :: rest) := by
  rw [readFraction]
  intro rest heq
  exact h (List.cons.inj heq).1

/-- Decimals are as many thousandths, millionths or thousand millionths as they say. -/
theorem readFraction_padded {places n : Nat} (hplaces : 0 < places) (hnine : places ≤ 9)
    (h : n < tenTo places) {rest : List Char} (hrest : ∀ c ∈ rest.head?, isDigit c = false) :
    readFraction ('.' :: padded places n ++ rest) = some (n * tenTo (9 - places), rest) := by
  have hlength : (padded places n).length = places := length_padded places n
  have hspan : spanDigits (padded places n ++ rest).length (padded places n ++ rest) =
      (padded places n, rest) :=
    spanDigits_append (fun _ ↦ isDigit_of_mem_padded) (by simp) (.inr hrest)
  rw [List.cons_append, readFraction, hspan]
  dsimp only
  rw [List.take_of_length_le (Nat.le_trans (Nat.le_of_eq hlength) hnine),
    natural?_padded hplaces h, hlength]
  rfl

theorem readFraction_fractionText {nanos : Nat} (h : nanos < 1000000000) {mark : Char}
    (hdot : mark ≠ '.') (hdigit : isDigit mark = false) (rest : List Char) :
    readFraction (fractionText nanos ++ mark :: rest) = some (nanos, mark :: rest) := by
  have hrest : ∀ c ∈ (mark :: rest).head?, isDigit c = false := by
    rintro c ⟨⟩
    exact hdigit
  rw [fractionText]
  split
  next hzero => rw [List.nil_append, readFraction_cons hdot, hzero]
  next =>
    split
    next hmillis =>
      have hlt : nanos / 1000000 < tenTo 3 := Nat.div_lt_of_lt_mul h
      rw [readFraction_padded (by decide) (by decide) hlt hrest]
      congr 2
      exact Nat.div_mul_cancel (Nat.dvd_of_mod_eq_zero hmillis)
    next =>
      split
      next hmicros =>
        have hlt : nanos / 1000 < tenTo 6 := Nat.div_lt_of_lt_mul h
        rw [readFraction_padded (by decide) (by decide) hlt hrest]
        congr 2
        exact Nat.div_mul_cancel (Nat.dvd_of_mod_eq_zero hmicros)
      next =>
        rw [readFraction_padded (by decide) (by decide) h hrest]
        congr 2
        exact Nat.mul_one nanos

/-- A second of a day is read back with its nanoseconds, which may be those of a leap second behind
the last second of a minute. -/
theorem readClock_clockText {secondOfDay nanos : Nat} (hday : secondOfDay < 86400)
    (hnanos : nanos < 2000000000) (hleap : 1000000000 ≤ nanos → secondOfDay % 60 = 59)
    {mark : Char} (hdot : mark ≠ '.') (hdigit : isDigit mark = false) (rest : List Char) :
    readClock (clockText secondOfDay nanos ++ mark :: rest) =
      some (secondOfDay, nanos, mark :: rest) := by
  obtain ⟨leap, hwritten, hread, hone, hbelow, hsum⟩ : ∃ leap,
      (if nanos < 1000000000 then 0 else 1) = leap ∧
      (if secondOfDay % 60 + leap = 60 then 1 else 0) = leap ∧ leap ≤ 1 ∧
      nanos - 1000000000 * leap < 1000000000 ∧
      nanos - 1000000000 * leap + 1000000000 * leap = nanos := by
    by_cases hordinary : nanos < 1000000000
    · exact ⟨0, if_pos hordinary, if_neg (by omega), Nat.zero_le 1, by omega, by omega⟩
    · have hlast := hleap (Nat.le_of_not_lt hordinary)
      exact ⟨1, if_neg hordinary, if_pos (by omega), Nat.le_refl 1, by omega, by omega⟩
  have hhour : secondOfDay / 3600 < tenTo 2 := by
    change _ < 100
    omega
  have hminute : secondOfDay / 60 % 60 < tenTo 2 := by
    change _ < 100
    omega
  have hsecond' : secondOfDay % 60 + leap < tenTo 2 := by
    change _ < 100
    omega
  rw [clockText, hwritten, readClock]
  simp only [List.append_assoc, List.cons_append]
  rw [readNumber_padded (by decide) hhour]
  simp only [bind, Option.bind]
  rw [readMark_cons (by decide)]
  dsimp only
  rw [readNumber_padded (by decide) hminute]
  dsimp only
  rw [readMark_cons (by decide)]
  dsimp only
  rw [readNumber_padded (by decide) hsecond']
  dsimp only
  rw [readFraction_fractionText hbelow hdot hdigit]
  dsimp only
  rw [if_pos (by omega), hread, hsum]
  congr 2
  omega

/-! ## Instants -/

/-- Every instant is read from its own text. -/
theorem ofText?_text (t : Instant) : ofText? (text t) = some t := by
  obtain ⟨hexists, hnumber, hmonth⟩ := Date.exists_and_number_ofNumber (t.seconds / 86400)
  obtain ⟨-, -, hnanos, hleap⟩ := t.valid
  have hday : (Date.ofNumber (t.seconds / 86400)).day ≤ 31 :=
    Nat.le_trans hexists.2 (Date.monthLength_le ..)
  have hclock : (t.seconds % 86400).toNat < 86400 := by omega
  have hlast : 1000000000 ≤ t.nanos → (t.seconds % 86400).toNat % 60 = 59 := by omega
  have hcivil : 86400 * (Date.ofNumber (t.seconds / 86400)).number +
      (t.seconds % 86400).toNat = t.seconds := by omega
  rw [ofText?, text, String.toList_ofList, write, read?]
  simp only [List.append_assoc, List.cons_append]
  rw [readDate_dateText (by omega) (by omega)]
  simp only [bind, Option.bind]
  rw [readClock_clockText hclock hnanos hlast (by decide) (by decide)]
  dsimp only
  have hzone : readZone ['Z'] = some (0, []) := by decide
  rw [hzone]
  dsimp only
  rw [hcivil, if_pos ⟨hexists, rfl, t.valid⟩, Int.mul_zero, Int.sub_zero, Instant.ofParts?,
    dif_pos t.valid]

end DeviceSync.Timestamp
