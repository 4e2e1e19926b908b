import DeviceSync.Text.Decimal

/-!
# Decimal Notation Reads Back

A number is read from its digits. The digits begin with a digit, so that a reader which allows a
sign does not take one for it. A reader of numbers passes over zeros in front, and over a sign if it
allows one, and apart from that it reads a number from its digits only.
-/

namespace DeviceSync.Text

theorem digitValue?_digitChar : ∀ n, n < 10 → digitValue? (digitChar n) = some n := by
  decide

theorem foldDigits_append (acc : Nat) (cs rest : List Char) :
    foldDigits acc (cs ++ rest) = (foldDigits acc cs).bind (foldDigits · rest) := by
  induction cs generalizing acc with
  | nil => rfl
  | cons c cs ih =>
    simp only [List.cons_append, foldDigits]
    cases digitValue? c with
    | none => rfl
    | some d => exact ih _

theorem foldDigits_digits (n : Nat) : foldDigits 0 (digits n) = some n := by
  fun_induction digits n with
  | case1 n h => simp [foldDigits, digitValue?_digitChar n h]
  | case2 n h ih =>
    have hlast : digitValue? (digitChar (n % 10)) = some (n % 10) :=
      digitValue?_digitChar _ (Nat.mod_lt n (by decide))
    rw [foldDigits_append, ih]
    simp only [Option.bind_some, foldDigits, hlast]
    rw [Nat.div_add_mod]

theorem exists_digits_eq_cons (n : Nat) : ∃ d rest, d < 10 ∧ digits n = digitChar d :: rest := by
  fun_induction digits n with
  | case1 n h => exact ⟨n, [], h, rfl⟩
  | case2 n h ih =>
    obtain ⟨d, rest, hd, hdigits⟩ := ih
    exact ⟨d, rest ++ [digitChar (n % 10)], hd, by rw [hdigits, List.cons_append]⟩

theorem digits_ne_nil (n : Nat) : digits n ≠ [] := by
  obtain ⟨d, rest, -, hdigits⟩ := exists_digits_eq_cons n
  rw [hdigits]
  exact List.cons_ne_nil _ _

theorem isDigit_digitChar : ∀ n, n < 10 → isDigit (digitChar n) = true := by decide

theorem isDigit_of_mem_digits {n : Nat} {c : Char} (h : c ∈ digits n) : isDigit c = true := by
  fun_induction digits n with
  | case1 n hn => exact List.mem_singleton.1 h ▸ isDigit_digitChar n hn
  | case2 n hn ih =>
    rcases List.mem_append.1 h with h | h
    · exact ih h
    · exact List.mem_singleton.1 h ▸ isDigit_digitChar _ (Nat.mod_lt n (by decide))

/-- Only zero is written with a zero in front. -/
theorem eq_zero_of_head?_digits {n : Nat} (h : (digits n).head? = some '0') : n = 0 := by
  have hdigit : ∀ d, d < 10 → digitChar d = '0' → d = 0 := by decide
  fun_induction digits n with
  | case1 n hn => exact hdigit n hn (Option.some.inj h)
  | case2 n hn ih =>
    obtain ⟨d, rest, -, hdigits⟩ := exists_digits_eq_cons (n / 10)
    rw [hdigits] at h ih
    have := ih h
    omega

theorem natural?_digits (n : Nat) : natural? (digits n) = some n := by
  obtain ⟨d, rest, -, hdigits⟩ := exists_digits_eq_cons n
  have hfold := foldDigits_digits n
  rw [hdigits] at hfold ⊢
  exact hfold

/-! ## Nothing else is read -/

theorem digitChar_of_digitValue? {c : Char} {d : Nat} (h : digitValue? c = some d) :
    d < 10 ∧ c = digitChar d := by
  unfold digitValue? at h
  split at h
  next hdigit =>
    obtain ⟨hlow, hhigh⟩ : 48 ≤ c.toNat ∧ c.toNat ≤ 57 := hdigit
    cases h
    refine ⟨by omega, ?_⟩
    rw [digitChar, Nat.add_sub_cancel' hlow, Char.ofNat_toNat]
  next => exact nomatch h

/-- Ten times a number and a digit is written as the number with the digit behind it. -/
theorem digits_snoc {n d : Nat} (hn : 0 < n) (hd : d < 10) :
    digits (10 * n + d) = digits n ++ [digitChar d] := by
  rw [digits, if_neg (by omega)]
  have hdiv : (10 * n + d) / 10 = n := by omega
  have hmod : (10 * n + d) % 10 = d := by omega
  rw [hdiv, hmod]

theorem digits_of_foldDigits {acc n : Nat} {cs : List Char} (hacc : 0 < acc)
    (h : foldDigits acc cs = some n) : digits n = digits acc ++ cs := by
  induction cs generalizing acc with
  | nil =>
    cases h
    exact (List.append_nil _).symm
  | cons c cs ih =>
    obtain ⟨d, hd, hrest⟩ := Option.bind_eq_some_iff.1 h
    obtain ⟨hlt, rfl⟩ := digitChar_of_digitValue? hd
    rw [ih (by omega) hrest, digits_snoc hacc hlt, List.append_assoc, List.singleton_append]

theorem foldDigits_zeros (zeros : Nat) (cs : List Char) :
    foldDigits 0 (List.replicate zeros '0' ++ cs) = foldDigits 0 cs := by
  induction zeros with
  | zero => rfl
  | succ zeros ih => exact ih

/-- What is read from nothing but digits is their number, up to zeros in front. -/
theorem exists_zeros_of_foldDigits {n : Nat} {c : Char} {cs : List Char}
    (h : foldDigits 0 (c :: cs) = some n) :
    ∃ zeros, c :: cs = List.replicate zeros '0' ++ digits n := by
  induction cs generalizing c with
  | nil =>
    obtain ⟨d, hd, hrest⟩ := Option.bind_eq_some_iff.1 h
    obtain ⟨hlt, rfl⟩ := digitChar_of_digitValue? hd
    obtain rfl : d = n := by simpa [foldDigits] using hrest
    exact ⟨0, by rw [digits, if_pos hlt]; rfl⟩
  | cons c' cs ih =>
    obtain ⟨d, hd, hrest⟩ := Option.bind_eq_some_iff.1 h
    obtain ⟨hlt, rfl⟩ := digitChar_of_digitValue? hd
    rw [Nat.mul_zero, Nat.zero_add] at hrest
    rcases Nat.eq_zero_or_pos d with rfl | hpos
    · obtain ⟨zeros, hzeros⟩ := ih hrest
      exact ⟨zeros + 1, by rw [hzeros]; rfl⟩
    · refine ⟨0, ?_⟩
      rw [digits_of_foldDigits hpos hrest, digits, if_pos hlt]
      rfl

theorem natural?_eq_some_iff {n : Nat} {cs : List Char} :
    natural? cs = some n ↔ ∃ zeros, cs = List.replicate zeros '0' ++ digits n := by
  constructor
  · intro h
    cases cs with
    | nil => exact nomatch h
    | cons c cs => exact exists_zeros_of_foldDigits h
  · rintro ⟨zeros, rfl⟩
    have hread := (foldDigits_zeros zeros (digits n)).trans (foldDigits_digits n)
    cases hcs : List.replicate zeros '0' ++ digits n with
    | nil => exact absurd (List.append_eq_nil_iff.1 hcs).2 (digits_ne_nil n)
    | cons c cs => rwa [hcs] at hread

/-- Only digits stand in the notation of a number, also with zeros in front. -/
theorem plus_ne_of_natural? {n : Nat} {c : Char} {cs : List Char}
    (h : natural? (c :: cs) = some n) : c ≠ '+' := by
  rintro rfl
  exact nomatch h

/-- A number is read if it is below the bound and stands in decimal notation, maybe with zeros and
a plus sign in front. -/
theorem unsigned?_eq_some_iff {bound n : Nat} {cs : List Char} :
    unsigned? bound cs = some n ↔
      n < bound ∧ ∃ sign zeros, (sign = [] ∨ sign = ['+']) ∧
        cs = sign ++ List.replicate zeros '0' ++ digits n := by
  unfold unsigned?
  split
  next rest =>
    rw [Option.filter_eq_some_iff, natural?_eq_some_iff, decide_eq_true_iff, and_comm]
    refine and_congr_right fun _ ↦ ⟨fun ⟨zeros, hrest⟩ ↦ ⟨['+'], zeros, .inr rfl, ?_⟩, ?_⟩
    · rw [hrest, List.append_assoc]
      rfl
    · rintro ⟨sign, zeros, rfl | rfl, h⟩
      · exact absurd rfl (plus_ne_of_natural? (natural?_eq_some_iff.2 ⟨zeros, h⟩))
      · exact ⟨zeros, by simpa using h⟩
  next hplus =>
    rw [Option.filter_eq_some_iff, natural?_eq_some_iff, decide_eq_true_iff, and_comm]
    refine and_congr_right fun _ ↦ ⟨fun ⟨zeros, hcs⟩ ↦ ⟨[], zeros, .inl rfl, hcs⟩, ?_⟩
    rintro ⟨sign, zeros, rfl | rfl, h⟩
    · exact ⟨zeros, h⟩
    · exact absurd h (hplus _)

/-! ## Digits with zeros in front -/

theorem length_padded (width n : Nat) : (padded width n).length = width := by
  induction width generalizing n with
  | zero => rfl
  | succ width ih => rw [padded, List.length_append, ih, List.length_singleton]

theorem isDigit_of_mem_padded {width n : Nat} {c : Char} (h : c ∈ padded width n) :
    isDigit c = true := by
  induction width generalizing n with
  | zero => exact nomatch h
  | succ width ih =>
    rcases List.mem_append.1 h with h | h
    · exact ih h
    · exact List.mem_singleton.1 h ▸ isDigit_digitChar _ (Nat.mod_lt n (by decide))

theorem foldDigits_padded (acc width n : Nat) :
    foldDigits acc (padded width n) = some (acc * tenTo width + n % tenTo width) := by
  induction width generalizing n with
  | zero => simp [padded, foldDigits, tenTo, Nat.mod_one]
  | succ width ih =>
    have hlast : digitValue? (digitChar (n % 10)) = some (n % 10) :=
      digitValue?_digitChar _ (Nat.mod_lt n (by decide))
    have hpower : tenTo (width + 1) = 10 * tenTo width := Nat.pow_succ'
    rw [padded, foldDigits_append, ih, hpower, Nat.mod_mul, Nat.mul_left_comm]
    simp only [Option.bind_some, foldDigits, hlast]
    congr 1
    omega

theorem natural?_padded {width n : Nat} (hwidth : 0 < width) (h : n < tenTo width) :
    natural? (padded width n) = some n := by
  have hfold := foldDigits_padded 0 width n
  rw [Nat.zero_mul, Nat.zero_add, Nat.mod_eq_of_lt h] at hfold
  have hlength := length_padded width n
  cases hdigits : padded width n with
  | nil =>
    rw [hdigits] at hlength
    exact absurd hlength (Nat.ne_of_lt hwidth)
  | cons c cs => rwa [hdigits] at hfold

end DeviceSync.Text
