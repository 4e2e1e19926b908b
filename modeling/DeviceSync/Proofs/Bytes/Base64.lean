import DeviceSync.Bytes.Base64

/-!
# Base64 Reads Back

Bytes are read from the text that they are written as, with or without padding. All that the
argument needs of an alphabet is that its symbols are told apart, from each other and from the
padding. No other text is read as these bytes, and that needs nothing of the alphabet.

Two encodings may both be able to read a text. Then they read the same bytes from it, unless what
one of them takes for 62 is 63 to the other.
-/

namespace DeviceSync.Base64

/-- The symbols stand for different numbers, and none of them is the padding. -/
structure Distinct (e : Base64) : Prop where
  value?_symbol : ∀ n, n < 64 → e.value? (e.symbol n) = some n
  symbol_ne : ∀ n, n < 64 → e.symbol n ≠ '='

theorem distinct_standard : standard.Distinct := ⟨by decide, by decide⟩

theorem distinct_standardBare : standardBare.Distinct := ⟨by decide, by decide⟩

theorem distinct_urlSafe : urlSafe.Distinct := ⟨by decide, by decide⟩

theorem distinct_urlSafeBare : urlSafeBare.Distinct := ⟨by decide, by decide⟩

/-! ## What is written is read -/

/-- What stands in an encoded text is a symbol or padding. -/
theorem eq_of_mem_encode {e : Base64} {bytes : List UInt8} {c : Char} (h : c ∈ e.encode bytes) :
    c = '=' ∨ ∃ n, n < 64 ∧ c = e.symbol n := by
  have hfill {n : Nat} (hc : c ∈ e.fill n) : c = '=' := by
    unfold fill at hc
    split at hc
    · exact List.eq_of_mem_replicate hc
    · exact nomatch hc
  fun_induction encode e bytes with
  | case1 => exact nomatch h
  | case2 a =>
    have ha := a.toNat_lt
    rcases List.mem_append.1 h with h | h
    · simp only [List.mem_cons, List.not_mem_nil, or_false] at h
      rcases h with h | h
      all_goals exact .inr ⟨_, by omega, h⟩
    · exact .inl (hfill h)
  | case3 a b =>
    have ha := a.toNat_lt
    have hb := b.toNat_lt
    rcases List.mem_append.1 h with h | h
    · simp only [List.mem_cons, List.not_mem_nil, or_false] at h
      rcases h with h | h | h
      all_goals exact .inr ⟨_, by omega, h⟩
    · exact .inl (hfill h)
  | case4 a b d rest ih =>
    have ha := a.toNat_lt
    have hb := b.toNat_lt
    have hd := d.toNat_lt
    simp only [List.mem_cons] at h
    rcases h with h | h | h | h | h
    · exact .inr ⟨_, by omega, h⟩
    · exact .inr ⟨_, by omega, h⟩
    · exact .inr ⟨_, by omega, h⟩
    · exact .inr ⟨_, by omega, h⟩
    · exact ih h

section Bits

variable (a b c : UInt8)

theorem ofNat_eq_of_toNat {n : Nat} (h : n = a.toNat) : UInt8.ofNat n = a := by
  rw [h, UInt8.ofNat_toNat]

/-- The bits of a first byte, cut after six. -/
theorem ofNat_first {low : Nat} (h : low < 16) :
    UInt8.ofNat (a.toNat / 4 * 4 + (a.toNat % 4 * 16 + low) / 16) = a := by
  apply ofNat_eq_of_toNat
  omega

/-- The bits of a second byte, cut after four. -/
theorem ofNat_second {low : Nat} (h : low < 4) :
    UInt8.ofNat ((a.toNat % 4 * 16 + b.toNat / 16) % 16 * 16 + (b.toNat % 16 * 4 + low) / 4) =
      b := by
  have hb := b.toNat_lt
  apply ofNat_eq_of_toNat
  omega

/-- The bits of a third byte, cut after two. -/
theorem ofNat_third :
    UInt8.ofNat ((b.toNat % 16 * 4 + c.toNat / 64) % 4 * 64 + c.toNat % 64) = c := by
  have hc := c.toNat_lt
  apply ofNat_eq_of_toNat
  omega

end Bits

namespace Distinct

variable {e : Base64} (h : e.Distinct) (a b c : UInt8)

include h

theorem oneByte?_symbols :
    e.oneByte? (e.symbol (a.toNat / 4)) (e.symbol (a.toNat % 4 * 16)) = some [a] := by
  have ha := a.toNat_lt
  have hfirst := ofNat_first a (show 0 < 16 by decide)
  rw [oneByte?, h.value?_symbol _ (by omega), h.value?_symbol _ (by omega)]
  simp_all

theorem twoBytes?_symbols :
    e.twoBytes? (e.symbol (a.toNat / 4)) (e.symbol (a.toNat % 4 * 16 + b.toNat / 16))
      (e.symbol (b.toNat % 16 * 4)) = some [a, b] := by
  have ha := a.toNat_lt
  have hb := b.toNat_lt
  have hfirst := ofNat_first a (show b.toNat / 16 < 16 by omega)
  have hsecond := ofNat_second a b (show 0 < 4 by decide)
  rw [twoBytes?, h.value?_symbol _ (by omega), h.value?_symbol _ (by omega),
    h.value?_symbol _ (by omega)]
  simp_all

theorem threeBytes?_symbols :
    e.threeBytes? (e.symbol (a.toNat / 4)) (e.symbol (a.toNat % 4 * 16 + b.toNat / 16))
      (e.symbol (b.toNat % 16 * 4 + c.toNat / 64)) (e.symbol (c.toNat % 64)) =
        some [a, b, c] := by
  have ha := a.toNat_lt
  have hb := b.toNat_lt
  have hc := c.toNat_lt
  have hfirst := ofNat_first a (show b.toNat / 16 < 16 by omega)
  have hsecond := ofNat_second a b (show c.toNat / 64 < 4 by omega)
  have hthird := ofNat_third b c
  rw [threeBytes?, h.value?_symbol _ (by omega), h.value?_symbol _ (by omega),
    h.value?_symbol _ (by omega), h.value?_symbol _ (by omega)]
  simp_all

/-- What encoding writes is read back. -/
theorem decode?_encode (bytes : List UInt8) : e.decode? (e.encode bytes) = some bytes := by
  fun_induction encode e bytes with
  | case1 => rfl
  | case2 a =>
    cases hpadded : e.padded
    · simp [fill, hpadded, decode?, h.oneByte?_symbols]
    · simp [fill, hpadded, decode?, paddedGroup?, h.oneByte?_symbols]
  | case3 a b =>
    have hne : e.symbol (b.toNat % 16 * 4) ≠ '=' := h.symbol_ne _ (by omega)
    cases hpadded : e.padded
    · simp [fill, hpadded, decode?, h.twoBytes?_symbols]
    · simp [fill, hpadded, decode?, paddedGroup?, hne, h.twoBytes?_symbols]
  | case4 a b c rest ih =>
    have hne : e.symbol (c.toNat % 64) ≠ '=' := h.symbol_ne _ (by omega)
    simp [decode?, hne, h.threeBytes?_symbols, ih]

theorem ofText?_text (bytes : List UInt8) : e.ofText? (e.text bytes) = some bytes := by
  rw [ofText?, text, String.toList_ofList, h.decode?_encode]

end Distinct

/-! ## Nothing else is read -/

section Canonical

variable {e : Base64}

/-- A symbol that is read as a number is the one by which that number is written. -/
theorem symbol_of_value? {c : Char} {n : Nat} (h : e.value? c = some n) :
    n < 64 ∧ e.symbol n = c := by
  have hrange {low high : Char} (h : low ≤ c ∧ c ≤ high) :
      low.toNat ≤ c.toNat ∧ c.toNat ≤ high.toNat := h
  have hchar {m : Nat} (hm : m = c.toNat) : Char.ofNat m = c := by
    rw [hm, Char.ofNat_toNat]
  unfold value? at h
  split at h
  next hupper =>
    obtain ⟨hlow, hhigh⟩ : 65 ≤ c.toNat ∧ c.toNat ≤ 90 := hrange hupper
    cases h
    refine ⟨by omega, ?_⟩
    rw [symbol, if_pos (by omega)]
    exact hchar (by omega)
  next =>
    split at h
    next hlower =>
      obtain ⟨hlow, hhigh⟩ : 97 ≤ c.toNat ∧ c.toNat ≤ 122 := hrange hlower
      cases h
      refine ⟨by omega, ?_⟩
      rw [symbol, if_neg (by omega), if_pos (by omega)]
      exact hchar (by omega)
    next =>
      split at h
      next hdigit =>
        obtain ⟨hlow, hhigh⟩ : 48 ≤ c.toNat ∧ c.toNat ≤ 57 := hrange hdigit
        cases h
        refine ⟨by omega, ?_⟩
        rw [symbol, if_neg (by omega), if_neg (by omega), if_pos (by omega)]
        exact hchar (by omega)
      next =>
        split at h
        next h62 =>
          cases h
          exact ⟨by decide, h62.symm⟩
        next =>
          split at h
          next h63 =>
            cases h
            exact ⟨by decide, h63.symm⟩
          next => exact nomatch h

section Groups

variable {c₁ c₂ c₃ c₄ : Char} {bytes : List UInt8}

theorem eq_of_oneByte? (h : e.oneByte? c₁ c₂ = some bytes) :
    ∃ a : UInt8, bytes = [a] ∧ e.symbol (a.toNat / 4) = c₁ ∧ e.symbol (a.toNat % 4 * 16) = c₂ := by
  simp only [oneByte?, Option.bind_eq_bind, Option.bind_eq_some_iff] at h
  obtain ⟨n₁, h₁, n₂, h₂, h⟩ := h
  obtain ⟨hlt₁, rfl⟩ := symbol_of_value? h₁
  obtain ⟨hlt₂, rfl⟩ := symbol_of_value? h₂
  split at h
  next hspare =>
    cases h
    have ha : (UInt8.ofNat (n₁ * 4 + n₂ / 16)).toNat = n₁ * 4 + n₂ / 16 := by
      rw [UInt8.toNat_ofNat']
      omega
    refine ⟨_, rfl, ?_, ?_⟩
    all_goals
      rw [ha]
      congr 1
      omega
  next => exact nomatch h

theorem eq_of_twoBytes? (h : e.twoBytes? c₁ c₂ c₃ = some bytes) :
    ∃ a b : UInt8, bytes = [a, b] ∧ e.symbol (a.toNat / 4) = c₁ ∧
      e.symbol (a.toNat % 4 * 16 + b.toNat / 16) = c₂ ∧ e.symbol (b.toNat % 16 * 4) = c₃ := by
  simp only [twoBytes?, Option.bind_eq_bind, Option.bind_eq_some_iff] at h
  obtain ⟨n₁, h₁, n₂, h₂, n₃, h₃, h⟩ := h
  obtain ⟨hlt₁, rfl⟩ := symbol_of_value? h₁
  obtain ⟨hlt₂, rfl⟩ := symbol_of_value? h₂
  obtain ⟨hlt₃, rfl⟩ := symbol_of_value? h₃
  split at h
  next hspare =>
    cases h
    have ha : (UInt8.ofNat (n₁ * 4 + n₂ / 16)).toNat = n₁ * 4 + n₂ / 16 := by
      rw [UInt8.toNat_ofNat']
      omega
    have hb : (UInt8.ofNat (n₂ % 16 * 16 + n₃ / 4)).toNat = n₂ % 16 * 16 + n₃ / 4 := by
      rw [UInt8.toNat_ofNat']
      omega
    refine ⟨_, _, rfl, ?_, ?_, ?_⟩
    all_goals
      simp only [ha, hb]
      congr 1
      omega
  next => exact nomatch h

theorem eq_of_threeBytes? (h : e.threeBytes? c₁ c₂ c₃ c₄ = some bytes) :
    ∃ a b c : UInt8, bytes = [a, b, c] ∧ e.symbol (a.toNat / 4) = c₁ ∧
      e.symbol (a.toNat % 4 * 16 + b.toNat / 16) = c₂ ∧
      e.symbol (b.toNat % 16 * 4 + c.toNat / 64) = c₃ ∧ e.symbol (c.toNat % 64) = c₄ := by
  simp only [threeBytes?, Option.bind_eq_bind, Option.bind_eq_some_iff] at h
  obtain ⟨n₁, h₁, n₂, h₂, n₃, h₃, n₄, h₄, h⟩ := h
  obtain ⟨hlt₁, rfl⟩ := symbol_of_value? h₁
  obtain ⟨hlt₂, rfl⟩ := symbol_of_value? h₂
  obtain ⟨hlt₃, rfl⟩ := symbol_of_value? h₃
  obtain ⟨hlt₄, rfl⟩ := symbol_of_value? h₄
  cases h
  have ha : (UInt8.ofNat (n₁ * 4 + n₂ / 16)).toNat = n₁ * 4 + n₂ / 16 := by
    rw [UInt8.toNat_ofNat']
    omega
  have hb : (UInt8.ofNat (n₂ % 16 * 16 + n₃ / 4)).toNat = n₂ % 16 * 16 + n₃ / 4 := by
    rw [UInt8.toNat_ofNat']
    omega
  have hc : (UInt8.ofNat (n₃ % 4 * 64 + n₄)).toNat = n₃ % 4 * 64 + n₄ := by
    rw [UInt8.toNat_ofNat']
    omega
  refine ⟨_, _, _, rfl, ?_, ?_, ?_, ?_⟩
  all_goals
    simp only [ha, hb, hc]
    congr 1
    omega

end Groups

/-- What is read is what is written again: only the text that encoding writes is read at all. -/
theorem encode_of_decode? {cs : List Char} {bytes : List UInt8} (h : e.decode? cs = some bytes) :
    e.encode bytes = cs := by
  fun_induction decode? e cs generalizing bytes with
  | case1 =>
    cases h
    rfl
  | case2 => exact nomatch h
  | case3 => exact nomatch h
  | case4 c₁ c₂ hpadded =>
    obtain ⟨a, rfl, rfl, rfl⟩ := eq_of_oneByte? h
    simp [encode, fill, hpadded]
  | case5 => exact nomatch h
  | case6 c₁ c₂ c₃ hpadded =>
    obtain ⟨a, b, rfl, rfl, rfl, rfl⟩ := eq_of_twoBytes? h
    simp [encode, fill, hpadded]
  | case7 c₁ c₂ c₃ c₄ rest hlast =>
    obtain ⟨rfl, rfl⟩ := hlast
    unfold paddedGroup? at h
    split at h
    next hpadded =>
      split at h
      next hc₃ =>
        obtain ⟨a, rfl, rfl, rfl⟩ := eq_of_oneByte? h
        simp [encode, fill, hpadded, hc₃]
      next =>
        obtain ⟨a, b, rfl, rfl, rfl, rfl⟩ := eq_of_twoBytes? h
        simp [encode, fill, hpadded]
    next => exact nomatch h
  | case8 c₁ c₂ c₃ c₄ rest hlast ih =>
    simp only [Option.bind_eq_bind, Option.bind_eq_some_iff] at h
    obtain ⟨group, hgroup, others, hothers, h⟩ := h
    cases h
    obtain ⟨a, b, c, rfl, rfl, rfl, rfl, rfl⟩ := eq_of_threeBytes? hgroup
    simp [encode, ih hothers]

namespace Distinct

variable (h : e.Distinct) {bytes : List UInt8}

include h

theorem decode?_eq_some_iff {cs : List Char} :
    e.decode? cs = some bytes ↔ cs = e.encode bytes :=
  ⟨fun hread ↦ (encode_of_decode? hread).symm, fun hcs ↦ hcs ▸ h.decode?_encode bytes⟩

theorem ofText?_eq_some_iff {s : String} : e.ofText? s = some bytes ↔ s = e.text bytes := by
  rw [ofText?, h.decode?_eq_some_iff, text, ← String.toList_inj, String.toList_ofList]

end Distinct

end Canonical

/-! ## Encodings agree -/

/-- No symbol stands for 62 in one encoding and for 63 in the other. -/
def Agrees (e f : Base64) : Prop :=
  e.symbol62 ≠ f.symbol63 ∧ e.symbol63 ≠ f.symbol62
deriving Decidable

namespace Agrees

variable {e f : Base64} (h : e.Agrees f) {c₁ c₂ c₃ c₄ : Char} {x y : List UInt8}

include h

theorem value?_eq {c : Char} {n m : Nat} (hn : e.value? c = some n) (hm : f.value? c = some m) :
    n = m := by
  obtain ⟨h₁, h₂⟩ := h
  unfold value? at hn hm
  grind

theorem oneByte?_eq (hx : e.oneByte? c₁ c₂ = some x) (hy : f.oneByte? c₁ c₂ = some y) : x = y := by
  simp only [oneByte?, Option.bind_eq_bind, Option.bind_eq_some_iff] at hx hy
  obtain ⟨n₁, hn₁, n₂, hn₂, hx⟩ := hx
  obtain ⟨m₁, hm₁, m₂, hm₂, hy⟩ := hy
  obtain rfl := h.value?_eq hn₁ hm₁
  obtain rfl := h.value?_eq hn₂ hm₂
  exact Option.some.inj (hx.symm.trans hy)

theorem twoBytes?_eq (hx : e.twoBytes? c₁ c₂ c₃ = some x) (hy : f.twoBytes? c₁ c₂ c₃ = some y) :
    x = y := by
  simp only [twoBytes?, Option.bind_eq_bind, Option.bind_eq_some_iff] at hx hy
  obtain ⟨n₁, hn₁, n₂, hn₂, n₃, hn₃, hx⟩ := hx
  obtain ⟨m₁, hm₁, m₂, hm₂, m₃, hm₃, hy⟩ := hy
  obtain rfl := h.value?_eq hn₁ hm₁
  obtain rfl := h.value?_eq hn₂ hm₂
  obtain rfl := h.value?_eq hn₃ hm₃
  exact Option.some.inj (hx.symm.trans hy)

theorem threeBytes?_eq (hx : e.threeBytes? c₁ c₂ c₃ c₄ = some x)
    (hy : f.threeBytes? c₁ c₂ c₃ c₄ = some y) : x = y := by
  simp only [threeBytes?, Option.bind_eq_bind, Option.bind_eq_some_iff] at hx hy
  obtain ⟨n₁, hn₁, n₂, hn₂, n₃, hn₃, n₄, hn₄, hx⟩ := hx
  obtain ⟨m₁, hm₁, m₂, hm₂, m₃, hm₃, m₄, hm₄, hy⟩ := hy
  obtain rfl := h.value?_eq hn₁ hm₁
  obtain rfl := h.value?_eq hn₂ hm₂
  obtain rfl := h.value?_eq hn₃ hm₃
  obtain rfl := h.value?_eq hn₄ hm₄
  exact Option.some.inj (hx.symm.trans hy)

/-- A text that two encodings can read means the same bytes in both. -/
theorem decode?_eq {cs : List Char} (hx : e.decode? cs = some x) (hy : f.decode? cs = some y) :
    x = y := by
  fun_induction decode? e cs generalizing x y with
  | case1 => exact Option.some.inj (hx.symm.trans hy)
  | case2 => exact nomatch hx
  | case3 => exact nomatch hx
  | case4 c₁ c₂ =>
    rw [decode?] at hy
    split at hy
    next => exact nomatch hy
    next => exact h.oneByte?_eq hx hy
  | case5 => exact nomatch hx
  | case6 c₁ c₂ c₃ =>
    rw [decode?] at hy
    split at hy
    next => exact nomatch hy
    next => exact h.twoBytes?_eq hx hy
  | case7 c₁ c₂ c₃ c₄ rest hlast =>
    rw [decode?, if_pos hlast] at hy
    unfold paddedGroup? at hx hy
    split at hx
    next =>
      split at hy
      next =>
        split at hx
        next hc₃ =>
          rw [if_pos hc₃] at hy
          exact h.oneByte?_eq hx hy
        next hc₃ =>
          rw [if_neg hc₃] at hy
          exact h.twoBytes?_eq hx hy
      next => exact nomatch hy
    next => exact nomatch hx
  | case8 c₁ c₂ c₃ c₄ rest hlast ih =>
    rw [decode?, if_neg hlast] at hy
    simp only [Option.bind_eq_bind, Option.bind_eq_some_iff] at hx hy
    obtain ⟨group, hgroup, others, hothers, hx⟩ := hx
    obtain ⟨group', hgroup', others', hothers', hy⟩ := hy
    obtain rfl := h.threeBytes?_eq hgroup hgroup'
    obtain rfl := ih hothers hothers'
    exact Option.some.inj (hx.symm.trans hy)

end Agrees

end DeviceSync.Base64
