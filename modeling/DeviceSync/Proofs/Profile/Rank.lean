import DeviceSync.Profile.Policy
import Mathlib.Data.Prod.Lex
import Mathlib.Data.String.Basic

/-!
# The Order of Diffs

Last-writer-wins prefers diffs by a key: the base, then the time, then the device name with the
smaller name first. Keys are ordered lexicographically, so the preference is that of a linear
order, and the policy is the comparison of keys.
-/

namespace DeviceSync

namespace Instant

variable {s t : Instant}

theorem eq_of_parts_eq (hseconds : s.seconds = t.seconds) (hnanos : s.nanos = t.nanos) : s = t := by
  cases s
  cases t
  cases hseconds
  cases hnanos
  rfl

theorem lt_irrefl (s : Instant) : ¬s < s := by
  change ¬(s.seconds < s.seconds ∨ s.seconds = s.seconds ∧ s.nanos < s.nanos)
  omega

theorem ne_of_lt (h : s < t) : s ≠ t := by
  rintro rfl
  exact lt_irrefl s h

theorem eq_of_not_lt (h : ¬s < t) (h' : ¬t < s) : s = t := by
  change ¬(s.seconds < t.seconds ∨ s.seconds = t.seconds ∧ s.nanos < t.nanos) at h
  change ¬(t.seconds < s.seconds ∨ t.seconds = s.seconds ∧ t.nanos < s.nanos) at h'
  exact eq_of_parts_eq (by omega) (by omega)

end Instant

namespace Profile

/-- What last-writer-wins looks at, so that the greater key wins. -/
def Diff.key (d : Diff) : Nat ×ₗ (Int ×ₗ Nat) ×ₗ Stringᵒᵈ :=
  toLex (d.base, toLex (toLex (d.time.seconds, d.time.nanos), OrderDual.toDual d.device))

namespace Diff

variable (x y : Diff)

theorem time_lt_iff :
    toLex (x.time.seconds, x.time.nanos) < toLex (y.time.seconds, y.time.nanos) ↔
      x.time < y.time :=
  Prod.Lex.toLex_lt_toLex

theorem time_eq_iff :
    toLex (x.time.seconds, x.time.nanos) = toLex (y.time.seconds, y.time.nanos) ↔
      x.time = y.time := by
  rw [toLex_inj, Prod.mk.injEq]
  constructor
  · intro h
    exact Instant.eq_of_parts_eq h.1 h.2
  · intro h
    rw [h]
    exact ⟨rfl, rfl⟩

theorem key_lt_iff :
    x.key < y.key ↔ x.base < y.base ∨ x.base = y.base ∧
      (x.time < y.time ∨ x.time = y.time ∧ y.device < x.device) := by
  rw [key, key, Prod.Lex.toLex_lt_toLex, Prod.Lex.toLex_lt_toLex, time_lt_iff, time_eq_iff,
    OrderDual.toDual_lt_toDual]

theorem key_eq_iff :
    x.key = y.key ↔ (x.base, x.time, x.device) = (y.base, y.time, y.device) := by
  rw [key, key, toLex_inj, Prod.mk.injEq, toLex_inj, Prod.mk.injEq, time_eq_iff,
    OrderDual.toDual_inj, Prod.mk.injEq, Prod.mk.injEq]

theorem key_lt_of_base_lt (h : x.base < y.base) : x.key < y.key :=
  (key_lt_iff x y).2 (.inl h)

end Diff

namespace Policy

/-- A challenger wins exactly if its key is greater. -/
theorem winner_rank_eq_challenger_iff (incumbent challenger : Diff) :
    (rank incumbent challenger).winner = .challenger ↔ incumbent.key < challenger.key := by
  rw [Diff.key_lt_iff, rank]
  rcases Nat.lt_trichotomy incumbent.base challenger.base with hbase | hbase | hbase
  · rw [if_pos hbase]
    exact iff_of_true rfl (.inl hbase)
  · rw [hbase, if_neg (Nat.lt_irrefl _), if_neg (Nat.lt_irrefl _)]
    by_cases htime : incumbent.time < challenger.time
    · rw [if_pos htime]
      exact iff_of_true rfl (.inr ⟨rfl, .inl htime⟩)
    by_cases htime' : challenger.time < incumbent.time
    · rw [if_neg htime, if_pos htime']
      refine iff_of_false nofun ?_
      intro hgreater
      rcases hgreater with hlt | ⟨-, hlt | ⟨heq, -⟩⟩
      · exact Nat.lt_irrefl _ hlt
      · exact htime hlt
      · rw [heq] at htime'
        exact Instant.lt_irrefl _ htime'
    rw [if_neg htime, if_neg htime', Instant.eq_of_not_lt htime htime']
    by_cases hdevice : challenger.device < incumbent.device
    · rw [if_pos hdevice]
      exact iff_of_true rfl (.inr ⟨rfl, .inr ⟨rfl, hdevice⟩⟩)
    · rw [if_neg hdevice]
      refine iff_of_false (by split <;> nofun) ?_
      intro hgreater
      rcases hgreater with hlt | ⟨-, hlt | ⟨-, hlt⟩⟩
      · exact Nat.lt_irrefl _ hlt
      · exact Instant.lt_irrefl _ hlt
      · exact hdevice hlt
  · rw [if_neg (Nat.lt_asymm hbase), if_pos hbase]
    refine iff_of_false nofun ?_
    omega

/-- An incumbent stays exactly if no greater key challenges it. -/
theorem winner_rank_eq_incumbent_iff (incumbent challenger : Diff) :
    (rank incumbent challenger).winner = .incumbent ↔ challenger.key ≤ incumbent.key := by
  rw [← not_lt, ← winner_rank_eq_challenger_iff]
  cases (rank incumbent challenger).winner with
  | incumbent => exact iff_of_true rfl nofun
  | challenger => exact iff_of_false nofun (not_not_intro rfl)

/-! ## What every policy respects -/

section Resolve

variable (policy : Policy) {head d x : Diff}

theorem resolve_self (d : Diff) : (policy.resolve d d).winner = .incumbent := by
  cases policy with
  | lastWriterWins => exact (winner_rank_eq_incumbent_iff d d).2 le_rfl
  | appliedWins => rfl

/-- A diff never loses to one with an older base. -/
theorem resolve_of_base_lt (h : x.base < head.base) :
    (policy.resolve head x).winner = .incumbent := by
  cases policy with
  | lastWriterWins =>
    apply (winner_rank_eq_incumbent_iff head x).2
    exact (Diff.key_lt_of_base_lt x head h).le
  | appliedWins => rfl

/-- What a head keeps out, the diff that takes its place keeps out too. -/
theorem resolve_trans (htaken : (policy.resolve head d).winner = .challenger)
    (hkept : (policy.resolve head x).winner = .incumbent) :
    (policy.resolve d x).winner = .incumbent := by
  cases policy with
  | lastWriterWins =>
    have hlt : head.key < d.key := (winner_rank_eq_challenger_iff head d).1 htaken
    have hle : x.key ≤ head.key := (winner_rank_eq_incumbent_iff head x).1 hkept
    exact (winner_rank_eq_incumbent_iff d x).2 (hle.trans hlt.le)
  | appliedWins => rfl

end Resolve

end Policy

end Profile

end DeviceSync
