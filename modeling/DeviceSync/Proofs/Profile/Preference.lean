import DeviceSync.Proofs.Profile.Rank
import DeviceSync.Proofs.Text.Utf8
import Mathlib.Data.List.Induction

/-!
# The Preference of Last-Writer-Wins

Last-writer-wins prefers the diff with the greater key, whichever of the two holds the field, and
its reason is the first part of the keys in which they differ. Only between diffs with the same key
does it matter which of them was there first.

Keys are in a linear order. Diffs that challenge a field one after another therefore leave it to the
greatest of them all, and to the first of those that are as great.
-/

namespace DeviceSync.Profile

/-- The comparison that a rule stands for is the first one in which two diffs differ. The last rule
stands for none. -/
def Rule.Decides (x y : Diff) : Rule → Prop
  | newerBase => x.base ≠ y.base
  | laterTimestamp => x.base = y.base ∧ x.time ≠ y.time
  | deviceOrder => x.base = y.base ∧ x.time = y.time ∧ x.device ≠ y.device
  | alreadyApplied => x.base = y.base ∧ x.time = y.time ∧ x.device = y.device

namespace Policy

/-- Which of two diffs keeps the field. -/
def keeper (policy : Policy) (incumbent challenger : Diff) : Diff :=
  match (policy.resolve incumbent challenger).winner with
  | .incumbent => incumbent
  | .challenger => challenger

/-- Which diff keeps the field after others have challenged it one after another. -/
def survivor (policy : Policy) (incumbent : Diff) (challengers : List Diff) : Diff :=
  challengers.foldl policy.keeper incumbent

end Policy

/-- The diff `d` stands in the list at a place where all before it are smaller and none after it is
greater: it is the first of the greatest. -/
def IsFirstGreatest (ds : List Diff) (d : Diff) : Prop :=
  ∃ earlier later, ds = earlier ++ d :: later ∧
    (∀ x ∈ earlier, x.key < d.key) ∧ ∀ x ∈ later, x.key ≤ d.key

/-! ## The reason -/

namespace Rule.Decides

variable {x y : Diff} {rule rule' : Rule}

theorem symm (h : rule.Decides x y) : rule.Decides y x := by
  cases rule with
  | newerBase => exact Ne.symm h
  | laterTimestamp => exact ⟨h.1.symm, Ne.symm h.2⟩
  | deviceOrder => exact ⟨h.1.symm, h.2.1.symm, Ne.symm h.2.2⟩
  | alreadyApplied => exact ⟨h.1.symm, h.2.1.symm, h.2.2.symm⟩

theorem unique (h : rule.Decides x y) (h' : rule'.Decides x y) : rule = rule' := by
  cases rule <;> cases rule' <;> simp_all [Decides]

end Rule.Decides

namespace Policy

variable {x y : Diff} {rule : Rule}

theorem decides_rank (x y : Diff) : (rank x y).rule.Decides x y := by
  rw [rank]
  split_ifs with hbase hbase' htime htime' hdevice hdevice'
  · exact hbase.ne
  · exact hbase'.ne'
  · exact ⟨by omega, Instant.ne_of_lt htime⟩
  · exact ⟨by omega, (Instant.ne_of_lt htime').symm⟩
  · exact ⟨by omega, Instant.eq_of_not_lt htime htime', hdevice.ne'⟩
  · exact ⟨by omega, Instant.eq_of_not_lt htime htime', hdevice'.ne⟩
  · have hdevices : x.device = y.device := le_antisymm (not_lt.1 hdevice) (not_lt.1 hdevice')
    exact ⟨by omega, Instant.eq_of_not_lt htime htime', hdevices⟩

theorem rule_rank_eq_iff : (rank x y).rule = rule ↔ rule.Decides x y := by
  constructor
  · rintro rfl
    exact decides_rank x y
  · exact (decides_rank x y).unique

theorem rule_rank_comm (x y : Diff) : (rank x y).rule = (rank y x).rule :=
  rule_rank_eq_iff.2 (decides_rank y x).symm

/-! ## The diff that keeps the field -/

theorem rank_of_key_eq (h : x.key = y.key) : rank x y = ⟨.incumbent, .alreadyApplied⟩ := by
  have hparts := (Diff.key_eq_iff x y).1 h
  rw [Prod.mk.injEq, Prod.mk.injEq] at hparts
  have hwinner : (rank x y).winner = .incumbent := (winner_rank_eq_incumbent_iff x y).2 h.ge
  have hrule : (rank x y).rule = .alreadyApplied := rule_rank_eq_iff.2 hparts
  calc
    rank x y = ⟨(rank x y).winner, (rank x y).rule⟩ := rfl
    _ = ⟨.incumbent, .alreadyApplied⟩ := by rw [hwinner, hrule]

theorem keeper_of_key_lt (h : x.key < y.key) : lastWriterWins.keeper x y = y := by
  rw [keeper, resolve, (winner_rank_eq_challenger_iff x y).2 h]

theorem keeper_of_key_le (h : y.key ≤ x.key) : lastWriterWins.keeper x y = x := by
  rw [keeper, resolve, (winner_rank_eq_incumbent_iff x y).2 h]

theorem keeper_comm (h : x.key ≠ y.key) :
    lastWriterWins.keeper x y = lastWriterWins.keeper y x := by
  rcases h.lt_or_gt with hlt | hgt
  · rw [keeper_of_key_lt hlt, keeper_of_key_le hlt.le]
  · rw [keeper_of_key_le hgt.le, keeper_of_key_lt hgt]

end Policy

/-! ## Many challengers -/

/-- One more challenger takes the place of the first greatest exactly if it is greater. -/
theorem IsFirstGreatest.concat {ds : List Diff} {d : Diff} (h : IsFirstGreatest ds d) (x : Diff) :
    IsFirstGreatest (ds ++ [x]) (Policy.lastWriterWins.keeper d x) := by
  obtain ⟨earlier, later, rfl, hearlier, hlater⟩ := h
  rcases lt_or_ge d.key x.key with hlt | hle
  · rw [Policy.keeper_of_key_lt hlt]
    refine ⟨earlier ++ d :: later, [], rfl, ?_, List.forall_mem_nil _⟩
    intro y hy
    rcases List.mem_append.1 hy with hy | hy
    · exact (hearlier y hy).trans hlt
    · rcases List.mem_cons.1 hy with rfl | hy
      · exact hlt
      · exact (hlater y hy).trans_lt hlt
  · rw [Policy.keeper_of_key_le hle]
    refine ⟨earlier, later ++ [x], by rw [List.append_assoc, List.cons_append], hearlier, ?_⟩
    intro y hy
    rcases List.mem_append.1 hy with hy | hy
    · exact hlater y hy
    · obtain rfl := List.mem_singleton.1 hy
      exact hle

namespace Policy

theorem isFirstGreatest_survivor (incumbent : Diff) (challengers : List Diff) :
    IsFirstGreatest (incumbent :: challengers)
      (lastWriterWins.survivor incumbent challengers) := by
  induction challengers using List.reverseRecOn with
  | nil => exact ⟨[], [], rfl, List.forall_mem_nil _, List.forall_mem_nil _⟩
  | append_singleton challengers x ih =>
    rw [survivor, List.foldl_concat, ← List.cons_append]
    exact ih.concat x

/-- Last-writer-wins prefers the greater key in the lexicographic order of bases, times and device
names, of which the one with the smaller octets is preferred. Between different keys it does not
matter who holds the field, and between equal ones the incumbent stays. The preference is
transitive, the rule names the first part of the keys that differs, and of a field and its
challengers the first of the greatest survives. -/
theorem prefers_greater_key (x y z : Diff) (challengers : List Diff) :
    let lww := lastWriterWins
    ((lww.resolve x y).winner = .challenger ↔ x.key < y.key) ∧
      (x.key < y.key ↔ x.base < y.base ∨ (x.base = y.base ∧ (x.time < y.time ∨
        (x.time = y.time ∧ Text.octets y.device < Text.octets x.device)))) ∧
      (x.key ≠ y.key → lww.keeper x y = lww.keeper y x ∧
        (lww.resolve x y).rule = (lww.resolve y x).rule) ∧
      (x.key = y.key → lww.resolve x y = ⟨.incumbent, .alreadyApplied⟩) ∧
      ((lww.resolve x y).winner = .challenger → (lww.resolve y z).winner = .challenger →
        (lww.resolve x z).winner = .challenger) ∧
      (∀ rule : Rule, (lww.resolve x y).rule = rule ↔ rule.Decides x y) ∧
      IsFirstGreatest (x :: challengers) (lww.survivor x challengers) := by
  intro lww
  refine ⟨winner_rank_eq_challenger_iff x y, ?_, fun hne ↦ ⟨keeper_comm hne, rule_rank_comm x y⟩,
    rank_of_key_eq, ?_, fun rule ↦ rule_rank_eq_iff, isFirstGreatest_survivor x challengers⟩
  · rw [Diff.key_lt_iff, Text.octets_lt_octets_iff]
  · intro hxy hyz
    apply (winner_rank_eq_challenger_iff x z).2
    calc
      x.key < y.key := (winner_rank_eq_challenger_iff x y).1 hxy
      _ < z.key := (winner_rank_eq_challenger_iff y z).1 hyz

/-- The incumbent loses to a diff of a device whose name has the smaller octets. A second diff with
the same key comes too late, and one with a newer base wins against both. -/
theorem prefers_greater_key_tied :
    let lww := lastWriterWins
    let x : Diff := ⟨"dns", 1, .text "X", "😀", ⟨10, 0, by decide⟩⟩
    let y : Diff := ⟨"dns", 1, .text "Y", "\uff5e", ⟨10, 0, by decide⟩⟩
    let late : Diff := ⟨"dns", 1, .text "L", "\uff5e", ⟨10, 0, by decide⟩⟩
    let newer : Diff := ⟨"dns", 2, .text "N", "😀", ⟨9, 0, by decide⟩⟩
    (x.key ≠ y.key ∧ lww.keeper x y = lww.keeper y x) ∧
      (y.key = late.key ∧ lww.resolve y late = ⟨.incumbent, .alreadyApplied⟩) ∧
      ((lww.resolve x y).winner = .challenger ∧ (lww.resolve y newer).winner = .challenger ∧
        (lww.resolve x newer).winner = .challenger) ∧
      IsFirstGreatest [x, y, late] (lww.survivor x [y, late]) := by
  intro lww x y late newer
  obtain ⟨hwinner, hkey, hswap, -, htrans, -, hsurvivor⟩ :=
    prefers_greater_key x y newer [y, late]
  obtain ⟨-, -, -, htied, -⟩ := prefers_greater_key y late newer []
  have hlt : x.key < y.key := hkey.2 (.inr ⟨rfl, .inr ⟨rfl, by decide⟩⟩)
  have hxy : (lww.resolve x y).winner = .challenger := hwinner.2 hlt
  have hnewer : (lww.resolve y newer).winner = .challenger := by decide
  exact ⟨⟨hlt.ne, (hswap hlt.ne).1⟩, ⟨rfl, htied rfl⟩, ⟨hxy, hnewer, htrans hxy hnewer⟩, hsurvivor⟩

end Policy

end DeviceSync.Profile
