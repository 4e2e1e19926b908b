import DeviceSync.Profile.Engine
import DeviceSync.Proofs.Table

/-!
# What Merging Can Come To

Merging a diff has five endings, and `Merges` names them with everything that is known in each. A
sixth branch of the code, a late diff for a field that nobody holds, is never taken: in a sound
profile a field has a head as soon as it has a version.

Later modules argue by these endings and do not open `Arena.merge` again.
-/

namespace DeviceSync.Profile

/-! ## Sound profiles -/

/-- A field as merging leaves it: never written, or written last by a diff of its own. That diff
was made from no later version than the field had, and from that version exactly if it was applied
without conflict. -/
inductive Slot.Sound (field : String) : Slot → Prop where
  | blank : Slot.Sound field .blank
  | install (s : Slot) (d : Diff) (standing : Standing) (change : Nat) (hfield : d.field = field)
      (hbase : d.base ≤ s.version) (hstanding : standing = .clean ↔ d.base = s.version)
      (hchange : 0 < change) : Slot.Sound field (s.install d standing change)

namespace Slot.Sound

variable {field : String} {s : Slot} {d : Diff}

theorem exists_head (h : s.Sound field) (hversion : 0 < s.version) : ∃ d, s.head = some d := by
  cases h with
  | blank => exact absurd hversion (Nat.lt_irrefl 0)
  | install s d standing change => exact ⟨d, rfl⟩

theorem head_field (h : s.Sound field) (hd : s.head = some d) : d.field = field := by
  cases h with
  | blank => cases hd
  | install s d' standing change hfield =>
    obtain rfl := Option.some.inj hd
    exact hfield

theorem head_value (h : s.Sound field) (hd : s.head = some d) : s.value = d.value := by
  cases h with
  | blank => cases hd
  | install s d' standing change =>
    obtain rfl := Option.some.inj hd
    rfl

theorem eq_blank_of_head (h : s.Sound field) (hhead : s.head = none) : s = .blank := by
  cases h with
  | blank => rfl
  | install s d standing change => cases hhead

end Slot.Sound

namespace Arena

/-- The version of a field. A field that the profile does not have stays at 0. -/
def versionOf (a : Arena) (field : String) : Nat :=
  ((a.slots.find? field).map (·.version)).getD 0

theorem versionOf_of_find? {a : Arena} {field : String} {s : Slot}
    (h : a.slots.find? field = some s) : a.versionOf field = s.version := by
  rw [versionOf, h]
  rfl

/-- Every field is sound, and neither a field nor a device is ahead of the count of changes. -/
structure Sound (a : Arena) : Prop where
  slot : ∀ {field s}, a.slots.find? field = some s → s.Sound field
  changed_le : ∀ {field s}, a.slots.find? field = some s → s.changed ≤ a.changes
  seen_le : ∀ device, a.seenBy device ≤ a.changes

/-! ## Writing and holding -/

section Steps

variable (a : Arena) (s : Slot) (d : Diff) (standing : Standing)

@[simp]
theorem changes_write : (a.write s d standing).changes = a.changes + 1 := rfl

@[simp]
theorem heldFor_write (device : String) :
    (a.write s d standing).heldFor device = a.heldFor device := rfl

theorem find?_write (field : String) :
    (a.write s d standing).slots.find? field =
      if d.field = field then some (s.install d standing (a.changes + 1))
      else a.slots.find? field :=
  Table.find?_insert a.slots d.field field _

variable (caller : String) (c : Conflict)

@[simp]
theorem slots_hold : (a.hold caller c).slots = a.slots := by
  unfold hold
  split <;> rfl

@[simp]
theorem changes_hold : (a.hold caller c).changes = a.changes := by
  unfold hold
  split <;> rfl

@[simp]
theorem seenBy_hold (device : String) : (a.hold caller c).seenBy device = a.seenBy device := by
  unfold hold
  split <;> rfl

/-- A conflict reaches what is held for the device that lost it, unless that device is calling. -/
theorem heldFor_hold (device : String) :
    (a.hold caller c).heldFor device =
      a.heldFor device ++ if c.loser.device = device ∧ device ≠ caller then [c] else [] := by
  unfold hold
  by_cases hcaller : c.loser.device = caller
  · rw [if_pos hcaller, if_neg, List.append_nil]
    intro hlost
    exact hlost.2 (hlost.1.symm.trans hcaller)
  · rw [if_neg hcaller, heldFor, Table.find?_insert]
    by_cases hdevice : c.loser.device = device
    · subst hdevice
      simp [heldFor, hcaller]
    · simp [heldFor, hdevice]

end Steps

/-! ## The endings of a merge -/

/-- What a diff comes to when it is merged. -/
inductive Merges (policy : Policy) (a : Arena) (d : Diff) : Arena × Disposition → Prop where
  | unknown (hslot : a.slots.find? d.field = none) :
      Merges policy a d (a, .rejected (.unknownField d.field))
  | future {s : Slot} (hslot : a.slots.find? d.field = some s) (hbase : s.version < d.base) :
      Merges policy a d (a, .rejected (.futureBase d.field d.base s.version))
  | clean {s : Slot} (hslot : a.slots.find? d.field = some s) (hbase : d.base = s.version) :
      Merges policy a d (a.write s d .clean, .applied (s.version + 1))
  /-- A late diff takes the field from the head. -/
  | displaced {s : Slot} {head : Diff} {rule : Rule} (hslot : a.slots.find? d.field = some s)
      (hhead : s.head = some head) (hbase : d.base < s.version)
      (hverdict : policy.resolve head d = ⟨.challenger, rule⟩) :
      Merges policy a d ((a.write s d .contested).hold d.device ⟨d.field, d, head, policy, rule⟩,
        .settled ⟨d.field, d, head, policy, rule⟩)
  /-- The head keeps the field against a late diff. Its device is told at once. -/
  | kept {s : Slot} {head : Diff} {rule : Rule} (hslot : a.slots.find? d.field = some s)
      (hhead : s.head = some head) (hbase : d.base < s.version)
      (hverdict : policy.resolve head d = ⟨.incumbent, rule⟩) :
      Merges policy a d (a, .settled ⟨d.field, head, d, policy, rule⟩)

theorem merges_merge {a : Arena} (ha : a.Sound) (policy : Policy) (d : Diff) :
    Merges policy a d (a.merge policy d) := by
  unfold merge
  cases hslot : a.slots.find? d.field with
  | none => exact .unknown hslot
  | some s =>
    have hs := ha.slot hslot
    dsimp only
    split
    next hlt => exact .future hslot hlt
    next hle =>
      split
      next heq => exact .clean hslot heq
      next hne =>
        have hbase : d.base < s.version := by omega
        obtain ⟨head, hhead⟩ := hs.exists_head (Nat.zero_lt_of_lt hbase)
        rw [hhead]
        dsimp only [contend]
        split
        next hwinner => exact .displaced hslot hhead hbase (by rw [← hwinner])
        next hwinner =>
          rw [hold, if_pos rfl, hs.head_field hhead]
          exact .kept hslot hhead hbase (by rw [← hwinner])

/-- No other ending fits: a merge comes to what an ending says that it may come to. -/
theorem Merges.eq_merge {a : Arena} (ha : a.Sound) {policy : Policy} {d : Diff}
    {result : Arena × Disposition} (h : Merges policy a d result) : a.merge policy d = result := by
  cases h with
  | unknown hslot => rw [merge, hslot]
  | future hslot hbase =>
    rw [merge, hslot]
    exact if_pos hbase
  | clean hslot hbase =>
    rw [merge, hslot]
    dsimp only
    rw [if_neg (Nat.not_lt_of_ge (Nat.le_of_eq hbase)), if_pos hbase]
  | displaced hslot hhead hbase hverdict =>
    rw [merge, hslot]
    dsimp only
    rw [if_neg (Nat.lt_asymm hbase), if_neg (Nat.ne_of_lt hbase), hhead]
    dsimp only [contend]
    rw [hverdict]
  | kept hslot hhead hbase hverdict =>
    rw [merge, hslot]
    dsimp only
    rw [if_neg (Nat.lt_asymm hbase), if_neg (Nat.ne_of_lt hbase), hhead]
    dsimp only [contend]
    rw [hverdict]
    dsimp only
    rw [hold, if_pos rfl, (ha.slot hslot).head_field hhead]

/-! ## Soundness is kept -/

theorem find?_blank (fields : List String) (field : String) :
    (Arena.blank fields).slots.find? field = if field ∈ fields then some .blank else none :=
  Table.find?_ofKeys fields _ field

theorem sound_blank (fields : List String) : (Arena.blank fields).Sound where
  slot h := by
    rw [find?_blank] at h
    split at h
    · obtain rfl := Option.some.inj h
      exact .blank
    · contradiction
  changed_le h := by
    rw [find?_blank] at h
    split at h
    · obtain rfl := Option.some.inj h
      exact Nat.le_refl 0
    · contradiction
  seen_le _ := Nat.le_refl 0

theorem Sound.write {a : Arena} (ha : a.Sound) {s : Slot} {d : Diff} {standing : Standing}
    (hbase : d.base ≤ s.version) (hstanding : standing = .clean ↔ d.base = s.version) :
    (a.write s d standing).Sound where
  slot {field t} h := by
    rw [find?_write] at h
    split at h
    next hfield =>
      obtain rfl := Option.some.inj h
      exact .install s d standing _ hfield hbase hstanding (Nat.succ_pos _)
    next => exact ha.slot h
  changed_le {field t} h := by
    rw [find?_write] at h
    split at h
    next =>
      obtain rfl := Option.some.inj h
      exact Nat.le_refl _
    next => exact Nat.le_succ_of_le (ha.changed_le h)
  seen_le device := Nat.le_succ_of_le (ha.seen_le device)

theorem Sound.hold {a : Arena} (ha : a.Sound) (caller : String) (c : Conflict) :
    (a.hold caller c).Sound where
  slot h := ha.slot (by simpa using h)
  changed_le h := by simpa using ha.changed_le (by simpa using h)
  seen_le device := by simpa using ha.seen_le device

theorem Sound.merge {a : Arena} (ha : a.Sound) (policy : Policy) (d : Diff) :
    (a.merge policy d).1.Sound := by
  have hmerges := merges_merge ha policy d
  generalize a.merge policy d = result at hmerges ⊢
  cases hmerges with
  | unknown | future | kept => exact ha
  | clean hslot hbase => exact ha.write (Nat.le_of_eq hbase) (iff_of_true rfl hbase)
  | displaced hslot hhead hbase =>
    refine (ha.write (Nat.le_of_lt hbase) ?_).hold _ _
    exact iff_of_false nofun (Nat.ne_of_lt hbase)

theorem Sound.mergeAll {policy : Policy} (batch : List Diff) {a : Arena} (ha : a.Sound) :
    (a.mergeAll policy batch).1.Sound := by
  induction batch generalizing a with
  | nil => exact ha
  | cons d batch ih => exact ih (ha.merge policy d)

end Arena

end DeviceSync.Profile
