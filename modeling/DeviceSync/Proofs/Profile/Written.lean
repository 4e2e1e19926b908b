import DeviceSync.Proofs.Profile.Reachable
import Mathlib.Data.Finset.Card

/-!
# Written Fields and Sync Times

The first write of a field is never a conflict: until then nothing holds the field that a late diff
could contend with. So the fields that have been written are those for which some call reported an
applied diff, and their number can be told from the reports alone. Refused diffs are reported in the
order of their batch, and when a device synced last is told by its own calls.
-/

namespace DeviceSync.Profile

namespace Arena

variable {policy : Policy} {a : Arena}

/-! ## Written fields -/

theorem Merges.versionOf_pos_iff {d : Diff} {result : Arena × Disposition}
    (hmerges : Merges policy a d result) (field : String) :
    0 < result.1.versionOf field ↔
      0 < a.versionOf field ∨ ((a.entryOf d result).Clean ∧ d.field = field) := by
  cases hmerges with
  | unknown | future | kept =>
    refine (or_iff_left ?_).symm
    rintro ⟨⟨_, hfate⟩, -⟩
    cases hfate
  | @clean s hslot hbase =>
    have hclean : (a.entryOf d (a.write s d .clean, .applied (s.version + 1))).Clean := ⟨_, rfl⟩
    rw [versionOf_write]
    by_cases hfield : d.field = field
    · rw [if_pos hfield]
      exact iff_of_true (Nat.succ_pos _) (.inr ⟨hclean, hfield⟩)
    · rw [if_neg hfield]
      exact (or_iff_left fun h ↦ hfield h.2).symm
  | @displaced s head rule hslot hhead hbase hverdict =>
    -- The field was written before, or there would have been no head to displace.
    rw [versionOf_hold, versionOf_write]
    by_cases hfield : d.field = field
    · have hversion : a.versionOf field = s.version := versionOf_of_find? (hfield ▸ hslot)
      rw [if_pos hfield, hversion]
      exact iff_of_true (Nat.succ_pos _) (.inl (Nat.zero_lt_of_lt hbase))
    · rw [if_neg hfield]
      exact (or_iff_left fun h ↦ hfield h.2).symm

theorem versionOf_mergeAll_pos_iff (ha : a.Sound) (batch : List Diff) (field : String) :
    0 < (a.mergeAll policy batch).1.versionOf field ↔
      0 < a.versionOf field ∨ ∃ e ∈ a.entries policy batch, e.Clean ∧ e.diff.field = field := by
  refine mergeAll_induction (P := fun b past ↦ 0 < b.versionOf field ↔
    0 < a.versionOf field ∨ ∃ e ∈ past, e.Clean ∧ e.diff.field = field) batch ?_ [] ha (by simp)
  intro b past d result _ _ hmerges hpast
  rw [hmerges.versionOf_pos_iff, hpast, or_assoc]
  simp only [List.mem_append, List.mem_singleton, or_and_right, exists_or, exists_eq_left]
  rfl

/-- The fields of applied diffs, as an outcome lists them, are those of the clean entries. -/
theorem mem_applied_event_iff (c : Call) (field : String) :
    field ∈ (a.event policy c).outcome.applied.map (·.field) ↔
      ∃ e ∈ a.entries policy c.stamped, e.Clean ∧ e.diff.field = field := by
  rw [applied_event, List.mem_map]
  simp only [List.mem_filterMap]
  constructor
  · rintro ⟨report, ⟨e, he, hreport⟩, rfl⟩
    cases hfate : e.fate with
    | applied version =>
      rw [hfate] at hreport
      obtain rfl := Option.some.inj hreport
      exact ⟨e, he, ⟨version, hfate⟩, rfl⟩
    | rejected | settled => simp [hfate, Disposition.applied?] at hreport
  · rintro ⟨e, he, ⟨version, hfate⟩, rfl⟩
    exact ⟨⟨e.diff.field, version⟩, ⟨e, he, by rw [hfate]; rfl⟩, rfl⟩

/-- A call writes for the first time only what it reports as applied. -/
theorem versionOf_after_pos_iff (ha : a.Sound) (c : Call) (field : String) :
    0 < (a.after policy c).versionOf field ↔
      0 < a.versionOf field ∨ field ∈ (a.event policy c).outcome.applied.map (·.field) := by
  rw [mem_applied_event_iff]
  exact versionOf_mergeAll_pos_iff ha c.stamped field

/-- The number of written fields is the size of any set that tells them apart. -/
theorem written_eq_card {fields : Finset String}
    (h : ∀ field, 0 < a.versionOf field ↔ field ∈ fields) : a.written = fields.card := by
  let written := a.slots.entries.filter fun entry ↦ 0 < entry.2.version
  have hnodup : (written.map (·.1)).Nodup :=
    a.slots.nodup_keys.sublist (List.filter_sublist.map _)
  have hfields : (written.map (·.1)).toFinset = fields := by
    ext field
    rw [← h, List.mem_toFinset, List.mem_map, versionOf]
    constructor
    · rintro ⟨⟨_, s⟩, hmem, rfl⟩
      obtain ⟨hmem, hversion⟩ := List.mem_filter.1 hmem
      rw [(Table.mem_entries_iff ..).1 hmem]
      simpa using hversion
    · intro hversion
      cases hslot : a.slots.find? field with
      | none => simp [hslot] at hversion
      | some s =>
        refine ⟨(field, s), List.mem_filter.2 ⟨(Table.mem_entries_iff ..).2 hslot, ?_⟩, rfl⟩
        simpa [hslot] using hversion
  calc
    a.written = written.length := by
      rw [Arena.written, Table.values, List.countP_map, List.countP_eq_length_filter]
      rfl
    _ = (written.map (·.1)).toFinset.card := by
      rw [List.toFinset_card_of_nodup hnodup, List.length_map]
    _ = fields.card := by rw [hfields]

/-! ## Refused diffs and sync times -/

/-- Refused diffs are reported in the order of the batch. -/
theorem pairwise_rejected_sync (policy : Policy) (a : Arena) (device : String) (batch : List Diff)
    (now : Instant) :
    (a.sync policy device batch now).2.rejected.Pairwise (·.index < ·.index) := by
  have hplaces {α : Type} (l : List α) : l.zipIdx.Pairwise (·.2 < ·.2) := by
    apply List.pairwise_map.1
    rw [List.zipIdx_map_snd]
    exact List.pairwise_lt_range'
  apply (hplaces _).filterMap
  rintro ⟨⟨d, fate⟩, i⟩ ⟨⟨d', fate'⟩, j⟩ hij r hr r' hr'
  cases fate with
  | rejected e =>
    cases fate' with
    | rejected e' =>
      obtain rfl := Option.some.inj hr
      obtain rfl := Option.some.inj hr'
      exact hij
    | applied | settled => cases hr'
  | applied | settled => cases hr

theorem points_hold (a : Arena) (caller : String) (c : Conflict) :
    (a.hold caller c).points = a.points := by
  unfold hold
  split <;> rfl

theorem points_mergeAll (ha : a.Sound) (batch : List Diff) :
    (a.mergeAll policy batch).1.points = a.points := by
  refine mergeAll_induction (P := fun b _ ↦ b.points = a.points) batch ?_ [] ha rfl
  intro b past d result _ _ hmerges hpoints
  cases hmerges with
  | unknown | future | kept | clean => exact hpoints
  | displaced => exact (points_hold ..).trans hpoints

end Arena

namespace Engine

/-- A call tells when its own device synced last, and leaves all other devices where they were. -/
theorem lastSync?_sync {e : Engine} {user : String} (hsound : (e.arena user).Sound)
    (device : String) (batch : List Diff) (now : Instant) (other name : String) :
    (e.sync user device batch now).1.lastSync? other name =
      if user = other ∧ device = name then some now else e.lastSync? other name := by
  rw [lastSync?]
  by_cases huser : user = other
  · subst huser
    rw [arena_sync]
    change (((((e.arena user).mergeAll e.policy _).1.points.insert device _).find? name).map
      (·.time)) = _
    rw [Table.find?_insert, Arena.points_mergeAll hsound]
    by_cases hdevice : device = name
    · rw [if_pos hdevice, if_pos ⟨rfl, hdevice⟩]
      rfl
    · rw [if_neg hdevice, if_neg fun h ↦ hdevice h.2]
      rfl
  · rw [arena_sync_of_ne _ _ _ _ _ huser, if_neg fun h ↦ huser h.1]
    rfl

end Engine

end DeviceSync.Profile
