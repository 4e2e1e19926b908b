import DeviceSync.Proofs.Profile.Turns
import DeviceSync.Proofs.Profile.Updates
import Mathlib.Data.List.Sort

/-!
# Fields Do Not Know of Each Other

A batch may mix diffs of many fields. The main statement says that what becomes of a field, and what
the device is told of it, is decided by the diffs of that field alone and by their order. So diffs
of different fields may change places in a batch: every field ends with the same contents, and the
device is told the same news and has seen as much.

What fields share is the count of changes, and the number of its last change that a field remembers
does depend on the others. It is only ever compared with the number up to which the device had seen
everything before the call. A change of this batch has a greater number in any case, so the
comparison comes out the same.
-/

namespace DeviceSync.Profile

/-- What a field holds, and how its head came to hold it. The number of the last change is left out:
it counts the changes of all fields. -/
def Slot.content (s : Slot) : Json × Nat × Option Diff × Standing :=
  (s.value, s.version, s.head, s.standing)

/-- Why a diff was refused, whatever its place in the batch. -/
def Rejection.reason (r : Rejection) : String × String × String :=
  (r.field, r.code, r.message)

/-- The second batch has the diffs of the first, those of each field in the order that they have in
the first. -/
def Reorders (batch reordered : List Diff) : Prop :=
  ∀ field, reordered.filter (·.field = field) = batch.filter (·.field = field)

/-! ## Alike fields -/

/-- Two fields with the same contents, both last changed after the changes up to `seen`, or neither
of them. -/
structure Slot.Alike (seen : Nat) (s t : Slot) : Prop where
  content : s.content = t.content
  changed : s.changed ≤ seen ↔ t.changed ≤ seen

namespace Slot.Alike

variable {seen : Nat} {s t : Slot}

theorem refl (seen : Nat) (s : Slot) : s.Alike seen s := ⟨rfl, .rfl⟩

theorem version (h : s.Alike seen t) : s.version = t.version :=
  congrArg (fun content ↦ content.2.1) h.content

theorem head (h : s.Alike seen t) : s.head = t.head :=
  congrArg (fun content ↦ content.2.2.1) h.content

theorem install (h : s.Alike seen t) (d : Diff) (standing : Standing) {m n : Nat} (hm : seen ≤ m)
    (hn : seen ≤ n) : (s.install d standing (m + 1)).Alike seen (t.install d standing (n + 1)) where
  content := by
    simp only [Slot.content, Slot.install, h.version]
  changed := iff_of_false (Nat.not_le_of_lt (Nat.lt_succ_of_le hm))
    (Nat.not_le_of_lt (Nat.lt_succ_of_le hn))

/-- A device that has seen the changes up to `seen` is told the same of alike fields. -/
theorem update?_eq (h : s.Alike seen t) (device field : String) :
    Arena.update? device seen field s = Arena.update? device seen field t := by
  obtain ⟨hvalue, hversion, hhead, hstanding⟩ :
      s.value = t.value ∧ s.version = t.version ∧ s.head = t.head ∧ s.standing = t.standing := by
    simpa [Slot.content] using h.content
  simp only [Arena.update?, hvalue, hversion, hhead, hstanding, h.changed]

end Slot.Alike

namespace Arena

/-- Two profiles in which one field is alike, and which have come past the changes up to `seen`. -/
structure AlikeAt (field : String) (seen : Nat) (a b : Arena) : Prop where
  slot : Option.Rel (Slot.Alike seen) (a.slots.find? field) (b.slots.find? field)
  left_le : seen ≤ a.changes
  right_le : seen ≤ b.changes

namespace AlikeAt

variable {policy : Policy} {a b : Arena} {field : String} {seen : Nat} {s t : Slot} {d : Diff}

theorem refl (h : seen ≤ a.changes) (field : String) : AlikeAt field seen a a where
  slot := by
    cases a.slots.find? field with
    | none => exact .none
    | some s => exact .some (.refl seen s)
  left_le := h
  right_le := h

theorem eq_none (h : AlikeAt field seen a b) (ha : a.slots.find? field = none) :
    b.slots.find? field = none := by
  have hslot := h.slot
  rw [ha] at hslot
  cases hb : b.slots.find? field with
  | none => rfl
  | some t =>
    rw [hb] at hslot
    cases hslot

theorem exists_eq_some (h : AlikeAt field seen a b) (hs : a.slots.find? field = some s) :
    ∃ t, b.slots.find? field = some t ∧ s.Alike seen t := by
  have hslot := h.slot
  rw [hs] at hslot
  cases hb : b.slots.find? field with
  | none =>
    rw [hb] at hslot
    cases hslot
  | some t =>
    rw [hb] at hslot
    cases hslot with
    | some halike => exact ⟨t, rfl, halike⟩

theorem content_eq (h : AlikeAt field seen a b) :
    (a.slots.find? field).map Slot.content = (b.slots.find? field).map Slot.content := by
  cases hs : a.slots.find? field with
  | none => rw [h.eq_none hs]
  | some s =>
    obtain ⟨t, ht, halike⟩ := h.exists_eq_some hs
    rw [ht]
    exact congrArg some halike.content

theorem write (h : AlikeAt d.field seen a b) (hst : s.Alike seen t) (standing : Standing) :
    AlikeAt d.field seen (a.write s d standing) (b.write t d standing) where
  slot := by
    rw [find?_write, find?_write, if_pos rfl, if_pos rfl]
    exact .some (hst.install d standing h.left_le h.right_le)
  left_le := Nat.le_succ_of_le h.left_le
  right_le := Nat.le_succ_of_le h.right_le

theorem hold (h : AlikeAt field seen a b) (caller : String) (c : Conflict) :
    AlikeAt field seen (a.hold caller c) (b.hold caller c) where
  slot := by simpa using h.slot
  left_le := by simpa using h.left_le
  right_le := by simpa using h.right_le

/-! ## Merging into alike fields -/

/-- A diff of the field comes to the same in both profiles and leaves the field alike. -/
theorem merge_own (h : AlikeAt d.field seen a b) (ha : a.Sound) (hb : b.Sound)
    (policy : Policy) :
    (a.merge policy d).2 = (b.merge policy d).2 ∧
      AlikeAt d.field seen (a.merge policy d).1 (b.merge policy d).1 := by
  have hmerges := merges_merge ha policy d
  generalize a.merge policy d = result at hmerges ⊢
  cases hmerges with
  | unknown hslot =>
    have hmerge : b.merge policy d = _ := Merges.eq_merge hb (.unknown (h.eq_none hslot))
    rw [hmerge]
    exact ⟨rfl, h⟩
  | future hslot hbase =>
    obtain ⟨t, ht, halike⟩ := h.exists_eq_some hslot
    rw [halike.version] at hbase ⊢
    rw [Merges.eq_merge hb (.future ht hbase)]
    exact ⟨rfl, h⟩
  | clean hslot hbase =>
    obtain ⟨t, ht, halike⟩ := h.exists_eq_some hslot
    rw [Merges.eq_merge hb (.clean ht (hbase.trans halike.version)), halike.version]
    exact ⟨rfl, h.write halike .clean⟩
  | displaced hslot hhead hbase hverdict =>
    obtain ⟨t, ht, halike⟩ := h.exists_eq_some hslot
    rw [halike.version] at hbase
    rw [halike.head] at hhead
    rw [Merges.eq_merge hb (.displaced ht hhead hbase hverdict)]
    exact ⟨rfl, (h.write halike .contested).hold _ _⟩
  | kept hslot hhead hbase hverdict =>
    obtain ⟨t, ht, halike⟩ := h.exists_eq_some hslot
    rw [halike.version] at hbase
    rw [halike.head] at hhead
    rw [Merges.eq_merge hb (.kept ht hhead hbase hverdict)]
    exact ⟨rfl, h⟩

/-- A diff of another field leaves the field alike. -/
theorem merge_other (h : AlikeAt field seen a b) (ha : a.Sound) (hd : d.field ≠ field) :
    AlikeAt field seen (a.merge policy d).1 b := by
  rcases (merges_merge ha policy d).idle_or_writes with ⟨hslots, hchanges, -⟩ |
    ⟨s, standing, -, -, -, hslots, hchanges⟩
  · exact ⟨by rw [hslots]; exact h.slot, by rw [hchanges]; exact h.left_le, h.right_le⟩
  · refine ⟨?_, ?_, h.right_le⟩
    · rw [hslots, Table.find?_insert, if_neg hd]
      exact h.slot
    · rw [hchanges]
      exact Nat.le_succ_of_le h.left_le

/-- A batch, and what it has for the field, merged into profiles in which the field is alike: the
field is alike again, and the same becomes of its diffs. -/
theorem mergeAll (batch : List Diff) (h : AlikeAt field seen a b) (ha : a.Sound) (hb : b.Sound) :
    let own := batch.filter (·.field = field)
    AlikeAt field seen (a.mergeAll policy batch).1 (b.mergeAll policy own).1 ∧
      own.zip (b.mergeAll policy own).2 =
        (batch.zip (a.mergeAll policy batch).2).filter (·.1.field = field) := by
  induction batch generalizing a b with
  | nil => exact ⟨h, rfl⟩
  | cons d batch ih =>
    by_cases hd : d.field = field
    · subst hd
      obtain ⟨hfate, hmerge⟩ := h.merge_own ha hb policy
      obtain ⟨hrest, hfates⟩ := ih hmerge (ha.merge policy d) (hb.merge policy d)
      rw [List.filter_cons, if_pos (decide_eq_true rfl)]
      refine ⟨hrest, ?_⟩
      simp only [Arena.mergeAll, List.zip_cons_cons, List.filter_cons, decide_true, if_true]
      rw [hfates, hfate]
    · obtain ⟨hrest, hfates⟩ := ih (h.merge_other ha hd) (ha.merge policy d) hb
      rw [List.filter_cons, if_neg (by simpa using hd)]
      refine ⟨hrest, ?_⟩
      simp only [Arena.mergeAll, List.zip_cons_cons, List.filter_cons, hd, decide_false,
        Bool.false_eq_true, if_false]
      exact hfates

end AlikeAt

end Arena

/-! ## What concerns one field -/

/-- Of what a selection yields, a part is what it yields from the items behind that part. -/
theorem filter_filterMap_of_eq {α β : Type} {f : α → Option β} {p : β → Bool} {q : α → Bool}
    {xs : List α} (h : ∀ x ∈ xs, ∀ y, f x = some y → p y = q x) :
    (xs.filterMap f).filter p = (xs.filter q).filterMap f := by
  rw [List.filter_filterMap, List.filterMap_filter]
  apply List.filterMap_congr
  intro x hx
  cases hf : f x with
  | none => simp
  | some y => simp [Option.filter, h x hx y hf]

/-- Why a diff was refused, if it was. -/
def Disposition.refusal? : Diff × Disposition → Option (String × String × String)
  | (d, .rejected e) => some (d.field, e.code, e.message)
  | _ => none

theorem map_reason_filterMap_rejected? (fated : List (Diff × Disposition)) :
    (fated.zipIdx.filterMap Disposition.rejected?).map Rejection.reason =
      fated.filterMap Disposition.refusal? := by
  have hreason (p : (Diff × Disposition) × Nat) :
      (Disposition.rejected? p).map Rejection.reason = Disposition.refusal? p.1 := by
    obtain ⟨⟨d, fate⟩, index⟩ := p
    cases fate <;> rfl
  rw [List.map_filterMap, funext hreason, ← Function.comp_def, ← List.filterMap_map,
    List.zipIdx_map_fst]

/-- A conflict is one of the field of the diff that met it. -/
theorem Entry.Sound.field_of_settled {policy : Policy} {e : Entry} (h : e.Sound policy)
    {c : Conflict} (hfate : e.fate = .settled c) : c.field = e.diff.field := by
  obtain ⟨s, t, d, haccepts⟩ := h (by rw [hfate]; rfl)
  cases haccepts with
  | clean => cases hfate
  | displaced | kept =>
    obtain rfl := Disposition.settled.inj hfate
    rfl

/-- Updates in the order of their fields are told apart by what they are. -/
theorem eq_of_mem_updates_iff {us vs : List Update} (hus : us.Pairwise (·.field < ·.field))
    (hvs : vs.Pairwise (·.field < ·.field)) (h : ∀ u, u ∈ us ↔ u ∈ vs) : us = vs := by
  have : Std.Antisymm fun u v : Update ↦ u.field < v.field :=
    ⟨fun u v huv hvu ↦ absurd hvu (String.lt_asymm huv)⟩
  have : Std.Irrefl fun u v : Update ↦ u.field < v.field := ⟨fun u ↦ String.lt_irrefl u.field⟩
  exact hus.eq_of_mem_iff hvs h

namespace Arena

variable {policy : Policy} {a b : Arena} {field : String} {seen : Nat}

theorem mem_updates_iff_bind (a : Arena) (device : String) (seen : Nat) (u : Update) :
    u ∈ a.updates device seen ↔
      (a.slots.find? u.field).bind (update? device seen u.field) = some u := by
  rw [mem_updates_iff, Option.bind_eq_some_iff]
  constructor
  · rintro ⟨field, s, hs, hu⟩
    obtain rfl := (update?_eq_some hu).1
    exact ⟨s, hs, hu⟩
  · rintro ⟨s, hs, hu⟩
    exact ⟨u.field, s, hs, hu⟩

theorem AlikeAt.filter_updates (h : AlikeAt field seen a b) (device : String) :
    (a.updates device seen).filter (·.field = field) =
      (b.updates device seen).filter (·.field = field) := by
  apply eq_of_mem_updates_iff ((pairwise_updates a device seen).filter _)
    ((pairwise_updates b device seen).filter _)
  intro u
  rw [List.mem_filter, List.mem_filter, and_congr_left_iff]
  intro hfield
  obtain rfl : u.field = field := of_decide_eq_true hfield
  rw [mem_updates_iff_bind, mem_updates_iff_bind]
  cases hs : a.slots.find? u.field with
  | none => rw [h.eq_none hs]
  | some s =>
    obtain ⟨t, ht, halike⟩ := h.exists_eq_some hs
    rw [ht, Option.bind_some, Option.bind_some, halike.update?_eq]

theorem updates_eq_of_filter_eq {device : String}
    (h : ∀ field, (a.updates device seen).filter (·.field = field) =
      (b.updates device seen).filter (·.field = field)) :
    a.updates device seen = b.updates device seen := by
  apply eq_of_mem_updates_iff (pairwise_updates a device seen) (pairwise_updates b device seen)
  intro u
  have hmem : u ∈ (a.updates device seen).filter (·.field = u.field) ↔
      u ∈ (b.updates device seen).filter (·.field = u.field) := by rw [h]
  simpa using hmem

/-! ## The batch of one field -/

section Part

variable (policy : Policy) (ha : a.Sound) (device : String) (batch : List Diff) (now : Instant)
  (field : String)

include ha

/-- What a batch has for a field, sent alone, leaves the field alike. -/
theorem alikeAt_part :
    AlikeAt field (a.seenBy device)
      (a.mergeAll policy (batch.map (Diff.stamp device))).1
      (a.mergeAll policy ((batch.filter (·.field = field)).map (Diff.stamp device))).1 ∧
    a.fated policy device (batch.filter (·.field = field)) =
      (a.fated policy device batch).filter (·.1.field = field) := by
  have hown : (batch.filter (·.field = field)).map (Diff.stamp device) =
      (batch.map (Diff.stamp device)).filter (·.field = field) := by
    rw [List.filter_map]
    rfl
  rw [fated, fated, hown]
  exact (AlikeAt.refl (ha.seen_le device) field).mergeAll _ ha ha

theorem applied_part :
    (a.sync policy device (batch.filter (·.field = field)) now).2.applied =
      (a.sync policy device batch now).2.applied.filter (·.field = field) := by
  rw [applied_sync, applied_sync, (alikeAt_part policy ha device batch field).2]
  refine (filter_filterMap_of_eq ?_).symm
  rintro ⟨d, fate⟩ - r hr
  cases fate with
  | applied version =>
    obtain rfl := Option.some.inj hr
    rfl
  | rejected | settled => cases hr

theorem settled_part :
    (a.sync policy device (batch.filter (·.field = field)) now).2.settled =
      (a.sync policy device batch now).2.settled.filter (·.field = field) := by
  rw [settled_sync, settled_sync, ← map_snd_fated, ← map_snd_fated, List.filterMap_map,
    List.filterMap_map, (alikeAt_part policy ha device batch field).2]
  refine (filter_filterMap_of_eq ?_).symm
  intro p hp c hc
  rw [fated, zip_fates] at hp
  obtain ⟨e, he, rfl⟩ := List.mem_map.1 hp
  have hfate : e.fate = .settled c := by
    cases hfate : e.fate with
    | settled c' =>
      simp only [Function.comp_apply, hfate] at hc
      rw [Option.some.inj hc]
    | rejected | applied => simp [hfate, Disposition.settled?] at hc
  rw [(sound_of_mem_entries ha he).field_of_settled hfate]

theorem rejected_part :
    (a.sync policy device (batch.filter (·.field = field)) now).2.rejected.map Rejection.reason =
      ((a.sync policy device batch now).2.rejected.filter (·.field = field)).map
        Rejection.reason := by
  have hfilter (rs : List Rejection) : (rs.filter (·.field = field)).map Rejection.reason =
      (rs.map Rejection.reason).filter (·.1 = field) := by
    rw [List.filter_map]
    rfl
  rw [hfilter, rejected_sync, rejected_sync, map_reason_filterMap_rejected?,
    map_reason_filterMap_rejected?, (alikeAt_part policy ha device batch field).2]
  refine (filter_filterMap_of_eq ?_).symm
  rintro ⟨d, fate⟩ - r hr
  cases fate with
  | rejected e =>
    obtain rfl := Option.some.inj hr
    rfl
  | applied | settled => cases hr

theorem updates_part :
    (a.sync policy device (batch.filter (·.field = field)) now).2.updates.filter
        (·.field = field) =
      (a.sync policy device batch now).2.updates.filter (·.field = field) :=
  ((alikeAt_part policy ha device batch field).1.filter_updates device).symm

theorem content_part :
    ((a.sync policy device (batch.filter (·.field = field)) now).1.slots.find? field).map
        Slot.content =
      ((a.sync policy device batch now).1.slots.find? field).map Slot.content :=
  (alikeAt_part policy ha device batch field).1.content_eq.symm

end Part

/-! ## Another order -/

/-- The versions of all fields together are a matter of their contents. -/
theorem totalVersions_eq (h : ∀ field,
    (a.slots.find? field).map Slot.content = (b.slots.find? field).map Slot.content) :
    a.totalVersions = b.totalVersions := by
  have hversions : a.slots.map (·.version) = b.slots.map (·.version) := by
    ext1 field
    have hversion := congrArg (Option.map fun content ↦ content.2.1) (h field)
    rw [Option.map_map, Option.map_map] at hversion
    rw [Table.find?_map, Table.find?_map]
    exact hversion
  have hvalues (t : Table Slot) : t.values.map (·.version) = (t.map (·.version)).values := by
    simp [Table.values, Table.map]
  rw [totalVersions, totalVersions, hvalues, hvalues, hversions]

section Reordered

variable (policy : Policy) (ha : a.Sound) (device : String) {batch reordered : List Diff}
  (now : Instant) (h : Reorders batch reordered)

include ha h

theorem content_reordered (field : String) :
    ((a.sync policy device reordered now).1.slots.find? field).map Slot.content =
      ((a.sync policy device batch now).1.slots.find? field).map Slot.content := by
  rw [← content_part policy ha device reordered now field, h field,
    content_part policy ha device batch now field]

theorem updates_reordered :
    (a.sync policy device reordered now).2.updates = (a.sync policy device batch now).2.updates := by
  apply updates_eq_of_filter_eq
  intro field
  have hreordered := updates_part policy ha device reordered now field
  rw [h field, updates_part policy ha device batch now field] at hreordered
  exact hreordered.symm

theorem syncPoint_reordered (hversions : a.totalVersions = a.changes) :
    (a.sync policy device reordered now).2.syncPoint =
      (a.sync policy device batch now).2.syncPoint := by
  have hchanges (batch : List Diff) :
      (a.mergeAll policy (batch.map (Diff.stamp device))).1.changes =
        (a.sync policy device batch now).1.totalVersions :=
    (totalVersions_run ha [⟨device, batch, now⟩] hversions).symm
  rw [syncPoint_sync, syncPoint_sync, hchanges, hchanges,
    totalVersions_eq (content_reordered policy ha device now h)]

end Reordered

end Arena

namespace Engine

/-- What a user's field holds. -/
def content? (e : Engine) (user field : String) : Option (Json × Nat × Option Diff × Standing) :=
  ((e.arena user).slots.find? field).map Slot.content

/-- Of every field, a batch and what the batch has for that field alone make the same, and they are
answered the same in all that concerns the field, but for the places of refused diffs. A batch in
which diffs of different fields have changed places makes the same of every field, and its device
is told the same updates and the same sync point. -/
theorem fields_independent {fields : List String} {policy : Policy} {e : Engine}
    (he : (new fields policy).Reaches e) (user device : String) (batch : List Diff)
    (now : Instant) :
    let whole := e.sync user device batch now
    (∀ field,
      let part := e.sync user device (batch.filter (·.field = field)) now
      part.1.content? user field = whole.1.content? user field ∧
        part.2.applied = whole.2.applied.filter (·.field = field) ∧
        part.2.settled = whole.2.settled.filter (·.field = field) ∧
        part.2.rejected.map Rejection.reason =
          (whole.2.rejected.filter (·.field = field)).map Rejection.reason ∧
        part.2.updates.filter (·.field = field) = whole.2.updates.filter (·.field = field)) ∧
    ∀ reordered, Reorders batch reordered →
      let other := e.sync user device reordered now
      (∀ field, other.1.content? user field = whole.1.content? user field) ∧
        other.2.updates = whole.2.updates ∧ other.2.syncPoint = whole.2.syncPoint := by
  intro whole
  have hsound : (e.arena user).Sound := sound_of_reaches_new he user
  have hversions : (e.arena user).totalVersions = (e.arena user).changes := by
    obtain ⟨calls, hcalls⟩ := he.exists_run user
    rw [hcalls]
    exact Arena.totalVersions_run (sound_arena_new fields policy user) calls
      (Arena.totalVersions_blank _)
  have hcontent (batch : List Diff) (field : String) :
      (e.sync user device batch now).1.content? user field =
        (((e.arena user).sync e.policy device batch now).1.slots.find? field).map
          Slot.content := by
    rw [content?, arena_sync]
  constructor
  · intro field part
    refine ⟨?_, Arena.applied_part _ hsound .., Arena.settled_part _ hsound ..,
      Arena.rejected_part _ hsound .., Arena.updates_part _ hsound ..⟩
    rw [hcontent, hcontent]
    exact Arena.content_part _ hsound ..
  · intro reordered hreorders other
    refine ⟨fun field ↦ ?_, Arena.updates_reordered _ hsound _ _ hreorders,
      Arena.syncPoint_reordered _ hsound _ _ hreorders hversions⟩
    rw [hcontent, hcontent]
    exact Arena.content_reordered _ hsound _ _ hreorders field

/-- A batch that displaces the head of one field and goes on from there, while it writes another
field and has diffs that are refused, and the same batch field by field. -/
theorem fields_independent_mixed :
    let e := (new ["dns", "vpn"] .lastWriterWins).run "u"
      [⟨"a", [⟨"dns", 0, .text "X", "", ⟨1, 0, by decide⟩⟩], .epoch⟩]
    let displaces : Diff := ⟨"dns", 0, .text "Y", "", ⟨50, 0, by decide⟩⟩
    let proceeds : Diff := ⟨"dns", 2, .text "Z", "", ⟨60, 0, by decide⟩⟩
    let writes : Diff := ⟨"vpn", 0, .text "P", "", ⟨50, 0, by decide⟩⟩
    let early : Diff := ⟨"vpn", 5, .text "Q", "", ⟨50, 0, by decide⟩⟩
    let stray : Diff := ⟨"tls", 0, .text "R", "", ⟨50, 0, by decide⟩⟩
    let batch := [writes, displaces, stray, early, proceeds]
    let reordered := [displaces, proceeds, writes, early, stray]
    let whole := e.sync "u" "b" batch .epoch
    let part := e.sync "u" "b" (batch.filter (·.field = "dns")) .epoch
    let other := e.sync "u" "b" reordered .epoch
    (new ["dns", "vpn"] .lastWriterWins).Reaches e ∧ Reorders batch reordered ∧
      part.1.content? "u" "dns" = whole.1.content? "u" "dns" ∧
      part.2.applied = whole.2.applied.filter (·.field = "dns") ∧
      whole.2.applied = [⟨"vpn", 1⟩, ⟨"dns", 3⟩] ∧ whole.2.resolved = 1 ∧
      (∀ field, other.1.content? "u" field = whole.1.content? "u" field) ∧
      other.2.updates = whole.2.updates ∧ other.2.syncPoint = whole.2.syncPoint ∧
      whole.2.syncPoint = 4 := by
  intro e displaces proceeds writes early stray batch reordered
  have hreaches : (new ["dns", "vpn"] .lastWriterWins).Reaches e := Reaches.run _ _ _
  have hreorders : Reorders batch reordered := by
    intro field
    by_cases hdns : "dns" = field
    · subst hdns
      rfl
    · by_cases hvpn : "vpn" = field
      · subst hvpn
        rfl
      · have hleft : batch.filter (·.field = field) = [stray].filter (·.field = field) := by
          simp [batch, displaces, proceeds, writes, early, hdns, hvpn, List.filter_cons]
        have hright : reordered.filter (·.field = field) = [stray].filter (·.field = field) := by
          simp [reordered, displaces, proceeds, writes, early, hdns, hvpn, List.filter_cons]
        rw [hleft, hright]
  obtain ⟨hparts, horders⟩ := fields_independent hreaches "u" "b" batch .epoch
  obtain ⟨hcontent, happlied, -⟩ := hparts "dns"
  obtain ⟨hcontents, hupdates, hpoint⟩ := horders reordered hreorders
  exact ⟨hreaches, hreorders, hcontent, happlied, by decide, by decide, hcontents, hupdates, hpoint,
    by decide⟩

end Engine

end DeviceSync.Profile
