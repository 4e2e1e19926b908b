import DeviceSync.Proofs.Profile.History
import DeviceSync.Proofs.Table

/-!
# Batches in Parts

A device may send its diffs in one batch or in several, one right after the other: the engine ends
up in the same state, and the device is told the same of its diffs. What is held for the device is
handed over with the first part, and what it has seen is the same in the end.

Between two parts a call is concluded: the device's sync point moves on and nothing is held for it
any more. Merging the device's own diffs neither looks at the one nor adds to the other, so it makes
no difference whether a call is concluded before them or after them.

None of this needs a state that an engine can get to. It holds of all engines.
-/

namespace DeviceSync.Profile

namespace Arena

/-! ## Concluding a call -/

/-- The end of a call: the device has seen what the point says, and nothing is held for it. -/
def conclude (a : Arena) (device : String) (point : SyncPoint) : Arena :=
  { a with points := a.points.insert device point, pending := a.pending.erase device }

section Conclude

variable (policy : Policy) (a : Arena) (device : String) (point : SyncPoint)

theorem heldFor_conclude : (a.conclude device point).heldFor device = [] := by
  rw [heldFor, conclude, Table.find?_erase, if_pos rfl]
  rfl

theorem seenBy_conclude : (a.conclude device point).seenBy device = point.change := by
  rw [seenBy, conclude, Table.find?_insert, if_pos rfl]
  rfl

/-- Only the last of several conclusions counts. -/
theorem conclude_conclude (later : SyncPoint) :
    (a.conclude device point).conclude device later = a.conclude device later := by
  simp only [conclude, Table.insert_insert, Table.erase_erase]

/-- What a device holds for others does not depend on what was held for itself. -/
theorem hold_conclude (c : Conflict) :
    (a.conclude device point).hold device c = (a.hold device c).conclude device point := by
  unfold hold
  by_cases hloser : c.loser.device = device
  · rw [if_pos hloser, if_pos hloser]
  · rw [if_neg hloser, if_neg hloser]
    simp only [conclude, Table.find?_erase, if_neg (Ne.symm hloser),
      Table.erase_insert_of_ne _ (Ne.symm hloser)]

theorem contend_conclude (s : Slot) (head d : Diff) :
    (a.conclude d.device point).contend policy s head d =
      ((a.contend policy s head d).1.conclude d.device point,
        (a.contend policy s head d).2) := by
  unfold contend
  dsimp only
  split
  · exact Prod.ext (hold_conclude (a.write s d .contested) _ _ _) rfl
  · exact Prod.ext (hold_conclude a _ _ _) rfl

theorem merge_conclude (d : Diff) :
    (a.conclude d.device point).merge policy d =
      ((a.merge policy d).1.conclude d.device point, (a.merge policy d).2) := by
  have hslots : (a.conclude d.device point).slots = a.slots := rfl
  unfold merge
  rw [hslots]
  cases a.slots.find? d.field with
  | none => rfl
  | some s =>
    dsimp only
    split
    · rfl
    · split
      · rfl
      · cases s.head with
        | none => rfl
        | some head => exact contend_conclude policy a point s head d

/-- A device's own diffs are merged after the end of a call as they would be before it. -/
theorem mergeAll_conclude {device : String} (batch : List Diff)
    (hown : ∀ d ∈ batch, d.device = device) :
    (a.conclude device point).mergeAll policy batch =
      ((a.mergeAll policy batch).1.conclude device point, (a.mergeAll policy batch).2) := by
  induction batch generalizing a with
  | nil => rfl
  | cons d batch ih =>
    obtain ⟨rfl, hbatch⟩ := List.forall_mem_cons.1 hown
    simp only [mergeAll, merge_conclude, ih _ hbatch]

end Conclude

/-! ## Merging in parts -/

section Append

variable (policy : Policy) (a : Arena)

theorem mergeAll_append (xs ys : List Diff) :
    a.mergeAll policy (xs ++ ys) =
      (((a.mergeAll policy xs).1.mergeAll policy ys).1,
        (a.mergeAll policy xs).2 ++ ((a.mergeAll policy xs).1.mergeAll policy ys).2) := by
  induction xs generalizing a with
  | nil => rfl
  | cons d xs ih => simp only [List.cons_append, mergeAll, ih]

theorem length_mergeAll (batch : List Diff) : (a.mergeAll policy batch).2.length = batch.length := by
  calc
    _ = (a.entries policy batch).length := by rw [← map_fate_entries, List.length_map]
    _ = ((a.entries policy batch).map (·.diff)).length := (List.length_map _).symm
    _ = batch.length := by rw [map_diff_entries]

/-- A merge never takes a number back, and holds nothing for the device that sent the diff. -/
theorem merge_own (d : Diff) :
    a.changes ≤ (a.merge policy d).1.changes ∧
      (a.merge policy d).1.heldFor d.device = a.heldFor d.device := by
  unfold merge
  split
  next => exact ⟨Nat.le_refl _, rfl⟩
  next s =>
    split
    · exact ⟨Nat.le_refl _, rfl⟩
    · split
      · exact ⟨Nat.le_succ _, rfl⟩
      · split
        next head _ =>
          unfold contend
          dsimp only
          split
          · simp [heldFor_hold]
          · simp [heldFor_hold]
        next => exact ⟨Nat.le_succ _, rfl⟩

theorem mergeAll_own {device : String} (batch : List Diff)
    (hown : ∀ d ∈ batch, d.device = device) :
    a.changes ≤ (a.mergeAll policy batch).1.changes ∧
      (a.mergeAll policy batch).1.heldFor device = a.heldFor device := by
  induction batch generalizing a with
  | nil => exact ⟨Nat.le_refl _, rfl⟩
  | cons d batch ih =>
    obtain ⟨rfl, hbatch⟩ := List.forall_mem_cons.1 hown
    obtain ⟨hchanges, hheld⟩ := merge_own policy a d
    obtain ⟨hchanges', hheld'⟩ := ih (a.merge policy d).1 hbatch
    exact ⟨Nat.le_trans hchanges hchanges', hheld'.trans hheld⟩

end Append

end Arena

/-! ## Calls in parts -/

/-- A refused diff as it is reported when some diffs stand before its batch. -/
def Rejection.shift (places : Nat) (r : Rejection) : Rejection :=
  { r with index := places + r.index }

theorem filterMap_rejected?_zipIdx (fated : List (Diff × Disposition)) (places : Nat) :
    (fated.zipIdx places).filterMap Disposition.rejected? =
      (fated.zipIdx.filterMap Disposition.rejected?).map (Rejection.shift places) := by
  rw [List.zipIdx_eq_map_add, List.filterMap_map, List.map_filterMap]
  congr 1
  funext ⟨⟨d, fate⟩, index⟩
  cases fate <;> rfl

/-- The conflicts that a call itself settled. -/
def Outcome.settled (o : Outcome) : List Conflict :=
  o.conflicts.take o.resolved

/-- The conflicts that were settled before and held until the call. -/
def Outcome.held (o : Outcome) : List Conflict :=
  o.conflicts.drop o.resolved

namespace Arena

/-- The device under which a batch is merged is the calling one. -/
theorem device_of_mem_map_stamp {device : String} {batch : List Diff} :
    ∀ d ∈ batch.map (Diff.stamp device), d.device = device := by
  intro d hd
  obtain ⟨_, -, rfl⟩ := List.mem_map.1 hd
  rfl

/-- The diffs of a batch as they are merged, each with what becomes of it. -/
def fated (policy : Policy) (a : Arena) (device : String) (batch : List Diff) :
    List (Diff × Disposition) :=
  (batch.map (Diff.stamp device)).zip (a.mergeAll policy (batch.map (Diff.stamp device))).2

section Sync

variable (policy : Policy) (a : Arena) (device : String) (batch : List Diff) (now : Instant)

/-- A call merges a batch and is concluded. -/
theorem fst_sync :
    (a.sync policy device batch now).1 =
      (a.mergeAll policy (batch.map (Diff.stamp device))).1.conclude device
        ⟨(a.sync policy device batch now).2.syncPoint, now⟩ := rfl

theorem syncPoint_sync :
    (a.sync policy device batch now).2.syncPoint =
      max (a.seenBy device) (a.mergeAll policy (batch.map (Diff.stamp device))).1.changes := rfl

theorem applied_sync :
    (a.sync policy device batch now).2.applied =
      (a.fated policy device batch).filterMap Disposition.applied? := rfl

theorem rejected_sync :
    (a.sync policy device batch now).2.rejected =
      (a.fated policy device batch).zipIdx.filterMap Disposition.rejected? := rfl

theorem settled_sync :
    (a.sync policy device batch now).2.settled =
      (a.mergeAll policy (batch.map (Diff.stamp device))).2.filterMap Disposition.settled? :=
  List.take_left

theorem length_settled_sync :
    (a.sync policy device batch now).2.settled.length =
      (a.sync policy device batch now).2.resolved := by
  rw [settled_sync]
  rfl

theorem held_sync : (a.sync policy device batch now).2.held = a.heldFor device := by
  calc
    _ = (a.mergeAll policy (batch.map (Diff.stamp device))).1.heldFor device := List.drop_left
    _ = _ := (mergeAll_own policy a _ device_of_mem_map_stamp).2

theorem length_fated : (a.fated policy device batch).length = batch.length := by
  rw [fated, List.length_zip, length_mergeAll, List.length_map, Nat.min_self]

end Sync

section Append

variable (policy : Policy) (a : Arena) (device : String) (xs ys : List Diff) (now : Instant)

/-- The second part is merged after the first call as it is in the middle of a single one. -/
theorem mergeAll_fst_sync :
    (a.sync policy device xs now).1.mergeAll policy (ys.map (Diff.stamp device)) =
      ((a.mergeAll policy ((xs ++ ys).map (Diff.stamp device))).1.conclude device
          ⟨(a.sync policy device xs now).2.syncPoint, now⟩,
        ((a.mergeAll policy (xs.map (Diff.stamp device))).1.mergeAll policy
          (ys.map (Diff.stamp device))).2) := by
  rw [fst_sync, mergeAll_conclude policy _ _ _ device_of_mem_map_stamp, List.map_append,
    mergeAll_append]

theorem snd_mergeAll_append :
    (a.mergeAll policy ((xs ++ ys).map (Diff.stamp device))).2 =
      (a.mergeAll policy (xs.map (Diff.stamp device))).2 ++
        ((a.sync policy device xs now).1.mergeAll policy (ys.map (Diff.stamp device))).2 := by
  rw [mergeAll_fst_sync, List.map_append, mergeAll_append]

theorem fated_append :
    a.fated policy device (xs ++ ys) =
      a.fated policy device xs ++ (a.sync policy device xs now).1.fated policy device ys := by
  rw [fated, snd_mergeAll_append policy a device xs ys now, List.map_append]
  exact List.zip_append (length_mergeAll policy a _).symm

/-- The second of two calls numbers at least what the first did, so that nothing of the first one's
point shows in the end. -/
theorem syncPoint_append :
    (a.sync policy device (xs ++ ys) now).2.syncPoint =
      ((a.sync policy device xs now).1.sync policy device ys now).2.syncPoint := by
  let later := (a.mergeAll policy (xs.map (Diff.stamp device))).1
  let last := (a.mergeAll policy ((xs ++ ys).map (Diff.stamp device))).1
  have hle : later.changes ≤ last.changes := by
    simp only [last, List.map_append, mergeAll_append]
    exact (mergeAll_own policy later _ device_of_mem_map_stamp).1
  calc
    _ = max (a.seenBy device) last.changes := rfl
    _ = max (max (a.seenBy device) later.changes) last.changes := by omega
    _ = max ((a.sync policy device xs now).1.seenBy device) last.changes := by
      rw [fst_sync, seenBy_conclude, syncPoint_sync]
    _ = _ := by
      rw [syncPoint_sync, mergeAll_fst_sync]
      rfl

theorem fst_sync_append :
    (a.sync policy device (xs ++ ys) now).1 =
      ((a.sync policy device xs now).1.sync policy device ys now).1 := by
  let last := (a.mergeAll policy ((xs ++ ys).map (Diff.stamp device))).1
  calc
    _ = last.conclude device
        ⟨((a.sync policy device xs now).1.sync policy device ys now).2.syncPoint, now⟩ := by
      rw [fst_sync, syncPoint_append]
    _ = _ := by rw [fst_sync policy _ device ys, mergeAll_fst_sync, conclude_conclude]

theorem applied_append :
    (a.sync policy device (xs ++ ys) now).2.applied =
      (a.sync policy device xs now).2.applied ++
        ((a.sync policy device xs now).1.sync policy device ys now).2.applied := by
  simp only [applied_sync, fated_append policy a device xs ys now, List.filterMap_append]

theorem settled_append :
    (a.sync policy device (xs ++ ys) now).2.settled =
      (a.sync policy device xs now).2.settled ++
        ((a.sync policy device xs now).1.sync policy device ys now).2.settled := by
  simp only [settled_sync, snd_mergeAll_append policy a device xs ys now, List.filterMap_append]

theorem resolved_append :
    (a.sync policy device (xs ++ ys) now).2.resolved =
      (a.sync policy device xs now).2.resolved +
        ((a.sync policy device xs now).1.sync policy device ys now).2.resolved := by
  simp only [← length_settled_sync, settled_append, List.length_append]

theorem held_append :
    (a.sync policy device (xs ++ ys) now).2.held = (a.sync policy device xs now).2.held := by
  rw [held_sync, held_sync]

theorem rejected_append :
    (a.sync policy device (xs ++ ys) now).2.rejected =
      (a.sync policy device xs now).2.rejected ++
        ((a.sync policy device xs now).1.sync policy device ys now).2.rejected.map
          (Rejection.shift xs.length) := by
  rw [rejected_sync, fated_append policy a device xs ys now, List.zipIdx_append,
    List.filterMap_append, length_fated, Nat.zero_add, filterMap_rejected?_zipIdx _ xs.length]
  rfl

/-- Nothing is left to be handed over right after a call. -/
theorem held_sync_sync (later : Instant) :
    ((a.sync policy device xs now).1.sync policy device ys later).2.held = [] := by
  rw [held_sync, fst_sync, heldFor_conclude]

end Append

end Arena

namespace Engine

theorem fst_sync_append (e : Engine) (user device : String) (xs ys : List Diff) (now : Instant) :
    (e.sync user device (xs ++ ys) now).1 =
      ((e.sync user device xs now).1.sync user device ys now).1 := by
  let first := ((e.arena user).sync e.policy device xs now).1
  let second := (first.sync e.policy device ys now).1
  let whole := ((e.arena user).sync e.policy device (xs ++ ys) now).1
  have hwhole : whole = second := Arena.fst_sync_append ..
  have hsecond : (((e.sync user device xs now).1.arena user).sync e.policy device ys now).1 =
      second := by rw [arena_sync]
  calc
    _ = { e with arenas := e.arenas.insert user whole } := rfl
    _ = { e with arenas := (e.arenas.insert user first).insert user second } := by
      rw [hwhole, Table.insert_insert]
    _ = _ := by
      rw [← hsecond]
      rfl

/-- One call with two batches, the one behind the other, or one call with each: the engine ends in
the same state, and what is said of the diffs is the same. What was held for the device is told
with the first batch. -/
theorem sync_in_parts (e : Engine) (user device : String) (xs ys : List Diff) (now : Instant) :
    let first := e.sync user device xs now
    let second := first.1.sync user device ys now
    let whole := e.sync user device (xs ++ ys) now
    whole.1 = second.1 ∧
      whole.2.applied = first.2.applied ++ second.2.applied ∧
      whole.2.resolved = first.2.resolved + second.2.resolved ∧
      whole.2.settled = first.2.settled ++ second.2.settled ∧
      whole.2.held = first.2.held ∧
      second.2.held = [] ∧
      whole.2.rejected = first.2.rejected ++ second.2.rejected.map (Rejection.shift xs.length) ∧
      whole.2.syncPoint = second.2.syncPoint := by
  intro first second whole
  let a := e.arena user
  have hsecond : second.2 = ((a.sync e.policy device xs now).1.sync e.policy device ys now).2 := by
    rw [← arena_sync]
    rfl
  rw [hsecond]
  exact ⟨fst_sync_append e user device xs ys now, Arena.applied_append .., Arena.resolved_append ..,
    Arena.settled_append .., Arena.held_append .., Arena.held_sync_sync ..,
    Arena.rejected_append .., Arena.syncPoint_append ..⟩

end Engine

end DeviceSync.Profile
