import DeviceSync.Proofs.Profile.History

/-!
# Refused Diffs Leave No Trace

A batch goes on without the diffs that are refused in it. The main statement says that they might as
well not have been sent: the rest of the batch, sent from the same state, leads to the same state
and gets the same answer, but that nothing is refused any more.

A diff is refused for how its field stands at the diff's turn. The same diff may be good a moment
later, when others of its batch have raised the version of the field. It stays out all the same, and
because it did nothing at its turn, every other diff meets the state that it would have met.

None of this needs a state that an engine can get to. It holds of all engines.
-/

namespace DeviceSync.Profile

/-- What of a list stands at none of the places that the given rejections name. -/
def unrefused {α : Type} (rejected : List Rejection) (xs : List α) : List α :=
  (xs.zipIdx.filter fun (_, index) ↦ index ∉ rejected.map (·.index)).map (·.1)

theorem unrefused_map {α β : Type} (rejected : List Rejection) (f : α → β) (xs : List α) :
    unrefused rejected (xs.map f) = (unrefused rejected xs).map f := by
  rw [unrefused, unrefused, List.zipIdx_map, List.filter_map, List.map_map, List.map_map]
  rfl

namespace Arena

variable (policy : Policy) (a : Arena)

/-- The diffs of a batch that are accepted. -/
def taken (batch : List Diff) : List Diff :=
  ((a.entries policy batch).filter (·.fate.accepted)).map (·.diff)

theorem fate_entryOf (d : Diff) (result : Arena × Disposition) :
    (a.entryOf d result).fate = result.2 := rfl

theorem taken_cons (d : Diff) (batch : List Diff) :
    a.taken policy (d :: batch) =
      if (a.merge policy d).2.accepted then d :: (a.merge policy d).1.taken policy batch
      else (a.merge policy d).1.taken policy batch := by
  rw [taken, entries, List.filter_cons, fate_entryOf]
  split
  · rfl
  · rfl

/-! ## Merging without the refused -/

/-- A merge that does something accepts the diff. -/
theorem fst_merge_eq_or_accepted (d : Diff) :
    (a.merge policy d).1 = a ∨ (a.merge policy d).2.accepted = true := by
  unfold merge
  split
  next => exact .inl rfl
  next s =>
    split
    · exact .inl rfl
    · split
      · exact .inr rfl
      · split
        next head _ =>
          unfold contend
          dsimp only
          split
          · exact .inr rfl
          · exact .inr rfl
        next => exact .inr rfl

theorem fst_merge_of_refused {d : Diff} (h : ¬(a.merge policy d).2.accepted = true) :
    (a.merge policy d).1 = a :=
  (fst_merge_eq_or_accepted policy a d).resolve_right h

/-- What is accepted in a batch is merged to the same end, diff by diff, if it is a batch of its
own. -/
theorem mergeAll_taken (batch : List Diff) :
    (a.mergeAll policy (a.taken policy batch)).1 = (a.mergeAll policy batch).1 ∧
      a.entries policy (a.taken policy batch) =
        (a.entries policy batch).filter (·.fate.accepted) := by
  induction batch generalizing a with
  | nil => exact ⟨rfl, rfl⟩
  | cons d batch ih =>
    have hrest := ih (a.merge policy d).1
    have hmerged : (a.mergeAll policy (d :: batch)).1 =
        ((a.merge policy d).1.mergeAll policy batch).1 := rfl
    rw [taken_cons, hmerged, entries, List.filter_cons, fate_entryOf]
    by_cases haccepted : (a.merge policy d).2.accepted = true
    · rw [if_pos haccepted, if_pos haccepted]
      exact ⟨hrest.1, congrArg (a.entryOf d (a.merge policy d) :: ·) hrest.2⟩
    · rw [if_neg haccepted, if_neg haccepted]
      rw [fst_merge_of_refused policy a haccepted] at hrest ⊢
      exact hrest

/-! ## A call without the refused -/

variable (c : Call)

/-- A call with what is left of its batch when the refused diffs are taken out. -/
def cleared : Call :=
  { c with batch := unrefused (a.event policy c).outcome.rejected c.batch }

theorem stamped_cleared : (a.cleared policy c).stamped = a.taken policy c.stamped := by
  let rejected := (a.event policy c).outcome.rejected
  calc
    _ = (unrefused rejected c.batch).map (Diff.stamp c.device) := rfl
    _ = unrefused rejected c.stamped := (unrefused_map ..).symm
    _ = unrefused rejected ((a.entries policy c.stamped).map (·.diff)) := by rw [map_diff_entries]
    _ = (unrefused rejected (a.entries policy c.stamped)).map (·.diff) := unrefused_map ..
    _ = (a.event policy c).accepted.map (·.diff) := rfl
    _ = _ := by
      rw [accepted_event]
      rfl

theorem fst_mergeAll_cleared :
    (a.mergeAll policy (a.cleared policy c).stamped).1 = (a.mergeAll policy c.stamped).1 := by
  rw [stamped_cleared]
  exact (mergeAll_taken policy a c.stamped).1

theorem entries_cleared :
    a.entries policy (a.cleared policy c).stamped = (a.event policy c).accepted := by
  rw [stamped_cleared, accepted_event]
  exact (mergeAll_taken policy a c.stamped).2

theorem applied_cleared :
    (a.event policy (a.cleared policy c)).outcome.applied = (a.event policy c).outcome.applied := by
  rw [applied_event, applied_event, entries_cleared, accepted_event, List.filterMap_filter]
  congr 1
  funext e
  cases hfate : e.fate with
  | rejected | applied | settled => rfl

theorem settled_cleared :
    (a.event policy (a.cleared policy c)).settled = (a.event policy c).settled := by
  rw [← filterMap_accepted_event policy a c, ← entries_cleared]
  rfl

theorem rejected_cleared : (a.event policy (a.cleared policy c)).outcome.rejected = [] := by
  apply List.eq_nil_iff_forall_not_mem.2
  intro r hr
  obtain ⟨index, e, error, he, hfate, -⟩ := (mem_rejected_event ..).1 hr
  rw [entries_cleared, accepted_event] at he
  have haccepted := (List.mem_filter.1 (List.mem_of_getElem? he)).2
  rw [hfate] at haccepted
  contradiction

theorem outcome_cleared :
    (a.event policy (a.cleared policy c)).outcome =
      { (a.event policy c).outcome with rejected := [] } := by
  let merged := (a.mergeAll policy c.stamped).1
  let merged' := (a.mergeAll policy (a.cleared policy c).stamped).1
  have hmerged : merged' = merged := fst_mergeAll_cleared policy a c
  let o := (a.event policy c).outcome
  let o' := (a.event policy (a.cleared policy c)).outcome
  have hconflicts : o'.conflicts = o.conflicts := by
    simp only [o, o', conflicts_event, settled_cleared, fst_mergeAll_cleared]
    rfl
  have hresolved : o'.resolved = o.resolved := by
    simp only [o, o', resolved_event, settled_cleared]
  calc
    o' = ⟨o'.applied, o'.conflicts, o'.resolved, o'.rejected, merged'.updates c.device
      (a.seenBy c.device), max (a.seenBy c.device) merged'.changes, c.time⟩ := rfl
    _ = ⟨o.applied, o.conflicts, o.resolved, [], merged.updates c.device
      (a.seenBy c.device), max (a.seenBy c.device) merged.changes, c.time⟩ := by
      rw [applied_cleared, hconflicts, hresolved, rejected_cleared, hmerged]
    _ = _ := rfl

theorem after_cleared : a.after policy (a.cleared policy c) = a.after policy c := by
  let point (merged : Arena) : SyncPoint := ⟨max (a.seenBy c.device) merged.changes, c.time⟩
  calc
    _ = { (a.mergeAll policy (a.cleared policy c).stamped).1 with
          points := (a.mergeAll policy (a.cleared policy c).stamped).1.points.insert c.device
            (point (a.mergeAll policy (a.cleared policy c).stamped).1)
          pending := (a.mergeAll policy (a.cleared policy c).stamped).1.pending.erase c.device } := rfl
    _ = _ := by
      rw [fst_mergeAll_cleared]
      rfl

end Arena

namespace Engine

/-- The diffs of a batch that are refused, for whatever reason, leave no trace: the batch without
them leads to the same engine and gets the same answer, in which nothing is refused. -/
theorem sync_unrefused (e : Engine) (user device : String) (batch : List Diff) (now : Instant) :
    let whole := e.sync user device batch now
    e.sync user device (unrefused whole.2.rejected batch) now =
      (whole.1, { whole.2 with rejected := [] }) := by
  intro whole
  let a := e.arena user
  let c : Call := ⟨device, batch, now⟩
  have hafter := Arena.after_cleared e.policy a c
  have houtcome := Arena.outcome_cleared e.policy a c
  exact Prod.ext (congrArg (fun b ↦ { e with arenas := e.arenas.insert user b }) hafter) houtcome

end Engine

end DeviceSync.Profile
