import DeviceSync.Proofs.Profile.Splitting
import DeviceSync.Proofs.Profile.Written

/-!
# The Turns of a Batch

A batch is merged diff by diff, and each diff meets its field as the diffs before it have left it.
What a device is due to be told of a diff follows from the field as it stands at the diff's turn:
exactly one report for every diff. An outcome is these reports, sorted by kind and otherwise in the
order of the batch.

A late diff always meets a head. That is where sound profiles are needed: a field whose version is
above that of any diff has been written, and nothing takes a head away again.
-/

namespace DeviceSync.Profile

/-- What a device is told of one of its diffs. -/
inductive Report where
  | applied (r : Applied)
  | settled (c : Conflict)
  | rejected (r : Rejection)

namespace Report

def applied? : Report → Option Applied
  | applied r => some r
  | _ => none

def settled? : Report → Option Conflict
  | settled c => some c
  | _ => none

def rejected? : Report → Option Rejection
  | rejected r => some r
  | _ => none

/-- The report of a diff at a place in its batch. -/
def ofFate : (Diff × Disposition) × Nat → Report
  | ((d, .applied version), _) => applied ⟨d.field, version⟩
  | ((_, .settled c), _) => settled c
  | ((d, .rejected e), index) => rejected (.ofError index d.field e)

/-- What is due for a diff at a place in its batch, from its field as it stands at the diff's turn,
and how the field stands after it. -/
inductive Due (policy : Policy) (index : Nat) (d : Diff) :
    Option Slot → Report → Option Slot → Prop where
  | unknown : Due policy index d none
      (rejected (.ofError index d.field (.unknownField d.field))) none
  | future {s : Slot} (hbase : s.version < d.base) : Due policy index d (some s)
      (rejected (.ofError index d.field (.futureBase d.field d.base s.version))) (some s)
  | current {s : Slot} (hbase : d.base = s.version) (change : Nat) : Due policy index d (some s)
      (applied ⟨d.field, d.base + 1⟩) (some (s.install d .clean change))
  /-- A late diff takes the field from the head. -/
  | won {s : Slot} {head : Diff} {rule : Rule} (hbase : d.base < s.version)
      (hhead : s.head = some head) (hverdict : policy.resolve head d = ⟨.challenger, rule⟩)
      (change : Nat) : Due policy index d (some s)
      (settled ⟨d.field, d, head, policy, rule⟩) (some (s.install d .contested change))
  /-- The head keeps the field against a late diff. -/
  | lost {s : Slot} {head : Diff} {rule : Rule} (hbase : d.base < s.version)
      (hhead : s.head = some head) (hverdict : policy.resolve head d = ⟨.incumbent, rule⟩) :
      Due policy index d (some s) (settled ⟨d.field, head, d, policy, rule⟩) (some s)

/-! ## Reports by kind -/

theorem applied?_comp_ofFate : applied? ∘ ofFate = Disposition.applied? ∘ Prod.fst := by
  funext ⟨⟨d, fate⟩, index⟩
  cases fate <;> rfl

theorem settled?_comp_ofFate : settled? ∘ ofFate = Disposition.settled? ∘ Prod.snd ∘ Prod.fst := by
  funext ⟨⟨d, fate⟩, index⟩
  cases fate <;> rfl

theorem rejected?_comp_ofFate : rejected? ∘ ofFate = Disposition.rejected? := by
  funext ⟨⟨d, fate⟩, index⟩
  cases fate <;> rfl

/-- A report is of exactly one kind. -/
theorem length_kinds (reports : List Report) :
    (reports.filterMap applied?).length + (reports.filterMap settled?).length +
      (reports.filterMap rejected?).length = reports.length := by
  induction reports with
  | nil => rfl
  | cons r reports ih =>
    cases r <;>
      simp only [applied?, settled?, rejected?, List.filterMap_cons, List.length_cons] <;> omega

end Report

namespace Arena

section Turns

variable (policy : Policy) (a : Arena)

/-- The fields when the diffs before a place have been merged. -/
def turn (batch : List Diff) (index : Nat) : Table Slot :=
  (a.mergeAll policy (batch.take index)).1.slots

/-- What a device is told of each of its diffs, in order. -/
def reports (device : String) (batch : List Diff) : List Report :=
  (a.fated policy device batch).zipIdx.map Report.ofFate

end Turns

variable {policy : Policy} {a : Arena}

/-- One turn: what a merge comes to is due, and no other field is touched. -/
theorem Merges.due {d : Diff} {result : Arena × Disposition} (hmerges : Merges policy a d result)
    (index : Nat) :
    Report.Due policy index d (a.slots.find? d.field) (.ofFate ((d, result.2), index))
        (result.1.slots.find? d.field) ∧
      ∀ field, field ≠ d.field → result.1.slots.find? field = a.slots.find? field := by
  cases hmerges with
  | unknown hslot =>
    refine ⟨?_, fun _ _ ↦ rfl⟩
    rw [hslot]
    exact .unknown
  | future hslot hbase =>
    refine ⟨?_, fun _ _ ↦ rfl⟩
    rw [hslot]
    exact .future hbase
  | clean hslot hbase =>
    refine ⟨?_, fun field hfield ↦ by rw [find?_write, if_neg hfield.symm]⟩
    rw [find?_write, if_pos rfl, hslot, ← hbase]
    exact .current hbase _
  | displaced hslot hhead hbase hverdict =>
    refine ⟨?_, fun field hfield ↦ by rw [slots_hold, find?_write, if_neg hfield.symm]⟩
    rw [slots_hold, find?_write, if_pos rfl, hslot]
    exact .won hbase hhead hverdict _
  | kept hslot hhead hbase hverdict =>
    refine ⟨?_, fun _ _ ↦ rfl⟩
    rw [hslot]
    exact .lost hbase hhead hverdict

/-! ## A whole batch -/

theorem turn_zero (policy : Policy) (a : Arena) (batch : List Diff) :
    a.turn policy batch 0 = a.slots := rfl

section Sync

variable (policy : Policy) (a : Arena) (device : String) (batch : List Diff) (now : Instant)

theorem turn_length :
    a.turn policy (batch.map (Diff.stamp device)) batch.length =
      (a.sync policy device batch now).1.slots := by
  rw [turn, List.take_of_length_le (Nat.le_of_eq (List.length_map _)), fst_sync]
  rfl

theorem length_reports : (a.reports policy device batch).length = batch.length := by
  rw [reports, List.length_map, List.length_zipIdx, length_fated]

theorem map_snd_fated :
    (a.fated policy device batch).map Prod.snd =
      (a.mergeAll policy (batch.map (Diff.stamp device))).2 := by
  rw [fated, List.map_snd_zip]
  exact Nat.le_of_eq (length_mergeAll policy a _)

theorem applied_eq_filterMap_reports :
    (a.sync policy device batch now).2.applied =
      (a.reports policy device batch).filterMap Report.applied? := by
  rw [applied_sync, reports, List.filterMap_map, Report.applied?_comp_ofFate,
    ← List.filterMap_map, List.zipIdx_map_fst]

theorem settled_eq_filterMap_reports :
    (a.sync policy device batch now).2.settled =
      (a.reports policy device batch).filterMap Report.settled? := by
  rw [settled_sync, reports, List.filterMap_map, Report.settled?_comp_ofFate,
    ← List.filterMap_map, ← List.map_map, List.zipIdx_map_fst, map_snd_fated]

theorem rejected_eq_filterMap_reports :
    (a.sync policy device batch now).2.rejected =
      (a.reports policy device batch).filterMap Report.rejected? := by
  rw [rejected_sync, reports, List.filterMap_map, Report.rejected?_comp_ofFate]

/-- Every diff is told of once. -/
theorem length_applied_add :
    (a.sync policy device batch now).2.applied.length +
        (a.sync policy device batch now).2.resolved +
        (a.sync policy device batch now).2.rejected.length = batch.length := by
  rw [← length_settled_sync, applied_eq_filterMap_reports, settled_eq_filterMap_reports,
    rejected_eq_filterMap_reports, Report.length_kinds, length_reports]

end Sync

/-! ## One turn after the other -/

theorem mergeAll_take_succ {batch : List Diff} {index : Nat} {d : Diff}
    (hd : batch[index]? = some d) :
    a.mergeAll policy (batch.take (index + 1)) =
      (((a.mergeAll policy (batch.take index)).1.merge policy d).1,
        (a.mergeAll policy (batch.take index)).2 ++
          [((a.mergeAll policy (batch.take index)).1.merge policy d).2]) := by
  rw [List.take_add_one, hd, Option.toList_some, mergeAll_append]
  rfl

/-- The fate of a diff is decided at its turn. -/
theorem getElem?_mergeAll {batch : List Diff} {index : Nat} {d : Diff}
    (hd : batch[index]? = some d) :
    (a.mergeAll policy batch).2[index]? =
      some ((a.mergeAll policy (batch.take index)).1.merge policy d).2 := by
  have hearlier : (a.mergeAll policy (batch.take index)).2.length = index := by
    rw [length_mergeAll, length_take_of_getElem? hd]
  calc
    _ = (a.mergeAll policy (batch.take (index + 1) ++ batch.drop (index + 1))).2[index]? := by
      rw [List.take_append_drop]
    _ = (a.mergeAll policy (batch.take (index + 1))).2[index]? := by
      rw [mergeAll_append]
      apply List.getElem?_append_left
      rw [mergeAll_take_succ hd, List.length_append, hearlier]
      exact Nat.lt_succ_self index
    _ = _ := by
      rw [mergeAll_take_succ hd, List.getElem?_append_right (Nat.le_of_eq hearlier), hearlier,
        Nat.sub_self]
      rfl

/-- At every turn the report that is due is given, and no other field is touched. -/
theorem due_reports (ha : a.Sound) {device : String} {batch : List Diff} {index : Nat} {d : Diff}
    (hd : (batch.map (Diff.stamp device))[index]? = some d) :
    let live := a.turn policy (batch.map (Diff.stamp device))
    ∃ r, (a.reports policy device batch)[index]? = some r ∧
      Report.Due policy index d ((live index).find? d.field) r ((live (index + 1)).find? d.field) ∧
      ∀ field, field ≠ d.field →
        (live (index + 1)).find? field = (live index).find? field := by
  intro live
  let earlier := (a.mergeAll policy ((batch.map (Diff.stamp device)).take index)).1
  have hlive : live (index + 1) = (earlier.merge policy d).1.slots := by
    simp only [live, turn, mergeAll_take_succ hd]
    rfl
  have hfated : (a.fated policy device batch)[index]? = some (d, (earlier.merge policy d).2) :=
    List.getElem?_zip_eq_some.2 ⟨hd, getElem?_mergeAll hd⟩
  have hreport : (a.reports policy device batch)[index]? =
      some (.ofFate ((d, (earlier.merge policy d).2), index)) := by
    rw [reports, List.getElem?_map, List.getElem?_zipIdx, hfated, Nat.zero_add]
    rfl
  have hmerges : Merges policy earlier d (earlier.merge policy d) :=
    merges_merge (ha.mergeAll _) policy d
  obtain ⟨hdue, hframe⟩ := hmerges.due index
  rw [hlive]
  exact ⟨_, hreport, hdue, hframe⟩

end Arena

namespace Engine

/-- Every diff of every batch is told of once and as is due for its field at its turn: the fields
at the turns begin as the engine holds them, change by what the reports say, and end as the engine
holds them after the call. The three lists of an outcome are these reports in the order of the
batch. -/
theorem every_diff_due {fields : List String} {policy : Policy} {e : Engine}
    (he : (new fields policy).Reaches e) (user device : String) (batch : List Diff)
    (now : Instant) :
    let a := e.arena user
    let result := e.sync user device batch now
    let diffs := batch.map (Diff.stamp device)
    let live := a.turn policy diffs
    let outcome := result.2
    ∃ reports : List Report,
      reports.length = batch.length ∧
      live 0 = a.slots ∧
      live batch.length = (result.1.arena user).slots ∧
      (∀ index d, diffs[index]? = some d → ∃ r, reports[index]? = some r ∧
        Report.Due policy index d
          ((live index).find? d.field) r ((live (index + 1)).find? d.field) ∧
        ∀ field, field ≠ d.field → (live (index + 1)).find? field = (live index).find? field) ∧
      outcome.applied = reports.filterMap Report.applied? ∧
      outcome.conflicts.take outcome.resolved = reports.filterMap Report.settled? ∧
      outcome.rejected = reports.filterMap Report.rejected? ∧
      outcome.applied.length + outcome.resolved + outcome.rejected.length = batch.length ∧
      outcome.rejected.Pairwise (·.index < ·.index) := by
  intro a result diffs live outcome
  have hpolicy : e.policy = policy := he.policy_eq
  have houtcome : outcome = (a.sync policy device batch now).2 := by
    rw [← hpolicy]
    rfl
  have hlast : live batch.length = (result.1.arena user).slots := by
    rw [arena_sync, hpolicy]
    exact Arena.turn_length policy a device batch now
  refine ⟨a.reports policy device batch, Arena.length_reports policy a device batch,
    Arena.turn_zero policy a diffs, hlast,
    fun index d hd ↦ Arena.due_reports (sound_of_reaches_new he user) hd, ?_⟩
  rw [houtcome]
  exact ⟨Arena.applied_eq_filterMap_reports .., Arena.settled_eq_filterMap_reports ..,
    Arena.rejected_eq_filterMap_reports .., Arena.length_applied_add ..,
    Arena.pairwise_rejected_sync ..⟩

/-- A batch with a diff of every kind: for no field, from a version that is not there yet, from the
present version, and late. -/
theorem every_diff_due_mixed :
    let e := (new ["dns"] .lastWriterWins).run "u"
      [⟨"a", [⟨"dns", 0, .text "X", "", .epoch⟩], .epoch⟩]
    let batch : List Diff :=
      [⟨"vpn", 0, .text "Y", "", .epoch⟩, ⟨"dns", 5, .text "Y", "", .epoch⟩,
        ⟨"dns", 1, .text "Y", "", .epoch⟩, ⟨"dns", 0, .text "Z", "", .epoch⟩]
    let outcome := (e.sync "u" "b" batch .epoch).2
    (new ["dns"] .lastWriterWins).Reaches e ∧
      (∃ reports : List Report, reports.length = 4 ∧
        outcome.applied = reports.filterMap Report.applied? ∧
        outcome.conflicts.take outcome.resolved = reports.filterMap Report.settled? ∧
        outcome.rejected = reports.filterMap Report.rejected?) ∧
      outcome.applied = [⟨"dns", 2⟩] ∧ outcome.resolved = 1 ∧
      outcome.rejected.map (·.code) = ["unknown_field", "future_base_version"] := by
  intro e batch outcome
  have hreaches : (new ["dns"] .lastWriterWins).Reaches e := Reaches.run _ _ _
  obtain ⟨reports, hlength, -, -, -, happlied, hsettled, hrejected, -⟩ :=
    every_diff_due hreaches "u" "b" batch .epoch
  exact ⟨hreaches, ⟨reports, hlength, happlied, hsettled, hrejected⟩, by decide, by decide,
    by decide⟩

end Engine

end DeviceSync.Profile
