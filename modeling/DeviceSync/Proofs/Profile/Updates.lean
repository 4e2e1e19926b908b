import DeviceSync.Proofs.Profile.Replica
import Mathlib.Data.List.Induction

/-!
# Updates Tell What a Device Has Not Seen

The engine decides what to tell a device by numbers: every write of a profile gets the next one, a
field remembers the number of its last write, and a device the highest number at its last call. The
main statement says what that comes to in terms of the calls themselves. A field is told if its
last write came after the device's previous call, unless the device wrote it in this very call and
without conflict.

What ties the two together is that a field's number is at most a device's exactly if the device has
called since the field's last write, the call that made the write included.
-/

namespace DeviceSync.Profile

/-- An entry that took its field, and the number of its call. -/
structure Write where
  sync : Nat
  entry : Entry

/-- The entries of a call that took their fields, if it is the call number `k`. -/
def Event.writes (ev : Event) (k : Nat) : List Write :=
  (ev.entries.filter (·.Wrote)).map (⟨k, ·⟩)

/-- All writes of a history, in order. -/
def writes (events : List Event) : List Write :=
  events.zipIdx.flatMap fun (ev, k) ↦ ev.writes k

/-- The last write of a field. -/
def lastWrite? (events : List Event) (field : String) : Option Write :=
  ((writes events).filter (·.entry.diff.field = field)).getLast?

/-- The last entry of a list that took a field. -/
def lastTaker? (entries : List Entry) (field : String) : Option Entry :=
  ((entries.filter (·.Wrote)).filter (·.diff.field = field)).getLast?

/-- The device has called since the write, the call that made it included. -/
def Write.SeenBy (w : Write) (events : List Event) (device : String) : Prop :=
  ∃ k ev, events[k]? = some ev ∧ ev.call.device = device ∧ w.sync ≤ k

section Writes

variable {events : List Event} {ev : Event} {field device : String} {w : Write}

theorem writes_concat (events : List Event) (ev : Event) :
    writes (events ++ [ev]) = writes events ++ ev.writes events.length := by
  simp [writes, List.zipIdx_append]

theorem length_writes_le (events more : List Event) :
    (writes events).length ≤ (writes (events ++ more)).length := by
  simp [writes, List.zipIdx_append]

theorem sync_lt_length_of_mem_writes (hw : w ∈ writes events) : w.sync < events.length := by
  obtain ⟨⟨ev, k⟩, hev, hmem⟩ := List.mem_flatMap.1 hw
  obtain ⟨e, -, rfl⟩ := List.mem_map.1 hmem
  exact (List.getElem?_eq_some_iff.1 (List.mem_zipIdx_iff_getElem?.1 hev)).1

theorem mem_writes_of_lastWrite? (hw : lastWrite? events field = some w) :
    w ∈ writes events ∧ w.entry.diff.field = field := by
  have hmem := List.mem_filter.1 (List.mem_of_getLast? hw)
  exact ⟨hmem.1, of_decide_eq_true hmem.2⟩

theorem lastTaker?_concat (entries : List Entry) (e : Entry) (field : String) :
    lastTaker? (entries ++ [e]) field =
      if e.Wrote ∧ e.diff.field = field then some e else lastTaker? entries field := by
  rw [lastTaker?, List.filter_append, List.filter_append, List.getLast?_append]
  by_cases hwrote : e.Wrote
  · by_cases hfield : e.diff.field = field
    · simp [hwrote, hfield]
    · simp [hwrote, hfield, lastTaker?]
  · simp [hwrote, lastTaker?]

/-- A field's last write is that of the last call that wrote it. -/
theorem lastWrite?_concat (events : List Event) (ev : Event) (field : String) :
    lastWrite? (events ++ [ev]) field =
      ((lastTaker? ev.entries field).map (⟨events.length, ·⟩)).or (lastWrite? events field) := by
  have hown : ((ev.writes events.length).filter (·.entry.diff.field = field)).getLast? =
      (lastTaker? ev.entries field).map (⟨events.length, ·⟩) := by
    rw [Event.writes, List.filter_map, List.getLast?_map]
    rfl
  rw [lastWrite?, writes_concat, List.filter_append, List.getLast?_append, hown, lastWrite?]

theorem seenBy_concat_iff :
    w.SeenBy (events ++ [ev]) device ↔
      w.SeenBy events device ∨ (ev.call.device = device ∧ w.sync ≤ events.length) := by
  constructor
  · rintro ⟨k, ev', hk, hdevice, hle⟩
    rcases getElem?_concat_eq_some_iff.1 hk with hk | ⟨rfl, rfl⟩
    · exact .inl ⟨k, ev', hk, hdevice, hle⟩
    · exact .inr ⟨hdevice, hle⟩
  · rintro (⟨k, ev', hk, hdevice, hle⟩ | ⟨hdevice, hle⟩)
    · exact ⟨k, ev', getElem?_concat_eq_some_iff.2 (.inl hk), hdevice, hle⟩
    · exact ⟨events.length, ev, List.getElem?_concat_length, hdevice, hle⟩

theorem not_seenBy_of_length_le (hsync : events.length ≤ w.sync) : ¬w.SeenBy events device := by
  rintro ⟨k, ev', hk, -, hle⟩
  have hlt : k < events.length := (List.getElem?_eq_some_iff.1 hk).1
  omega

/-- A write is news to a device if it came after all its calls. -/
theorem not_seenBy_take_iff {k : Nat} (hev : events[k]? = some ev) :
    ¬w.SeenBy (events.take k) device ↔
      ∀ j past, j < k → events[j]? = some past → past.call.device = device → j < w.sync := by
  constructor
  · intro hnot j past hlt hpast hdevice
    by_contra hle
    refine hnot ⟨j, past, ?_, hdevice, Nat.le_of_not_lt hle⟩
    rw [List.getElem?_take_of_lt hlt]
    exact hpast
  · rintro hall ⟨j, past, hpast, hdevice, hle⟩
    have hlt : j < (events.take k).length := (List.getElem?_eq_some_iff.1 hpast).1
    rw [length_take_of_getElem? hev] at hlt
    rw [List.getElem?_take_of_lt hlt] at hpast
    exact Nat.not_le_of_lt (hall j past hlt hpast hdevice) hle

end Writes

/-! ## The numbers of writes -/

namespace Arena

variable {policy : Policy} {a : Arena}

/-- What a batch does to a field is told by the last of its entries that took the field. -/
structure Wrote (a b : Arena) (entries : List Entry) : Prop where
  changes : b.changes = a.changes + (entries.filter (·.Wrote)).length
  kept : ∀ {field s}, b.slots.find? field = some s → lastTaker? entries field = none →
    a.slots.find? field = some s
  taken : ∀ {field s e}, b.slots.find? field = some s → lastTaker? entries field = some e →
    s.head = some e.diff ∧ (s.standing = .clean ↔ e.Clean) ∧ a.changes < s.changed

theorem Wrote.step {b : Arena} {past : List Entry} {d : Diff} {result : Arena × Disposition}
    (h : Wrote a b past) (hmerges : Merges policy b d result) :
    Wrote a result.1 (past ++ [b.entryOf d result]) := by
  rcases hmerges.idle_or_writes with ⟨hslots, hchanges, hidle⟩ |
    ⟨s, standing, hs, hwrote, hclean, hslots, hchanges⟩
  · have hlast (field : String) :
        lastTaker? (past ++ [b.entryOf d result]) field = lastTaker? past field := by
      rw [lastTaker?_concat, if_neg fun htaken ↦ hidle htaken.1]
    refine ⟨?_, fun hs hnone ↦ ?_, fun hs hsome ↦ ?_⟩
    · rw [hchanges, h.changes, List.filter_append]
      simp [hidle]
    · rw [hslots] at hs
      rw [hlast] at hnone
      exact h.kept hs hnone
    · rw [hslots] at hs
      rw [hlast] at hsome
      exact h.taken hs hsome
  · have hlast (field : String) : lastTaker? (past ++ [b.entryOf d result]) field =
        if d.field = field then some (b.entryOf d result) else lastTaker? past field := by
      rw [lastTaker?_concat]
      exact if_congr (and_iff_right hwrote) rfl rfl
    have hlt : a.changes < b.changes + 1 := by
      rw [h.changes]
      omega
    refine ⟨?_, fun {field t} ht hnone ↦ ?_, fun {field t e} ht hsome ↦ ?_⟩
    · rw [hchanges, h.changes, List.filter_append]
      simp [hwrote]
      rfl
    · rw [hslots, Table.find?_insert] at ht
      rw [hlast] at hnone
      split at hnone
      next => contradiction
      next hfield =>
        rw [if_neg hfield] at ht
        exact h.kept ht hnone
    · rw [hslots, Table.find?_insert] at ht
      rw [hlast] at hsome
      split at hsome
      next hfield =>
        rw [if_pos hfield] at ht
        obtain rfl := Option.some.inj ht
        obtain rfl := Option.some.inj hsome
        exact ⟨rfl, hclean, hlt⟩
      next hfield =>
        rw [if_neg hfield] at ht
        exact h.taken ht hsome

theorem wrote_mergeAll (ha : a.Sound) (batch : List Diff) :
    Wrote a (a.mergeAll policy batch).1 (a.entries policy batch) := by
  refine mergeAll_induction (P := Wrote a) batch (fun _ _ hmerges h ↦ h.step hmerges) [] ha ?_
  exact ⟨rfl, fun hs _ ↦ hs, fun _ hsome ↦ nomatch hsome⟩

end Arena

/-- What a run keeps true of the numbers: they count the writes, a field is as its last write left
it, and a device's number has reached the field's exactly if the device has called since. -/
structure Charted (a : Arena) (events : List Event) : Prop where
  changes : a.changes = (writes events).length
  unwritten : ∀ {field s}, a.slots.find? field = some s → lastWrite? events field = none →
    s.head = none
  written : ∀ {field s w}, a.slots.find? field = some s → lastWrite? events field = some w →
    s.head = some w.entry.diff ∧ (s.standing = .clean ↔ w.entry.Clean) ∧
      ∀ device, s.changed ≤ a.seenBy device ↔ w.SeenBy events device

namespace Charted

open Arena

variable {policy : Policy} {a : Arena} {past : List Event}

/-- A field after a batch, by its last write in a history with the batch's call at the end. -/
theorem after_batch (ha : a.Sound) (h : Charted a past) (c : Call) {field : String} {s : Slot}
    (hs : (a.after policy c).slots.find? field = some s) :
    (lastWrite? (past ++ [a.event policy c]) field = none ∧ s.head = none) ∨
      ∃ w, lastWrite? (past ++ [a.event policy c]) field = some w ∧
        s.head = some w.entry.diff ∧ (s.standing = .clean ↔ w.entry.Clean) ∧
        (∀ device, s.changed ≤ a.seenBy device ↔ w.SeenBy past device) ∧
        ((w.sync = past.length ∧ w.entry.diff.device = c.device) ∨
          (w.sync < past.length ∧ a.slots.find? field = some s)) := by
  have hwrote : Wrote a (a.mergeAll policy c.stamped).1 (a.event policy c).entries :=
    wrote_mergeAll ha c.stamped
  rw [lastWrite?_concat]
  cases htaker : lastTaker? (a.event policy c).entries field with
  | some e =>
    obtain ⟨hhead, hclean, hlt⟩ := hwrote.taken hs htaker
    have hdevice : e.diff.device = c.device := by
      have hmem := (List.mem_filter.1 (List.mem_filter.1 (List.mem_of_getLast? htaker)).1).1
      apply device_of_mem_stamped
      rw [← map_diff_entries policy a c.stamped]
      exact List.mem_map_of_mem hmem
    refine .inr ⟨⟨past.length, e⟩, rfl, hhead, hclean, fun device ↦ ?_, .inl ⟨rfl, hdevice⟩⟩
    refine iff_of_false ?_ (not_seenBy_of_length_le (Nat.le_refl _))
    exact Nat.not_le_of_lt (Nat.lt_of_le_of_lt (ha.seen_le device) hlt)
  | none =>
    have hkept := hwrote.kept hs htaker
    rw [Option.map_none, Option.none_or]
    cases hlast : lastWrite? past field with
    | none => exact .inl ⟨rfl, h.unwritten hkept hlast⟩
    | some w =>
      obtain ⟨hhead, hclean, hseen⟩ := h.written hkept hlast
      have hsync := sync_lt_length_of_mem_writes (mem_writes_of_lastWrite? hlast).1
      exact .inr ⟨w, rfl, hhead, hclean, hseen, .inr ⟨hsync, hkept⟩⟩

theorem after (ha : a.Sound) (h : Charted a past) (c : Call) :
    Charted (a.after policy c) (past ++ [a.event policy c]) where
  changes := by
    rw [changes_after, (wrote_mergeAll ha c.stamped).changes, h.changes, writes_concat,
      List.length_append, Event.writes, List.length_map]
    rfl
  unwritten hs hnone := by
    rcases h.after_batch ha c hs with ⟨-, hhead⟩ | ⟨w, hw, -⟩
    · exact hhead
    · rw [hnone] at hw
      contradiction
  written {field s w} hs hw := by
    rcases h.after_batch ha c hs with ⟨hnone, -⟩ | ⟨w', hw', hhead, hclean, hseen, -⟩
    · rw [hnone] at hw
      contradiction
    · obtain rfl := Option.some.inj (hw.symm.trans hw')
      refine ⟨hhead, hclean, fun device ↦ ?_⟩
      rw [seenBy_after ha, seenBy_concat_iff, call_event]
      by_cases hdevice : c.device = device
      · have hlt := sync_lt_length_of_mem_writes (mem_writes_of_lastWrite? hw).1
        rw [List.length_append] at hlt
        rw [if_pos hdevice]
        exact iff_of_true ((ha.after c).changed_le hs) (.inr ⟨hdevice, Nat.le_of_lt_succ hlt⟩)
      · rw [if_neg hdevice, hseen]
        exact (or_iff_left fun hown ↦ hdevice hown.1).symm

end Charted

/-! ## What a call tells -/

namespace Arena

variable {policy : Policy} {a : Arena} {past : List Event}

/-- Updates are in the order of their fields, and no field has two. -/
theorem pairwise_updates (a : Arena) (device : String) (seen : Nat) :
    (a.updates device seen).Pairwise fun u v ↦ u.field < v.field := by
  apply List.Pairwise.filterMap _ _ a.slots.ordered
  rintro ⟨field, s⟩ ⟨field', s'⟩ hlt u hu v hv
  obtain ⟨-, -, -, rfl⟩ := update?_eq_some_iff.1 hu
  obtain ⟨-, -, -, rfl⟩ := update?_eq_some_iff.1 hv
  exact hlt

theorem syncPoint_event (ha : a.Sound) (c : Call) :
    (a.event policy c).outcome.syncPoint = (a.after policy c).changes := by
  apply Nat.max_eq_right
  exact Nat.le_trans (ha.seen_le _) (later_mergeAll ha c.stamped).changes_le

/-- A call tells of a field if its last write is one that the device has not seen, and is not the
device's own clean write in the same call. -/
theorem mem_updates_event_iff (ha : a.Sound) (hown : a.SeesOwn) (h : Charted a past) (c : Call)
    (u : Update) :
    u ∈ (a.event policy c).outcome.updates ↔
      ∃ w, lastWrite? (past ++ [a.event policy c]) u.field = some w ∧ ¬w.SeenBy past c.device ∧
        ¬(w.sync = past.length ∧ w.entry.Clean) ∧
        ∃ s, (a.after policy c).slots.find? u.field = some s ∧
          s.view u.field = ⟨u.field, u.value, u.version, some u.writer, some u.time⟩ := by
  -- Of what a device has not seen, only what this call wrote can be its own.
  have hsilent {w : Write} {s : Slot} (hclean : s.standing = .clean ↔ w.entry.Clean)
      (hhead : s.head = some w.entry.diff) (hunseen : ¬s.changed ≤ a.seenBy c.device)
      (horigin : (w.sync = past.length ∧ w.entry.diff.device = c.device) ∨
        (w.sync < past.length ∧ a.slots.find? u.field = some s)) :
      (s.standing = .clean ∧ w.entry.diff.device = c.device) ↔
        (w.sync = past.length ∧ w.entry.Clean) := by
    rcases horigin with ⟨hsync, hdevice⟩ | ⟨hlt, hs⟩
    · rw [hclean]
      exact ⟨fun hw ↦ ⟨hsync, hw.1⟩, fun hw ↦ ⟨hw.2, hdevice⟩⟩
    · refine iff_of_false (fun hw ↦ hunseen ?_) (fun hw ↦ Nat.ne_of_lt hlt hw.1)
      rw [← hw.2]
      exact hown _ _ _ hs hhead
  change u ∈ (a.mergeAll policy c.stamped).1.updates c.device (a.seenBy c.device) ↔ _
  rw [mem_updates_iff]
  constructor
  · rintro ⟨field, s, hs, hu⟩
    obtain ⟨head, hhead, hnot, rfl⟩ := update?_eq_some_iff.1 hu
    obtain ⟨hunseen, hforeign⟩ := not_or.1 hnot
    rcases h.after_batch ha c hs with ⟨-, hnone⟩ | ⟨w, hw, hhead', hclean, hseen, horigin⟩
    · rw [hnone] at hhead
      contradiction
    · obtain rfl := Option.some.inj (hhead.symm.trans hhead')
      refine ⟨w, hw, fun hw ↦ hunseen ((hseen _).2 hw), ?_, s, hs, ?_⟩
      · rw [← hsilent hclean hhead' hunseen horigin]
        exact hforeign
      · rw [Slot.view, hhead]
        rfl
  · rintro ⟨w, hw, hunseen, hforeign, s, hs, hview⟩
    rcases h.after_batch ha c hs with ⟨hnone, -⟩ | ⟨w', hw', hhead, hclean, hseen, horigin⟩
    · rw [hnone] at hw
      contradiction
    · obtain rfl := Option.some.inj (hw.symm.trans hw')
      have hunseen' : ¬s.changed ≤ a.seenBy c.device := fun hle ↦ hunseen ((hseen _).1 hle)
      refine ⟨u.field, s, hs, update?_eq_some_iff.2 ⟨_, hhead, not_or.2 ⟨hunseen', ?_⟩, ?_⟩⟩
      · rw [hsilent hclean hhead hunseen' horigin]
        exact hforeign
      · rw [Slot.view, hhead] at hview
        injection hview with _ hvalue hversion hwriter htime
        have hdevice : w.entry.diff.device = u.writer := Option.some.inj hwriter
        have htime' : w.entry.diff.time = u.time := Option.some.inj htime
        rw [hvalue, hversion, hdevice, htime']

/-! ## The sum of all versions -/

/-- The versions of all fields together. -/
def totalVersions (a : Arena) : Nat :=
  (a.slots.values.map (·.version)).sum

theorem totalVersions_blank (fields : List String) : (Arena.blank fields).totalVersions = 0 := by
  rw [totalVersions, List.sum_eq_zero_iff_forall_eq_nat]
  refine List.forall_mem_map.2 (Table.forall_mem_values fun field s hs ↦ ?_)
  rw [find?_blank] at hs
  split at hs
  · rw [← Option.some.inj hs]
    rfl
  · contradiction

theorem Merges.totalVersions {d : Diff} {result : Arena × Disposition}
    (hmerges : Merges policy a d result) (h : a.totalVersions = a.changes) :
    result.1.totalVersions = result.1.changes := by
  rcases hmerges.idle_or_writes with ⟨hslots, hchanges, -⟩ |
    ⟨s, standing, hs, -, -, hslots, hchanges⟩
  · rw [Arena.totalVersions, hslots, hchanges]
    exact h
  · have hsum := Table.sum_values_insert a.slots (s.install d standing (a.changes + 1))
      (·.version) hs
    change _ + s.version = a.totalVersions + (s.version + 1) at hsum
    rw [Arena.totalVersions, hslots, hchanges]
    omega

theorem totalVersions_run (ha : a.Sound) (calls : List Call) (h : a.totalVersions = a.changes) :
    (a.run policy calls).totalVersions = (a.run policy calls).changes := by
  refine history_induction (P := fun b _ ↦ b.totalVersions = b.changes) ?_ [] calls ha h
  intro b past c hb hpast
  exact mergeAll_induction (P := fun b _ ↦ b.totalVersions = b.changes) c.stamped
    (fun _ _ hmerges h ↦ hmerges.totalVersions h) [] hb hpast

end Arena

/-! ## Every run -/

namespace Engine

variable (fields : List String) (policy : Policy) (user : String)

theorem charted_run (calls : List Call) :
    Charted (((new fields policy).arena user).run policy calls)
      (((new fields policy).arena user).history policy calls) := by
  refine Arena.history_induction (P := Charted) (fun c ha h ↦ h.after ha c) [] calls
    (sound_arena_new fields policy user) ⟨rfl, fun hs _ ↦ ?_, fun _ hw ↦ nomatch hw⟩
  rw [eq_blank_of_find?_arena_new fields policy user hs]
  rfl

/-- What is known of a call in a history: the profile that it met and the one that it left. -/
theorem exists_arena_of_getElem?_history (calls : List Call) {k : Nat} {ev : Event}
    (hev : ((new fields policy).history user calls)[k]? = some ev) :
    ∃ (b : Arena) (c : Call), b.Sound ∧ b.SeesOwn ∧
      Charted b (((new fields policy).history user calls).take k) ∧ ev = b.event policy c ∧
      ((new fields policy).history user calls).take (k + 1) =
        ((new fields policy).history user calls).take k ++ [b.event policy c] ∧
      ((new fields policy).run user (calls.take (k + 1))).arena user = b.after policy c ∧
      (b.after policy c).totalVersions = (b.after policy c).changes := by
  have htake : ((new fields policy).history user calls).take (k + 1) =
      ((new fields policy).history user calls).take k ++
        ((new fields policy).history user calls)[k]?.toList := List.take_add_one
  rw [hev] at htake
  rw [history_eq] at hev
  obtain ⟨c, hcalls, rfl, hpast⟩ := Arena.of_getElem?_history hev
  have hb : (((new fields policy).arena user).run policy (calls.take k)).Sound :=
    sound_run fields policy user (calls.take k)
  refine ⟨_, c, hb, (Replica.tracks_run fields policy user (calls.take k)).own, ?_, rfl, htake, ?_,
    ?_⟩
  · rw [history_eq, hpast]
    exact charted_run fields policy user (calls.take k)
  · rw [arena_run, hcalls, Arena.run_append]
    rfl
  · have hblank : ((new fields policy).arena user).totalVersions =
        ((new fields policy).arena user).changes := Arena.totalVersions_blank _
    have hrun : (((new fields policy).arena user).run policy
        (calls.take k ++ [c])).totalVersions =
          (((new fields policy).arena user).run policy (calls.take k ++ [c])).changes :=
      Arena.totalVersions_run (sound_arena_new fields policy user) _ hblank
    rw [Arena.run_append] at hrun
    exact hrun

/-- A call tells, in the order of their names and each once, the present state of the fields whose
last write came after the previous call of its device, but for those that it wrote itself without
conflict. It answers with the number of all writes so far, which is the sum of all versions. That
number never falls, and a call tells nothing if all writes since an earlier call of its device are
its own and without conflict. -/
theorem updates_eq_unseen (calls : List Call) :
    let e := new fields policy
    let events := e.history user calls
    (∀ (k : Nat) (ev : Event), events[k]? = some ev →
      ev.outcome.updates.Pairwise (fun u v ↦ u.field < v.field) ∧
      (∀ u : Update, u ∈ ev.outcome.updates ↔
        ∃ w, lastWrite? (events.take (k + 1)) u.field = some w ∧
          (∀ j past, j < k → events[j]? = some past → past.call.device = ev.call.device →
            j < w.sync) ∧
          ¬(w.sync = k ∧ w.entry.Clean) ∧
          (e.run user (calls.take (k + 1))).field? user u.field =
            some ⟨u.field, u.value, u.version, some u.writer, some u.time⟩) ∧
      ev.outcome.syncPoint = (writes (events.take (k + 1))).length ∧
      ev.outcome.syncPoint = ((e.run user (calls.take (k + 1))).arena user).totalVersions) ∧
    (∀ (j k : Nat) (ev ev' : Event), j ≤ k → events[j]? = some ev → events[k]? = some ev' →
      ev.outcome.syncPoint ≤ ev'.outcome.syncPoint) ∧
    ∀ (j k : Nat) (ev ev' : Event), j < k → events[j]? = some ev → events[k]? = some ev' →
      ev.call.device = ev'.call.device →
      (∀ w ∈ writes (events.take (k + 1)), j < w.sync → w.sync = k ∧ w.entry.Clean) →
      ev'.outcome.updates = [] := by
  intro e events
  have hcalls (k : Nat) (ev : Event) (hev : events[k]? = some ev) :=
    exists_arena_of_getElem?_history fields policy user calls hev
  have hupdates (k : Nat) (ev : Event) (hev : events[k]? = some ev) (u : Update) :
      u ∈ ev.outcome.updates ↔ ∃ w, lastWrite? (events.take (k + 1)) u.field = some w ∧
        (∀ j past, j < k → events[j]? = some past → past.call.device = ev.call.device →
          j < w.sync) ∧
        ¬(w.sync = k ∧ w.entry.Clean) ∧
        (e.run user (calls.take (k + 1))).field? user u.field =
          some ⟨u.field, u.value, u.version, some u.writer, some u.time⟩ := by
    obtain ⟨b, c, hb, hown, hcharted, rfl, htake, harena, -⟩ := hcalls k ev hev
    rw [Arena.mem_updates_event_iff hb hown hcharted, htake, field?, harena,
      length_take_of_getElem? hev]
    apply exists_congr
    intro w
    rw [← not_seenBy_take_iff hev, Option.map_eq_some_iff]
    rfl
  have hpoint (k : Nat) (ev : Event) (hev : events[k]? = some ev) :
      ev.outcome.syncPoint = (writes (events.take (k + 1))).length := by
    obtain ⟨b, c, hb, -, hcharted, rfl, htake, -⟩ := hcalls k ev hev
    rw [Arena.syncPoint_event hb, (hcharted.after hb c).changes, htake]
  refine ⟨fun k ev hev ↦ ⟨?_, hupdates k ev hev, hpoint k ev hev, ?_⟩, ?_, ?_⟩
  · obtain ⟨b, c, -, -, -, rfl, -⟩ := hcalls k ev hev
    exact Arena.pairwise_updates ..
  · obtain ⟨b, c, hb, -, -, rfl, -, harena, hversions⟩ := hcalls k ev hev
    rw [Arena.syncPoint_event hb, harena, hversions]
  · intro j k ev ev' hle hev hev'
    rw [hpoint j ev hev, hpoint k ev' hev']
    have htake : (events.take (k + 1)).take (j + 1) = events.take (j + 1) := by
      rw [List.take_take, Nat.min_eq_left (Nat.succ_le_succ hle)]
    have hsplit : events.take (k + 1) =
        events.take (j + 1) ++ (events.take (k + 1)).drop (j + 1) := by
      rw [← htake]
      exact (List.take_append_drop ..).symm
    rw [hsplit]
    exact length_writes_le _ _
  · intro j k ev ev' hlt hev hev' hdevice hquiet
    apply List.eq_nil_iff_forall_not_mem.2
    intro u hu
    obtain ⟨w, hw, hunseen, hforeign, -⟩ := (hupdates k ev' hev' u).1 hu
    exact hforeign (hquiet w (mem_writes_of_lastWrite? hw).1 (hunseen j ev hlt hev hdevice))

/-- A device is told of the write that displaced its own, but not of its own clean one after it. -/
theorem updates_eq_unseen_displaced :
    let calls : List Call :=
      [⟨"a", [⟨"dns", 0, .text "X", "", ⟨1, 0, by decide⟩⟩], .epoch⟩,
        ⟨"b", [⟨"dns", 0, .text "Y", "", ⟨50, 0, by decide⟩⟩], .epoch⟩, ⟨"a", [], .epoch⟩,
        ⟨"a", [⟨"dns", 2, .text "Z", "", ⟨60, 0, by decide⟩⟩], .epoch⟩]
    let events := (new ["dns"] .lastWriterWins).history "u" calls
    ∃ ev ev' u w, events[2]? = some ev ∧ events[3]? = some ev' ∧ u ∈ ev.outcome.updates ∧
      lastWrite? (events.take 3) u.field = some w ∧ 0 < w.sync ∧
      ev.outcome.syncPoint = 2 ∧ ev.outcome.syncPoint ≤ ev'.outcome.syncPoint ∧
      (∀ w ∈ writes (events.take 4), 2 < w.sync → w.sync = 3 ∧ w.entry.Clean) ∧
      ev'.outcome.updates = [] := by
  intro calls events
  obtain ⟨hexact, hmono, hquiet⟩ := updates_eq_unseen ["dns"] .lastWriterWins "u" calls
  have hcount : events[2]?.map (·.outcome.updates.length) = some 1 := by decide
  obtain ⟨ev, hev, hlength⟩ := Option.map_eq_some_iff.1 hcount
  obtain ⟨ev', hev', hdevice⟩ : ∃ ev', events[3]? = some ev' ∧ ev'.call.device = "a" :=
    ⟨_, rfl, rfl⟩
  obtain ⟨-, hupdates, hpoint, -⟩ := hexact 2 ev hev
  obtain ⟨u, hu⟩ := List.exists_mem_of_length_pos (by rw [hlength]; exact Nat.one_pos)
  obtain ⟨w, hw, hunseen, -⟩ := (hupdates u).1 hu
  have hown : ∀ w ∈ writes (events.take 4), 2 < w.sync → w.sync = 3 ∧ w.entry.Clean := by decide
  have hcaller : events[2]?.map (·.call.device) = some "a" := rfl
  rw [hev] at hcaller
  have hsame : ev.call.device = ev'.call.device := (Option.some.inj hcaller).trans hdevice.symm
  have hfirst : ∃ first, events[0]? = some first ∧ first.call.device = "a" := ⟨_, rfl, rfl⟩
  obtain ⟨first, hzero, hfirst⟩ := hfirst
  refine ⟨ev, ev', u, w, hev, hev', hu, hw, ?_, ?_, ?_, hown, ?_⟩
  · exact hunseen 0 first (by decide) hzero (hfirst.trans (Option.some.inj hcaller).symm)
  · rw [hpoint]
    decide
  · exact hmono 2 3 ev ev' (by decide) hev hev'
  · exact hquiet 2 3 ev ev' (by decide) hev hev' hsame hown

end Engine

end DeviceSync.Profile
