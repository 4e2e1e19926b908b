import DeviceSync.Proofs.Profile.History
import Mathlib.Data.List.Induction
import Mathlib.Data.List.Nodup

/-!
# Every Conflict is Told Once to Each Side

The device that settles a conflict is told at once. If the diff that lost was another device's, the
conflict waits for that device and is told when it next calls. What waits can be read off the
history: it is what the engine holds for the device.

A conflict stands in the history at the call that settled it and at its place among that call's
conflicts, so that two conflicts between like diffs are not taken for one.
-/

namespace DeviceSync.Profile

/-- A conflict, the call that settled it and its place among that call's conflicts. -/
structure Settlement where
  sync : Nat
  place : Nat
  conflict : Conflict

/-- The device whose diff lost. -/
def Settlement.loser (r : Settlement) : String :=
  r.conflict.loser.device

/-- What a call settled, if it is the call number `k`. -/
def Event.settlements (ev : Event) (k : Nat) : List Settlement :=
  ev.settled.zipIdx.map fun (c, place) ↦ ⟨k, place, c⟩

/-- What a history settled, in order. -/
def settlements (events : List Event) : List Settlement :=
  events.zipIdx.flatMap fun (ev, k) ↦ ev.settlements k

/-- The device lost and has not called since, nor was the call its own that settled it. -/
def Settlement.Waits (r : Settlement) (events : List Event) (device : String) : Prop :=
  r.loser = device ∧ ∀ ev ∈ events.drop r.sync, ev.call.device ≠ device

instance (r : Settlement) (events : List Event) (device : String) :
    Decidable (r.Waits events device) :=
  inferInstanceAs (Decidable (_ ∧ _))

/-- What was settled against a device by other devices' calls and after its own last one. -/
def waiting (events : List Event) (device : String) : List Settlement :=
  (settlements events).filter fun r ↦ r.Waits events device

/-- What a device is told by a call: what the call settled, and then what waited for the device. -/
def delivered (past : List Event) (ev : Event) : List Settlement :=
  ev.settlements past.length ++ waiting past ev.call.device

section Settlements

variable {events : List Event} {ev : Event} {k : Nat} {r : Settlement} {device : String}

theorem conflict_settlements (ev : Event) (k : Nat) :
    (ev.settlements k).map (·.conflict) = ev.settled := by
  rw [Event.settlements, List.map_map]
  exact List.zipIdx_map_fst 0 ev.settled

theorem mem_settlements_event_iff :
    r ∈ ev.settlements k ↔ r.sync = k ∧ ev.settled[r.place]? = some r.conflict := by
  rw [Event.settlements, List.mem_map]
  constructor
  · rintro ⟨⟨c, place⟩, hmem, rfl⟩
    exact ⟨rfl, List.mem_zipIdx_iff_getElem?.1 hmem⟩
  · rintro ⟨rfl, hplace⟩
    exact ⟨(r.conflict, r.place), List.mem_zipIdx_iff_getElem?.2 hplace, rfl⟩

theorem mem_settlements_iff :
    r ∈ settlements events ↔
      ∃ ev, events[r.sync]? = some ev ∧ ev.settled[r.place]? = some r.conflict := by
  rw [settlements, List.mem_flatMap]
  constructor
  · rintro ⟨⟨ev, k⟩, hmem, hr⟩
    obtain ⟨rfl, hplace⟩ := mem_settlements_event_iff.1 hr
    exact ⟨ev, List.mem_zipIdx_iff_getElem?.1 hmem, hplace⟩
  · rintro ⟨ev, hev, hplace⟩
    exact ⟨(ev, r.sync), List.mem_zipIdx_iff_getElem?.2 hev,
      mem_settlements_event_iff.2 ⟨rfl, hplace⟩⟩

theorem sync_lt_length (hr : r ∈ settlements events) : r.sync < events.length := by
  obtain ⟨ev, hev, -⟩ := mem_settlements_iff.1 hr
  exact (List.getElem?_eq_some_iff.1 hev).1

theorem settlements_concat (events : List Event) (ev : Event) :
    settlements (events ++ [ev]) = settlements events ++ ev.settlements events.length := by
  simp [settlements, List.zipIdx_append]

theorem waits_concat_iff (hr : r.sync ≤ events.length) :
    r.Waits (events ++ [ev]) device ↔ r.Waits events device ∧ ev.call.device ≠ device := by
  unfold Settlement.Waits
  rw [List.drop_append_of_le_length hr, and_assoc]
  apply and_congr_right
  intro _
  constructor
  · intro hother
    exact ⟨fun ev' hev' ↦ hother ev' (List.mem_append_left _ hev'),
      hother ev (List.mem_append_right _ List.mem_cons_self)⟩
  · intro hothers ev' hev'
    rcases List.mem_append.1 hev' with hev' | hev'
    · exact hothers.1 ev' hev'
    · rw [List.mem_singleton.1 hev']
      exact hothers.2

/-- A call takes what waited for its device, and what it settled against other devices waits. -/
theorem waiting_concat (events : List Event) (ev : Event) (device : String) :
    waiting (events ++ [ev]) device =
      if ev.call.device = device then []
      else waiting events device ++ (ev.settlements events.length).filter (·.loser = device) := by
  have hle : ∀ r ∈ settlements (events ++ [ev]), r.sync ≤ events.length := by
    intro r hr
    have hlt := sync_lt_length hr
    rw [List.length_append] at hlt
    exact Nat.le_of_lt_succ hlt
  split
  next hdevice =>
    apply List.filter_eq_nil_iff.2
    intro r hr hwaits
    exact ((waits_concat_iff (hle r hr)).1 (of_decide_eq_true hwaits)).2 hdevice
  next hdevice =>
    have hwaits : ∀ r ∈ settlements (events ++ [ev]),
        decide (r.Waits (events ++ [ev]) device) = decide (r.Waits events device) :=
      fun r hr ↦ decide_eq_decide.2 ((waits_concat_iff (hle r hr)).trans (and_iff_left hdevice))
    have hnew : ∀ r ∈ ev.settlements events.length,
        decide (r.Waits events device) = decide (r.loser = device) := by
      intro r hr
      have hsync := (mem_settlements_event_iff.1 hr).1
      refine decide_eq_decide.2 (and_iff_left ?_)
      rw [hsync, List.drop_length]
      exact fun _ h ↦ absurd h List.not_mem_nil
    calc
      _ = (settlements (events ++ [ev])).filter fun r ↦ r.Waits events device :=
        List.filter_congr hwaits
      _ = _ := by rw [settlements_concat, List.filter_append, List.filter_congr hnew, waiting]

/-! ## Told once -/

theorem nodup_settlements_event (ev : Event) (k : Nat) : (ev.settlements k).Nodup := by
  apply List.Nodup.of_map (·.place)
  rw [Event.settlements, List.map_map]
  change (ev.settled.zipIdx.map Prod.snd).Nodup
  rw [List.zipIdx_map_snd]
  exact List.nodup_range'

theorem nodup_settlements (events : List Event) : (settlements events).Nodup := by
  induction events using List.reverseRecOn with
  | nil => exact List.nodup_nil
  | append_singleton events ev ih =>
    rw [settlements_concat]
    apply ih.append (nodup_settlements_event ev _)
    intro r hr hr'
    have hlt : r.sync < events.length := sync_lt_length hr
    have hsync : r.sync = events.length := (mem_settlements_event_iff.1 hr').1
    exact Nat.ne_of_lt hlt hsync

theorem nodup_delivered (past : List Event) (ev : Event) : (delivered past ev).Nodup := by
  apply (nodup_settlements_event ev _).append ((nodup_settlements past).filter _)
  intro r hr hr'
  have hlt : r.sync < past.length := sync_lt_length (List.mem_of_mem_filter hr')
  have hsync : r.sync = past.length := (mem_settlements_event_iff.1 hr).1
  exact Nat.ne_of_lt hlt hsync

theorem mem_settlements_of_mem_delivered (hev : events[k]? = some ev)
    (hr : r ∈ delivered (events.take k) ev) : r ∈ settlements events := by
  rw [mem_settlements_iff]
  rcases List.mem_append.1 hr with hown | hpast
  · rw [length_take_of_getElem? hev] at hown
    obtain ⟨rfl, hplace⟩ := mem_settlements_event_iff.1 hown
    exact ⟨ev, hev, hplace⟩
  · obtain ⟨settling, hsettling, hplace⟩ := mem_settlements_iff.1 (List.mem_of_mem_filter hpast)
    rw [List.getElem?_take_of_lt] at hsettling
    · exact ⟨settling, hsettling, hplace⟩
    · have hlt := sync_lt_length (List.mem_of_mem_filter hpast)
      rwa [length_take_of_getElem? hev] at hlt

/-- A call tells of a conflict if it settled the conflict or is the first of the losing device's
calls from the settling one on. -/
theorem mem_delivered_iff (hev : events[k]? = some ev) (hr : r ∈ settlements events) :
    r ∈ delivered (events.take k) ev ↔
      k = r.sync ∨ (r.sync ≤ k ∧ ev.call.device = r.loser ∧
        ∀ j other, r.sync ≤ j → j < k → events[j]? = some other →
          other.call.device ≠ r.loser) := by
  obtain ⟨settling, hsettling, hplace⟩ := mem_settlements_iff.1 hr
  have hlength := length_take_of_getElem? hev
  have hown : r ∈ ev.settlements k ↔ k = r.sync := by
    rw [mem_settlements_event_iff]
    constructor
    · intro hmem
      exact hmem.1.symm
    · intro hsync
      rw [hsync] at hev ⊢
      rw [← Option.some.inj (hsettling.symm.trans hev)]
      exact ⟨rfl, hplace⟩
  have hpast : r ∈ settlements (events.take k) ↔ r.sync < k := by
    rw [mem_settlements_iff, List.getElem?_take]
    split
    next hlt => exact iff_of_true ⟨settling, hsettling, hplace⟩ hlt
    next hge => exact iff_of_false (fun ⟨_, h, _⟩ ↦ nomatch h) hge
  have hsince : (∀ other ∈ (events.take k).drop r.sync, other.call.device ≠ r.loser) ↔
      ∀ j other, r.sync ≤ j → j < k → events[j]? = some other → other.call.device ≠ r.loser := by
    constructor
    · intro h j other hle hlt hj
      refine h other (List.mem_iff_getElem?.2 ⟨j - r.sync, ?_⟩)
      rw [List.getElem?_drop, Nat.add_sub_cancel' hle, List.getElem?_take, if_pos hlt]
      exact hj
    · intro h other hmem
      obtain ⟨j, hj⟩ := List.mem_iff_getElem?.1 hmem
      rw [List.getElem?_drop, List.getElem?_take] at hj
      split at hj
      next hlt => exact h _ other (Nat.le_add_right _ j) hlt hj
      next => contradiction
  rw [delivered, hlength, List.mem_append, hown, waiting, List.mem_filter, hpast,
    decide_eq_true_iff, Settlement.Waits]
  constructor
  · intro htold
    rcases htold with hsync | ⟨hlt, hloser, hother⟩
    · exact .inl hsync
    · rw [← hloser] at hother
      exact .inr ⟨Nat.le_of_lt hlt, hloser.symm, hsince.1 hother⟩
  · intro hdue
    rcases hdue with hsync | ⟨hle, hloser, hother⟩
    · exact .inl hsync
    · rcases Nat.lt_or_eq_of_le hle with hlt | heq
      · rw [hloser]
        exact .inr ⟨hlt, rfl, hsince.2 hother⟩
      · exact .inl heq.symm

end Settlements

/-! ## What the engine holds -/

namespace Arena

variable {policy : Policy} {a : Arena}

/-- A batch leaves to the other devices what it settled against them, and to its own nothing. -/
theorem heldFor_mergeAll (ha : a.Sound) (c : Call) (device : String) :
    (a.mergeAll policy c.stamped).1.heldFor device = a.heldFor device ++
      (a.event policy c).settled.filter fun conflict ↦
        conflict.loser.device = device ∧ device ≠ c.device := by
  refine mergeAll_induction (P := fun b entries ↦ b.heldFor device = a.heldFor device ++
    (entries.filterMap fun e ↦ e.fate.settled?).filter fun conflict ↦
      conflict.loser.device = device ∧ device ≠ c.device) c.stamped ?_ [] ha (by simp)
  intro b past d result hd _ hmerges hpast
  have hcaller : d.device = c.device := device_of_mem_stamped hd
  rw [List.filterMap_append, List.filter_append, ← List.append_assoc, ← hpast]
  cases hmerges with
  | unknown | future | clean => simp [entryOf, Disposition.settled?]
  | @displaced s head rule =>
    rw [heldFor_hold, heldFor_write, hcaller]
    congr 1
    change _ = List.filter _ [(⟨d.field, d, head, policy, rule⟩ : Conflict)]
    rw [List.filter_cons, List.filter_nil]
    simp only [decide_eq_true_eq]
  | @kept s head rule =>
    change _ = _ ++ List.filter _ [(⟨d.field, head, d, policy, rule⟩ : Conflict)]
    rw [List.filter_eq_nil_iff.2, List.append_nil]
    -- The caller lost and is told at once.
    intro conflict hmem hlost
    obtain rfl := List.mem_singleton.1 hmem
    obtain ⟨hloser, hne⟩ := of_decide_eq_true hlost
    exact hne (hloser.symm.trans hcaller)

end Arena

/-- What a run keeps true: for every device the engine holds what waits for it, and every call has
told its device of what it settled and of what waited. -/
structure Told (a : Arena) (events : List Event) : Prop where
  held : ∀ device, a.heldFor device = (waiting events device).map (·.conflict)
  resolved : ∀ (k : Nat) (ev : Event), events[k]? = some ev → ev.outcome.resolved = ev.settled.length
  conflicts : ∀ (k : Nat) (ev : Event), events[k]? = some ev →
    ev.outcome.conflicts = (delivered (events.take k) ev).map (·.conflict)

namespace Told

open Arena

variable {policy : Policy} {a : Arena} {past : List Event}

theorem conflicts_event_eq (ha : a.Sound) (htold : Told a past) (c : Call) :
    (a.event policy c).outcome.conflicts =
      (delivered past (a.event policy c)).map (·.conflict) := by
  have hown : (a.event policy c).settled.filter (fun conflict ↦
      conflict.loser.device = c.device ∧ c.device ≠ c.device) = [] := by
    apply List.filter_eq_nil_iff.2
    intro conflict _ hlost
    exact (of_decide_eq_true hlost).2 rfl
  rw [conflicts_event, heldFor_mergeAll ha, hown, List.append_nil, htold.held, delivered,
    List.map_append, conflict_settlements, call_event]

theorem heldFor_after_eq (ha : a.Sound) (htold : Told a past) (c : Call) (device : String) :
    (a.after policy c).heldFor device =
      (waiting (past ++ [a.event policy c]) device).map (·.conflict) := by
  rw [heldFor_after, waiting_concat, call_event]
  by_cases hdevice : c.device = device
  · rw [if_pos hdevice, if_pos hdevice]
    rfl
  · rw [if_neg hdevice, if_neg hdevice, heldFor_mergeAll ha, htold.held, List.map_append]
    congr 1
    calc
      _ = (a.event policy c).settled.filter (·.loser.device = device) := by
        apply List.filter_congr
        intro conflict _
        exact decide_eq_decide.2 (and_iff_left (Ne.symm hdevice))
      _ = (((a.event policy c).settlements past.length).map (·.conflict)).filter
          (·.loser.device = device) := by rw [conflict_settlements]
      _ = _ := List.filter_map

theorem step (ha : a.Sound) (htold : Told a past) (c : Call) :
    Told (a.after policy c) (past ++ [a.event policy c]) where
  held := htold.heldFor_after_eq ha c
  resolved k ev hk := by
    rcases getElem?_concat_eq_some_iff.1 hk with hk | ⟨-, rfl⟩
    · exact htold.resolved k ev hk
    · exact resolved_event policy a c
  conflicts k ev hk := by
    rcases getElem?_concat_eq_some_iff.1 hk with hk | ⟨rfl, rfl⟩
    · rw [List.take_append_of_le_length (Nat.le_of_lt (List.getElem?_eq_some_iff.1 hk).1)]
      exact htold.conflicts k ev hk
    · rw [List.take_left]
      exact htold.conflicts_event_eq ha c

end Told

namespace Engine

variable (fields : List String) (policy : Policy) (user : String)

theorem told_run (calls : List Call) :
    Told (((new fields policy).arena user).run policy calls)
      ((new fields policy).history user calls) := by
  rw [history_eq]
  refine Arena.history_induction (P := Told) (fun c ha htold ↦ htold.step ha c) [] calls
    (sound_arena_new fields policy user) ⟨?_, ?_, ?_⟩
  · intro device
    rfl
  · intro k ev hk
    exact absurd (List.mem_of_getElem? hk) List.not_mem_nil
  · intro k ev hk
    exact absurd (List.mem_of_getElem? hk) List.not_mem_nil

/-- Every call tells of the conflicts that it settled, in order and counted, and then of those that
waited for its device, and of none twice. A conflict is told by the call that settled it, by the
first call of the losing device from then on, and by no other; until then the engine holds it. -/
theorem conflicts_eq_delivered (calls : List Call) :
    let e := new fields policy
    let events := e.history user calls
    (∀ k ev, events[k]? = some ev →
      ev.outcome.resolved = ev.settled.length ∧
      ev.outcome.conflicts =
        ev.settled ++ (waiting (events.take k) ev.call.device).map (·.conflict) ∧
      ev.outcome.conflicts = (delivered (events.take k) ev).map (·.conflict) ∧
      (delivered (events.take k) ev).Nodup ∧
      (∀ r ∈ delivered (events.take k) ev, r ∈ settlements events) ∧
      ∀ r ∈ settlements events, r ∈ delivered (events.take k) ev ↔
        k = r.sync ∨ (r.sync ≤ k ∧ ev.call.device = r.loser ∧
          ∀ j other, r.sync ≤ j → j < k → events[j]? = some other →
            other.call.device ≠ r.loser)) ∧
    ∀ device, ((e.run user calls).arena user).heldFor device =
      (waiting events device).map (·.conflict) := by
  intro e events
  have htold : Told _ events := told_run fields policy user calls
  constructor
  · intro k ev hev
    have hconflicts := htold.conflicts k ev hev
    refine ⟨htold.resolved k ev hev, ?_, hconflicts, nodup_delivered _ ev,
      fun r hr ↦ mem_settlements_of_mem_delivered hev hr, fun r hr ↦ mem_delivered_iff hev hr⟩
    rw [hconflicts, delivered, List.map_append, conflict_settlements]
  · intro device
    rw [arena_run]
    exact htold.held device

/-- The conflict that a device is told by an empty call after another has taken its field. -/
theorem conflicts_eq_delivered_held :
    let e := new ["dns"] .lastWriterWins
    let calls : List Call :=
      [⟨"a", [⟨"dns", 0, .text "X", "", ⟨1, 0, by decide⟩⟩], .epoch⟩,
        ⟨"b", [⟨"dns", 0, .text "Y", "", ⟨50, 0, by decide⟩⟩], .epoch⟩, ⟨"a", [], .epoch⟩]
    let events := e.history "u" calls
    ∃ ev r, events[2]? = some ev ∧ r ∈ delivered (events.take 2) ev ∧ r ∈ settlements events ∧
      (2 = r.sync ∨ (r.sync ≤ 2 ∧ ev.call.device = r.loser ∧
        ∀ j other, r.sync ≤ j → j < 2 → events[j]? = some other →
          other.call.device ≠ r.loser)) := by
  intro e calls events
  have hcount : events[2]?.map (·.outcome.conflicts.length) = some 1 := by decide
  obtain ⟨ev, hev, hlength⟩ := Option.map_eq_some_iff.1 hcount
  obtain ⟨-, -, hconflicts, -, hsettled, hdelivered⟩ :=
    (conflicts_eq_delivered ["dns"] .lastWriterWins "u" calls).1 2 ev hev
  rw [hconflicts, List.length_map] at hlength
  obtain ⟨r, hr⟩ := List.exists_mem_of_length_pos (by rw [hlength]; exact Nat.one_pos)
  exact ⟨ev, r, hev, hr, hsettled r hr, (hdelivered r (hsettled r hr)).1 hr⟩

end Engine

end DeviceSync.Profile
