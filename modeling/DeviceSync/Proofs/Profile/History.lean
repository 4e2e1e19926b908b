import DeviceSync.Proofs.Profile.Entry

/-!
# Histories

A run is a list of calls of one user's devices. Its history says for every call what became of each
diff and what the device was told, and an outcome can be read off the entries of its batch. Whatever
every call keeps is kept by a run, with the history so far at hand.
-/

namespace DeviceSync.Profile

/-- A diff under the name of the device that sent it, whatever name it came with. -/
def Diff.stamp (device : String) (d : Diff) : Diff :=
  { d with device := device }

/-- A call of a device, with the clock at which it is answered. -/
structure Call where
  device : String
  batch : List Diff
  time : Instant

/-- The batch as it is merged. -/
def Call.stamped (c : Call) : List Diff :=
  c.batch.map (Diff.stamp c.device)

/-- A call with what became of its diffs and what the device was told. -/
structure Event where
  call : Call
  entries : List Entry
  outcome : Outcome

namespace Event

/-- The conflicts that a call settled, in the order of its batch. -/
def settled (ev : Event) : List Conflict :=
  ev.entries.filterMap fun e ↦ e.fate.settled?

/-- The diffs of a call that its outcome does not list as rejected. -/
def accepted (ev : Event) : List Entry :=
  (ev.entries.zipIdx.filter fun (_, index) ↦ index ∉ ev.outcome.rejected.map (·.index)).map (·.1)

end Event

/-- All diffs that were accepted in a history, one after the other. A diff that was submitted twice
stands there twice: its place in the list tells a submission from every other. -/
def accepted (events : List Event) : List Entry :=
  events.flatMap Event.accepted

theorem getElem?_concat_eq_some_iff {α : Type} {l : List α} {x y : α} {i : Nat} :
    (l ++ [x])[i]? = some y ↔ l[i]? = some y ∨ (i = l.length ∧ x = y) := by
  rcases Nat.lt_trichotomy i l.length with hlt | rfl | hgt
  · rw [List.getElem?_append_left hlt]
    exact (or_iff_left fun h ↦ Nat.ne_of_lt hlt h.1).symm
  · rw [List.getElem?_concat_length, List.getElem?_eq_none (Nat.le_refl _)]
    simp
  · have hle : (l ++ [x]).length ≤ i := by
      rw [List.length_append]
      exact hgt
    rw [List.getElem?_eq_none hle, List.getElem?_eq_none (Nat.le_of_lt hgt)]
    simp [Nat.ne_of_gt hgt]

theorem length_take_of_getElem? {α : Type} {l : List α} {x : α} {k : Nat} (hx : l[k]? = some x) :
    (l.take k).length = k :=
  List.length_take_of_le (Nat.le_of_lt (List.getElem?_eq_some_iff.1 hx).1)

namespace Arena

def event (policy : Policy) (a : Arena) (c : Call) : Event :=
  ⟨c, a.entries policy c.stamped, (a.sync policy c.device c.batch c.time).2⟩

/-- The profile after a call. -/
def after (policy : Policy) (a : Arena) (c : Call) : Arena :=
  (a.sync policy c.device c.batch c.time).1

/-- The profile after a run of calls. -/
def run (policy : Policy) (a : Arena) (calls : List Call) : Arena :=
  calls.foldl (after policy) a

def history (policy : Policy) (a : Arena) : List Call → List Event
  | [] => []
  | c :: calls => a.event policy c :: (a.after policy c).history policy calls

end Arena

namespace Engine

/-- The engine after a run of calls of one user's devices. -/
def run (e : Engine) (user : String) (calls : List Call) : Engine :=
  calls.foldl (fun e c ↦ (e.sync user c.device c.batch c.time).1) e

def history (e : Engine) (user : String) : List Call → List Event
  | [] => []
  | c :: calls =>
    ⟨c, (e.arena user).entries e.policy c.stamped, (e.sync user c.device c.batch c.time).2⟩ ::
      (e.sync user c.device c.batch c.time).1.history user calls

end Engine

/-! ## Outcomes read off the entries -/

namespace Arena

section Outcome

variable (policy : Policy) (a : Arena) (c : Call)

theorem getElem?_entries (index : Nat) :
    (a.entries policy c.stamped)[index]?.map (·.diff) =
      c.batch[index]?.map (Diff.stamp c.device) := by
  rw [← List.getElem?_map, map_diff_entries, Call.stamped, List.getElem?_map]

@[simp]
theorem call_event : (a.event policy c).call = c := rfl

theorem settled_event :
    (a.event policy c).settled =
      (a.mergeAll policy c.stamped).2.filterMap Disposition.settled? := by
  rw [← map_fate_entries, List.filterMap_map]
  rfl

theorem resolved_event :
    (a.event policy c).outcome.resolved = (a.event policy c).settled.length := by
  rw [settled_event]
  rfl

theorem conflicts_event :
    (a.event policy c).outcome.conflicts =
      (a.event policy c).settled ++ (a.mergeAll policy c.stamped).1.heldFor c.device := by
  rw [settled_event]
  rfl

/-- The first conflicts that a device is told of are those that its call settled. -/
theorem take_conflicts_event :
    (a.event policy c).outcome.conflicts.take (a.event policy c).outcome.resolved =
      (a.event policy c).settled := by
  rw [conflicts_event, resolved_event, List.take_left]

theorem applied_event :
    (a.event policy c).outcome.applied =
      (a.entries policy c.stamped).filterMap fun e ↦ Disposition.applied? (e.diff, e.fate) := by
  change (c.stamped.zip (a.mergeAll policy c.stamped).2).filterMap Disposition.applied? = _
  rw [zip_fates, List.filterMap_map]
  rfl

/-- What an outcome lists as rejected are its refused diffs, each with its place and the reason. -/
theorem mem_rejected_event (r : Rejection) :
    r ∈ (a.event policy c).outcome.rejected ↔
      ∃ index e error, (a.entries policy c.stamped)[index]? = some e ∧
        e.fate = .rejected error ∧ r = .ofError index e.diff.field error := by
  have hrejected : (a.event policy c).outcome.rejected =
      (((a.entries policy c.stamped).map fun e ↦ (e.diff, e.fate)).zipIdx).filterMap
        Disposition.rejected? := by
    rw [← zip_fates]
    rfl
  rw [hrejected, List.mem_filterMap]
  constructor
  · rintro ⟨⟨⟨d, fate⟩, index⟩, hindex, hreport⟩
    rw [List.mem_zipIdx_iff_getElem?, List.getElem?_map, Option.map_eq_some_iff] at hindex
    obtain ⟨e, he, hfate⟩ := hindex
    obtain ⟨rfl, rfl⟩ := Prod.mk.inj hfate
    cases hf : e.fate with
    | rejected error =>
      rw [hf] at hreport
      exact ⟨index, e, error, he, hf, (Option.some.inj hreport).symm⟩
    | applied | settled => simp [hf, Disposition.rejected?] at hreport
  · rintro ⟨index, e, error, he, hfate, rfl⟩
    refine ⟨((e.diff, .rejected error), index), ?_, rfl⟩
    rw [List.mem_zipIdx_iff_getElem?, List.getElem?_map, he, ← hfate]
    rfl

/-- The places that an outcome lists as rejected are those of the refused diffs. -/
theorem mem_rejected_event_iff (index : Nat) :
    index ∈ (a.event policy c).outcome.rejected.map (·.index) ↔
      ∃ e, (a.entries policy c.stamped)[index]? = some e ∧ e.fate.accepted = false := by
  rw [List.mem_map]
  constructor
  · rintro ⟨r, hr, rfl⟩
    obtain ⟨index, e, error, he, hfate, rfl⟩ := (mem_rejected_event ..).1 hr
    exact ⟨e, he, by rw [hfate]; rfl⟩
  · rintro ⟨e, he, hrefused⟩
    cases hfate : e.fate with
    | rejected error =>
      exact ⟨_, (mem_rejected_event ..).2 ⟨index, e, error, he, hfate, rfl⟩, rfl⟩
    | applied | settled => simp [hfate, Disposition.accepted] at hrefused

/-- What an outcome does not list as rejected is what was taken in. -/
theorem accepted_event :
    (a.event policy c).accepted = (a.entries policy c.stamped).filter (·.fate.accepted) := by
  have hcongr : ∀ p ∈ (a.entries policy c.stamped).zipIdx,
      decide (p.2 ∉ (a.event policy c).outcome.rejected.map (·.index)) = p.1.fate.accepted := by
    rintro ⟨e, index⟩ hmem
    have he := List.mem_zipIdx_iff_getElem?.1 hmem
    cases hf : e.fate.accepted with
    | false => exact decide_eq_false (not_not_intro ((mem_rejected_event_iff ..).2 ⟨e, he, hf⟩))
    | true =>
      apply decide_eq_true
      intro hrejected
      obtain ⟨e', he', hf'⟩ := (mem_rejected_event_iff ..).1 hrejected
      obtain rfl := Option.some.inj (he.symm.trans he')
      rw [hf] at hf'
      contradiction
  calc
    _ = ((a.entries policy c.stamped).zipIdx.filter ((·.fate.accepted) ∘ Prod.fst)).map
        Prod.fst := congrArg (List.map Prod.fst) (List.filter_congr hcongr)
    _ = ((a.entries policy c.stamped).zipIdx.map Prod.fst).filter (·.fate.accepted) :=
      List.filter_map.symm
    _ = _ := by rw [List.zipIdx_map_fst]

theorem filterMap_accepted_event :
    (a.event policy c).accepted.filterMap (·.fate.settled?) = (a.event policy c).settled := by
  rw [accepted_event, List.filterMap_filter, Event.settled]
  congr 1
  funext e
  cases e.fate with
  | rejected | applied | settled => rfl

end Outcome

/-! ## One call -/

variable {policy : Policy} {a : Arena}

section After

variable (policy : Policy) (a : Arena) (c : Call)

theorem slots_after : (a.after policy c).slots = (a.mergeAll policy c.stamped).1.slots := rfl

theorem changes_after : (a.after policy c).changes = (a.mergeAll policy c.stamped).1.changes := rfl

theorem heldFor_after (device : String) :
    (a.after policy c).heldFor device =
      if c.device = device then [] else (a.mergeAll policy c.stamped).1.heldFor device := by
  change (((a.mergeAll policy c.stamped).1.pending.erase c.device).find? device).getD [] = _
  rw [Table.find?_erase]
  split <;> rfl

end After

/-- A call leaves its device with everything seen, and the other devices where they were. -/
theorem seenBy_after (ha : a.Sound) (c : Call) (device : String) :
    (a.after policy c).seenBy device =
      if c.device = device then (a.after policy c).changes else a.seenBy device := by
  have hle : a.seenBy c.device ≤ (a.mergeAll policy c.stamped).1.changes :=
    Nat.le_trans (ha.seen_le _) (later_mergeAll ha c.stamped).changes_le
  change ((((a.mergeAll policy c.stamped).1.points.insert c.device _).find? device).map
    (·.change)).getD 0 = _
  rw [Table.find?_insert]
  by_cases hdevice : c.device = device
  · rw [if_pos hdevice, if_pos hdevice]
    exact Nat.max_eq_right hle
  · rw [if_neg hdevice, if_neg hdevice]
    exact seenBy_mergeAll ha _ device

theorem Sound.after (ha : a.Sound) (c : Call) : (a.after policy c).Sound where
  slot h := (ha.mergeAll c.stamped).slot h
  changed_le h := (ha.mergeAll c.stamped).changed_le h
  seen_le device := by
    rw [seenBy_after ha]
    split
    · exact Nat.le_refl _
    · exact Nat.le_trans (ha.seen_le device) (later_mergeAll ha c.stamped).changes_le

theorem later_after (ha : a.Sound) (c : Call) : Later (· ∈ c.stamped) a (a.after policy c) := by
  have hmerged : Later (· ∈ c.stamped) a (a.mergeAll policy c.stamped).1 := later_mergeAll ha _
  exact ⟨hmerged.isSome_eq, hmerged.changes_le, hmerged.version_le, hmerged.slot⟩

/-- Every device has seen the changes that it made itself. -/
def SeesOwn (a : Arena) : Prop :=
  ∀ field s head, a.slots.find? field = some s → s.head = some head →
    s.changed ≤ a.seenBy head.device

theorem device_of_mem_stamped {c : Call} {d : Diff} (hd : d ∈ c.stamped) : d.device = c.device := by
  obtain ⟨_, -, rfl⟩ := List.mem_map.1 hd
  rfl

theorem SeesOwn.after (ha : a.Sound) (h : a.SeesOwn) (c : Call) : (a.after policy c).SeesOwn := by
  intro field s head hs hhead
  rw [seenBy_after ha]
  split
  next => exact (ha.after c).changed_le hs
  next hdevice =>
    rcases (later_after ha c).slot hs with hkept | ⟨-, -, d, hd, hd'⟩
    · exact h field s head hkept hhead
    · -- Only the calling device writes, so a new head is its own.
      obtain rfl := Option.some.inj (hhead.symm.trans hd')
      exact absurd (device_of_mem_stamped hd).symm hdevice

/-! ## Runs -/

/-- What every call keeps holds after a run. -/
theorem history_induction {P : Arena → List Event → Prop}
    (step : ∀ {a past} (c : Call), a.Sound → P a past →
      P (a.after policy c) (past ++ [a.event policy c]))
    (past : List Event) (calls : List Call) (ha : a.Sound) (hP : P a past) :
    P (a.run policy calls) (past ++ a.history policy calls) := by
  induction calls generalizing a past with
  | nil => simpa [run, history] using hP
  | cons c calls ih =>
    have hrest := ih _ (ha.after c) (step c ha hP)
    simpa [run, history] using hrest

theorem Sound.run (ha : a.Sound) (calls : List Call) : (a.run policy calls).Sound :=
  history_induction (P := fun b _ ↦ b.Sound) (fun c hb _ ↦ hb.after c) [] calls ha ha

theorem run_append (policy : Policy) (a : Arena) (calls more : List Call) :
    a.run policy (calls ++ more) = (a.run policy calls).run policy more :=
  List.foldl_append

/-- An event of a history, the profile that its call met, and the history before it. -/
theorem of_getElem?_history {calls : List Call} {k : Nat} {ev : Event}
    (hev : (a.history policy calls)[k]? = some ev) :
    ∃ c, calls.take (k + 1) = calls.take k ++ [c] ∧
      ev = (a.run policy (calls.take k)).event policy c ∧
      (a.history policy calls).take k = a.history policy (calls.take k) := by
  induction calls generalizing a k with
  | nil => cases hev
  | cons c calls ih =>
    cases k with
    | zero => exact ⟨c, rfl, (Option.some.inj hev).symm, rfl⟩
    | succ k =>
      obtain ⟨c', htake, hevent, hpast⟩ := ih hev
      exact ⟨c', congrArg (c :: ·) htake, hevent, congrArg (a.event policy c :: ·) hpast⟩

theorem later_run (ha : a.Sound) (calls : List Call) :
    Later (fun _ ↦ True) a (a.run policy calls) := by
  refine history_induction (P := fun b _ ↦ Later (fun _ ↦ True) a b) ?_ [] calls ha (.refl a)
  intro b past c hb hpast
  exact hpast.trans ((later_after hb c).mono fun _ ↦ trivial)

theorem seenBy_le_run (ha : a.Sound) (calls : List Call) (device : String) :
    a.seenBy device ≤ (a.run policy calls).seenBy device := by
  refine history_induction (P := fun b _ ↦ a.seenBy device ≤ b.seenBy device) ?_ [] calls ha
    (Nat.le_refl _)
  intro b past c hb hle
  rw [seenBy_after hb]
  split
  · calc
      _ ≤ b.seenBy device := hle
      _ ≤ b.changes := hb.seen_le device
      _ ≤ _ := (later_mergeAll hb c.stamped).changes_le
  · exact hle

/-- What ties the fields to the diffs accepted so far is kept by a run if every ending of a merge
keeps it. -/
theorem accepted_induction {P : Table Slot → List Entry → Prop}
    (step : ∀ {a past d result}, a.Sound → Merges policy a d result → P a.slots past →
      P result.1.slots (past ++ [a.entryOf d result].filter (·.fate.accepted)))
    (calls : List Call) (ha : a.Sound) (hP : P a.slots []) :
    P (a.run policy calls).slots (accepted (a.history policy calls)) := by
  refine history_induction (P := fun b events ↦ P b.slots (accepted events)) ?_ [] calls ha hP
  intro b past c hb hpast
  have hmerged := mergeAll_induction
    (P := fun b entries ↦ P b.slots (accepted past ++ entries.filter (·.fate.accepted)))
    c.stamped (fun _ hb hmerges h ↦ by simpa using step hb hmerges h) [] hb (by simpa using hpast)
  rw [slots_after, accepted, List.flatMap_append, List.flatMap_singleton, accepted_event]
  exact hmerged

/-- What ties one field to the diffs accepted so far is kept by a run if the field's own diffs keep
it and those of other fields do not disturb it. -/
theorem field_induction {Q : String → Slot → List Entry → Prop}
    (frame : ∀ {field s past e}, e.diff.field ≠ field → Q field s past → Q field s (past ++ [e]))
    (step : ∀ {s past d t e}, s.Accepts policy d (t, e) → Q d.field s past →
      Q d.field t (past ++ [e]))
    (calls : List Call) (ha : a.Sound)
    (hQ : ∀ {field s}, a.slots.find? field = some s → Q field s [])
    {field : String} {s : Slot} (hs : (a.run policy calls).slots.find? field = some s) :
    Q field s (accepted (a.history policy calls)) := by
  refine accepted_induction
    (P := fun slots past ↦ ∀ {field s}, slots.find? field = some s → Q field s past)
    ?_ calls ha hQ hs
  intro a past d result _ hmerges hpast field u hu
  rcases hmerges.refused_or_accepts with ⟨hslots, hrefused⟩ | ⟨s, t, hs, htaken, haccepts, hfind⟩
  · rw [List.filter_cons, hrefused, if_neg Bool.false_ne_true, List.filter_nil, List.append_nil]
    exact hpast (hslots ▸ hu)
  · rw [List.filter_cons, if_pos htaken, List.filter_nil]
    rw [hfind] at hu
    split at hu
    next hfield =>
      obtain rfl := Option.some.inj hu
      subst hfield
      exact step haccepts (hpast hs)
    next hfield => exact frame hfield (hpast hu)

end Arena

/-! ## The engine's runs are those of its arenas -/

namespace Engine

theorem arena_sync (e : Engine) (user device : String) (batch : List Diff) (now : Instant) :
    (e.sync user device batch now).1.arena user =
      ((e.arena user).sync e.policy device batch now).1 := by
  change ((e.arenas.insert user _).find? user).getD _ = _
  rw [Table.find?_insert, if_pos rfl]
  rfl

theorem arena_run (e : Engine) (user : String) (calls : List Call) :
    (e.run user calls).arena user = (e.arena user).run e.policy calls := by
  induction calls generalizing e with
  | nil => rfl
  | cons c calls ih =>
    calc
      _ = ((e.sync user c.device c.batch c.time).1.arena user).run e.policy calls := ih _
      _ = _ := by rw [arena_sync]; rfl

theorem history_eq (e : Engine) (user : String) (calls : List Call) :
    e.history user calls = (e.arena user).history e.policy calls := by
  induction calls generalizing e with
  | nil => rfl
  | cons c calls ih =>
    rw [history, ih, arena_sync]
    rfl

variable (fields : List String) (policy : Policy) (user : String)

theorem arena_new : (new fields policy).arena user = .blank (Table.ofKeys fields ()).keys := rfl

theorem sound_arena_new : ((new fields policy).arena user).Sound :=
  Arena.sound_blank _

theorem find?_arena_new (field : String) :
    ((new fields policy).arena user).slots.find? field =
      if field ∈ fields then some .blank else none := by
  rw [arena_new, Arena.find?_blank]
  simp only [Table.mem_keys_ofKeys]

theorem eq_blank_of_find?_arena_new {field : String} {s : Slot}
    (hs : ((new fields policy).arena user).slots.find? field = some s) : s = .blank := by
  rw [find?_arena_new] at hs
  split at hs
  · exact (Option.some.inj hs).symm
  · contradiction

variable (calls : List Call)

theorem sound_run : (((new fields policy).arena user).run policy calls).Sound :=
  (sound_arena_new fields policy user).run calls

theorem later_run_append (more : List Call) :
    Arena.Later (fun _ ↦ True) (((new fields policy).arena user).run policy calls)
      (((new fields policy).arena user).run policy (calls ++ more)) := by
  rw [Arena.run_append]
  exact Arena.later_run (sound_run fields policy user calls) more

/-- A run neither adds fields nor loses any. -/
theorem exists_find?_run {field : String} (hfield : field ∈ fields) :
    ∃ s, (((new fields policy).arena user).run policy calls).slots.find? field = some s := by
  have hsome := (later_run_append fields policy user [] calls).isSome_eq field
  change _ = (((new fields policy).arena user).slots.find? field).isSome at hsome
  rw [find?_arena_new, if_pos hfield] at hsome
  exact Option.isSome_iff_exists.1 hsome

theorem field?_run (field : String) :
    ((new fields policy).run user calls).field? user field =
      ((((new fields policy).arena user).run policy calls).slots.find? field).map
        (·.view field) := by
  rw [field?, arena_run]
  rfl

end Engine

end DeviceSync.Profile
