import DeviceSync.Proofs.Profile.History
import Mathlib.Data.List.Basic

/-!
# Replicas

A device that only listens to its own outcomes can keep a copy of the profile: it sets every field
that was applied for it to the value it sent, and then every field that it was told about. The
outcomes leave out what the device wrote itself and what it has already seen, so the copy is right
only because nothing else is left out.

The main statement says that after each of its syncs a device's replica is the profile. What
carries it is that a replica is right on every field whose last change the device has seen.
-/

namespace DeviceSync.Profile

/-- What a device knows of a field. -/
structure Copy where
  version : Nat
  value : Json

abbrev Replica := String → Copy

namespace Replica

/-- Before its first sync a device takes every field to be unwritten. -/
def blank : Replica := fun _ ↦ ⟨0, .null⟩

def set (r : Replica) (field : String) (copy : Copy) : Replica :=
  fun other ↦ if field = other then copy else r other

/-- The value that a device sent for a version it was told was applied: that of the first diff in
its batch that was made for the field from the version before and is not listed as rejected. -/
def sent? (batch : List Diff) (rejected : List Rejection) (p : Applied) : Option Json :=
  (batch.zipIdx.find? fun (d, index) ↦
    d.field = p.field ∧ d.base = p.version - 1 ∧ index ∉ rejected.map (·.index)).map (·.1.value)

def learnApplied (batch : List Diff) (rejected : List Rejection) (r : Replica) (p : Applied) :
    Replica :=
  match sent? batch rejected p with
  | some value => r.set p.field ⟨p.version, value⟩
  | none => r

def learnUpdate (r : Replica) (u : Update) : Replica :=
  r.set u.field ⟨u.version, u.value⟩

/-- Take in the outcome of a call: the diffs that were applied, and then the updates. -/
def learn (r : Replica) (ev : Event) : Replica :=
  ev.outcome.updates.foldl learnUpdate
    (ev.outcome.applied.foldl (learnApplied ev.call.batch ev.outcome.rejected) r)

/-- The replica that a device has after a history. It learns from its own calls only. -/
def ofHistory (device : String) (events : List Event) : Replica :=
  events.foldl (fun r ev ↦ if ev.call.device = device then r.learn ev else r) blank

theorem set_same (r : Replica) (field : String) (copy : Copy) : r.set field copy field = copy :=
  if_pos rfl

theorem set_of_ne (r : Replica) {field other : String} (copy : Copy) (h : field ≠ other) :
    r.set field copy other = r other :=
  if_neg h

theorem ofHistory_concat (device : String) (events : List Event) (ev : Event) :
    ofHistory device (events ++ [ev]) =
      if ev.call.device = device then (ofHistory device events).learn ev
      else ofHistory device events := by
  rw [ofHistory, List.foldl_append]
  rfl

/-! ## Learning what was applied -/

/-- Taking an applied diff straight from its entry, without looking for it in the batch. -/
def learnEntry (r : Replica) (e : Entry) : Replica :=
  match e.fate with
  | .applied version => r.set e.diff.field ⟨version, e.diff.value⟩
  | _ => r

variable {policy : Policy} {a : Arena}

theorem find?_zipIdx {α : Type} {l : List α} {p : α × Nat → Bool} {x : α} {i : Nat}
    (hx : l[i]? = some x) (hp : p (x, i) = true)
    (hbefore : ∀ {j y}, j < i → l[j]? = some y → p (y, j) = false) :
    l.zipIdx.find? p = some (x, i) := by
  obtain ⟨hi, rfl⟩ := List.getElem?_eq_some_iff.1 hx
  refine List.find?_eq_some_iff_getElem.2 ⟨hp, i, by simpa using hi, by simp, fun j hj ↦ ?_⟩
  have hlt : j < l.length := Nat.lt_trans hj hi
  simpa using hbefore hj (List.getElem?_eq_getElem hlt)

/-- The diff that a device finds for an applied version is the one that made it. An earlier diff
from the same version, had it been taken in, would have left the field at a later version. -/
theorem sent?_eq (ha : a.Sound) (c : Call) {e : Entry} {version : Nat}
    (he : e ∈ a.entries policy c.stamped) (hfate : e.fate = .applied version) :
    sent? c.batch (a.event policy c).outcome.rejected ⟨e.diff.field, version⟩ =
      some e.diff.value := by
  obtain ⟨i, hi⟩ := List.mem_iff_getElem?.1 he
  obtain ⟨hbase, hversion⟩ := (Arena.sound_of_mem_entries ha he).of_applied hfate
  have hplace := Arena.getElem?_entries policy a c i
  rw [hi] at hplace
  obtain ⟨d, hd, hdiff : d.stamp c.device = e.diff⟩ := Option.map_eq_some_iff.1 hplace.symm
  have hfound : (c.batch.zipIdx.find? fun (d, index) ↦
      d.field = e.diff.field ∧ d.base = version - 1 ∧
        index ∉ (a.event policy c).outcome.rejected.map (·.index)) = some (d, i) := by
    refine find?_zipIdx hd (decide_eq_true ⟨?_, ?_, ?_⟩) fun {j d'} hj hd' ↦ decide_eq_false ?_
    · rw [← hdiff]
      rfl
    · rw [hversion, Nat.add_sub_cancel, ← hbase, ← hdiff]
      rfl
    · rw [Arena.mem_rejected_event_iff]
      rintro ⟨e', he', hrefused⟩
      obtain rfl := Option.some.inj (hi.symm.trans he')
      rw [hfate] at hrefused
      contradiction
    · rintro ⟨hfield : d'.field = e.diff.field, hbase' : d'.base = version - 1, hkept⟩
      have hplace' := Arena.getElem?_entries policy a c j
      rw [hd'] at hplace'
      obtain ⟨e', he', hdiff' : e'.diff = d'.stamp c.device⟩ := Option.map_eq_some_iff.1 hplace'
      have haccepted : e'.fate.accepted = true := by
        by_contra h
        exact hkept ((Arena.mem_rejected_event_iff ..).2 ⟨e', he', Bool.eq_false_iff.2 h⟩)
      have hlt : e'.diff.base < e'.after :=
        (Arena.sound_of_mem_entries ha (List.mem_of_getElem? he')).base_lt_after haccepted
      have hle : e'.after ≤ e.before := by
        refine Arena.after_le_before ha hj he' hi ?_
        rw [hdiff']
        exact hfield
      have hsame : e'.diff.base = d'.base := by
        rw [hdiff']
        rfl
      omega
  rw [sent?, hfound, ← hdiff]
  rfl

theorem foldl_learnApplied (ha : a.Sound) (c : Call) (r : Replica) :
    (a.event policy c).outcome.applied.foldl
        (learnApplied c.batch (a.event policy c).outcome.rejected) r =
      (a.entries policy c.stamped).foldl learnEntry r := by
  rw [Arena.applied_event, List.foldl_filterMap]
  apply List.foldl_ext
  intro r e he
  cases hfate : e.fate with
  | applied version =>
    change learnApplied _ _ r ⟨e.diff.field, version⟩ = _
    rw [learnApplied, sent?_eq ha c he hfate, learnEntry, hfate]
  | rejected | settled =>
    rw [learnEntry, hfate]
    rfl

end Replica

/-! ## Learning from updates -/

/-- What a device should know of a field. -/
def Slot.copy (s : Slot) : Copy := ⟨s.version, s.value⟩

/-- The fields that a device is told nothing about: those it has seen, and its own clean writes. -/
def Slot.Silent (s : Slot) (device : String) (seen : Nat) : Prop :=
  s.changed ≤ seen ∨ (s.standing = .clean ∧ ∃ head, s.head = some head ∧ head.device = device)

namespace Arena

theorem mem_updates_iff (a : Arena) (device : String) (seen : Nat) (u : Update) :
    u ∈ a.updates device seen ↔
      ∃ field s, a.slots.find? field = some s ∧ update? device seen field s = some u := by
  rw [updates, List.mem_filterMap]
  constructor
  · rintro ⟨⟨field, s⟩, hmem, hu⟩
    exact ⟨field, s, (Table.mem_entries_iff ..).1 hmem, hu⟩
  · rintro ⟨field, s, hs, hu⟩
    exact ⟨(field, s), (Table.mem_entries_iff ..).2 hs, hu⟩

theorem update?_eq_some_iff {device : String} {seen : Nat} {field : String} {s : Slot}
    {u : Update} :
    update? device seen field s = some u ↔
      ∃ head, s.head = some head ∧
        ¬(s.changed ≤ seen ∨ (s.standing = .clean ∧ head.device = device)) ∧
        u = ⟨field, s.version, s.value, head.device, head.time⟩ := by
  rw [update?]
  cases s.head with
  | none => exact iff_of_false nofun fun ⟨_, h, _⟩ ↦ nomatch h
  | some head =>
    dsimp only
    split
    next hsilent =>
      refine iff_of_false nofun ?_
      rintro ⟨_, h, hnot, -⟩
      obtain rfl := Option.some.inj h
      exact hnot hsilent
    next hnot =>
      constructor
      · intro h
        exact ⟨head, rfl, hnot, (Option.some.inj h).symm⟩
      · rintro ⟨_, h, -, rfl⟩
        obtain rfl := Option.some.inj h
        rfl

theorem update?_eq_some {device : String} {seen : Nat} {field : String} {s : Slot} {u : Update}
    (h : update? device seen field s = some u) :
    u.field = field ∧ (⟨u.version, u.value⟩ : Copy) = s.copy := by
  obtain ⟨_, _, _, rfl⟩ := update?_eq_some_iff.1 h
  exact ⟨rfl, rfl⟩

theorem silent_of_update?_eq_none {device : String} {seen : Nat} {field : String} {s : Slot}
    (hs : s.Sound field) (h : update? device seen field s = none) : s.Silent device seen := by
  unfold update? at h
  split at h
  next hhead =>
    rw [hs.eq_blank_of_head hhead]
    exact .inl (Nat.zero_le _)
  next head hhead =>
    split at h
    next hsilent =>
      rcases hsilent with hseen | ⟨hclean, hdevice⟩
      · exact .inl hseen
      · exact .inr ⟨hclean, head, hhead, hdevice⟩
    next => contradiction

end Arena

namespace Replica

variable {policy : Policy} {a : Arena}

/-- Learning updates that agree on a field sets the field, unless it is right already. -/
theorem foldl_learnUpdate {updates : List Update} {field : String} {copy : Copy} {r : Replica}
    (hagree : ∀ u ∈ updates, u.field = field → (⟨u.version, u.value⟩ : Copy) = copy)
    (hsome : (∃ u ∈ updates, u.field = field) ∨ r field = copy) :
    updates.foldl learnUpdate r field = copy := by
  induction updates generalizing r with
  | nil => simpa using hsome
  | cons u updates ih =>
    rw [List.foldl_cons]
    refine ih (fun v hv ↦ hagree v (List.mem_cons_of_mem _ hv)) ?_
    by_cases hfield : u.field = field
    · right
      rw [learnUpdate, hfield, set_same]
      exact hagree u List.mem_cons_self hfield
    · rw [learnUpdate, set_of_ne r _ hfield]
      rcases hsome with ⟨v, hv, hvfield⟩ | hr
      · rcases List.mem_cons.1 hv with rfl | hv
        · contradiction
        · exact .inl ⟨v, hv, hvfield⟩
      · exact .inr hr

/-- If a replica is right on the fields that nothing is said about, taking in what was applied
keeps it so while a batch is merged. -/
theorem foldl_learnEntry (ha : a.Sound) (batch : List Diff) {device : String} {seen : Nat}
    (hseen : seen ≤ a.changes) {r : Replica}
    (hr : ∀ {field s}, a.slots.find? field = some s → s.Silent device seen → r field = s.copy)
    {field : String} {s : Slot} (hs : (a.mergeAll policy batch).1.slots.find? field = some s)
    (hsilent : s.Silent device seen) :
    (a.entries policy batch).foldl learnEntry r field = s.copy := by
  let Right (b : Arena) (past : List Entry) : Prop :=
    seen ≤ b.changes ∧ ∀ {field s}, b.slots.find? field = some s → s.Silent device seen →
      past.foldl learnEntry r field = s.copy
  suffices hright : Right (a.mergeAll policy batch).1 ([] ++ a.entries policy batch) from
    hright.2 hs hsilent
  refine Arena.mergeAll_induction batch ?_ [] ha ⟨hseen, hr⟩
  rintro b past d result - - hmerges ⟨hle, hpast⟩
  cases hmerges with
  | unknown | future | kept =>
    refine ⟨hle, fun hs hsilent ↦ ?_⟩
    rw [List.foldl_append]
    exact hpast hs hsilent
  | clean =>
    refine ⟨Nat.le_succ_of_le hle, fun {field s} hs hsilent ↦ ?_⟩
    rw [List.foldl_append]
    change (past.foldl learnEntry r).set d.field _ field = _
    rw [Arena.find?_write] at hs
    split at hs
    next hfield =>
      obtain rfl := Option.some.inj hs
      rw [hfield]
      exact set_same ..
    next hfield =>
      rw [set_of_ne _ _ hfield]
      exact hpast hs hsilent
  | displaced =>
    refine ⟨by simpa using Nat.le_succ_of_le hle, fun {field s} hs hsilent ↦ ?_⟩
    rw [List.foldl_append]
    change past.foldl learnEntry r field = _
    rw [Arena.slots_hold, Arena.find?_write] at hs
    split at hs
    next =>
      -- A field won in a conflict is told to everyone, its winner included.
      obtain rfl := Option.some.inj hs
      rcases hsilent with hseen | ⟨hclean, -⟩
      · exact absurd (Nat.le_trans hseen hle) (Nat.not_succ_le_self _)
      · cases hclean
    next => exact hpast hs hsilent

/-- A call leaves its device with the whole profile. -/
theorem learn_eq (ha : a.Sound) (c : Call) {r : Replica}
    (hr : ∀ {field s}, a.slots.find? field = some s → s.Silent c.device (a.seenBy c.device) →
      r field = s.copy)
    {field : String} {s : Slot} (hs : (a.after policy c).slots.find? field = some s) :
    r.learn (a.event policy c) field = s.copy := by
  have hmerged : (a.mergeAll policy c.stamped).1.slots.find? field = some s := hs
  refine foldl_learnUpdate (fun u hu hfield ↦ ?_) ?_
  · obtain ⟨field', s', hs', hu'⟩ := (Arena.mem_updates_iff ..).1 hu
    obtain ⟨rfl, hcopy⟩ := Arena.update?_eq_some hu'
    rw [hfield] at hs'
    obtain rfl : s' = s := Option.some.inj (hs'.symm.trans hmerged)
    exact hcopy
  · cases hu : Arena.update? c.device (a.seenBy c.device) field s with
    | some u =>
      exact .inl ⟨u, (Arena.mem_updates_iff ..).2 ⟨field, s, hmerged, hu⟩,
        (Arena.update?_eq_some hu).1⟩
    | none =>
      right
      have hsilent := Arena.silent_of_update?_eq_none ((ha.mergeAll _).slot hmerged) hu
      change (a.event policy c).outcome.applied.foldl (learnApplied c.batch _) r field = _
      rw [foldl_learnApplied ha c r]
      exact foldl_learnEntry ha c.stamped (ha.seen_le c.device) hr hmerged hsilent

/-! ## Runs -/

/-- A replica is right on every field whose last change its device has seen, and a device has seen
all changes that it made itself. -/
structure Tracks (a : Arena) (events : List Event) : Prop where
  current : ∀ {device field s}, a.slots.find? field = some s → s.changed ≤ a.seenBy device →
    ofHistory device events field = s.copy
  own : a.SeesOwn

theorem Tracks.after {events : List Event} (ha : a.Sound) (h : Tracks a events) (c : Call) :
    Tracks (a.after policy c) (events ++ [a.event policy c]) where
  current {device field s} hs hseen := by
    rw [Arena.seenBy_after ha] at hseen
    rw [ofHistory_concat, Arena.call_event]
    by_cases hdevice : c.device = device
    · subst hdevice
      rw [if_pos rfl]
      refine learn_eq ha c (fun hs hsilent ↦ ?_) hs
      rcases hsilent with hseen | ⟨-, head, hhead, hdevice⟩
      · exact h.current hs hseen
      · exact h.current hs (hdevice ▸ h.own _ _ _ hs hhead)
    · rw [if_neg hdevice] at hseen
      rw [if_neg hdevice]
      rcases (Arena.later_after ha c).slot hs with hkept | ⟨hchanged, -⟩
      · exact h.current hkept hseen
      · exact absurd (Nat.le_trans hseen (ha.seen_le device)) (Nat.not_le_of_lt hchanged)
  own := h.own.after ha c

section Engine

variable (fields : List String) (policy : Policy) (user : String)

theorem tracks_run (calls : List Call) :
    Tracks (((Engine.new fields policy).arena user).run policy calls)
      ((Engine.new fields policy).history user calls) := by
  rw [Engine.history_eq]
  have hsound := Engine.sound_arena_new fields policy user
  refine Arena.history_induction (P := Tracks) (fun c ha h ↦ h.after ha c) [] calls hsound ?_
  constructor
  · intro device field s hs hseen
    rw [Engine.eq_blank_of_find?_arena_new fields policy user hs]
    rfl
  · intro field s head hs hhead
    rw [Engine.eq_blank_of_find?_arena_new fields policy user hs] at hhead
    cases hhead

theorem seenBy_run_concat (calls : List Call) (c : Call) :
    let after := ((Engine.new fields policy).arena user).run policy (calls ++ [c])
    after.seenBy c.device = after.changes := by
  rw [Arena.run_append]
  have hsound := Engine.sound_run fields policy user calls
  exact (Arena.seenBy_after hsound c c.device).trans (if_pos rfl)

theorem ofHistory_concat_eq (calls : List Call) (last : Call) {field : String} {s : Slot}
    (hs : (((Engine.new fields policy).arena user).run policy (calls ++ [last])).slots.find? field =
      some s) :
    ofHistory last.device ((Engine.new fields policy).history user (calls ++ [last])) field =
      s.copy := by
  refine (tracks_run fields policy user _).current hs ?_
  rw [seenBy_run_concat]
  exact (Engine.sound_run fields policy user _).changed_le hs

/-- A replica stays right on a field until the field is written. -/
theorem ofHistory_append_eq (calls : List Call) (c : Call) (more : List Call) {field : String}
    {s : Slot}
    (hs : (((Engine.new fields policy).arena user).run policy (calls ++ [c])).slots.find? field =
      some s)
    (hs' : (((Engine.new fields policy).arena user).run policy (calls ++ [c] ++ more)).slots.find?
      field = some s) :
    ofHistory c.device ((Engine.new fields policy).history user (calls ++ [c] ++ more)) field =
      s.copy := by
  refine (tracks_run fields policy user _).current hs' ?_
  have hsound := Engine.sound_run fields policy user (calls ++ [c])
  rw [Arena.run_append]
  calc
    s.changed ≤ _ := hsound.changed_le hs
    _ = _ := (seenBy_run_concat fields policy user calls c).symm
    _ ≤ _ := Arena.seenBy_le_run hsound more c.device

end Engine

/-- After each of its syncs a device's replica is the profile. Two devices' replicas agree on every
field that was not written from the sync of the one to the sync of the other. -/
theorem replica_eq_profile (fields : List String) (policy : Policy) (user : String) :
    let e := Engine.new fields policy
    (∀ (calls : List Call) (last : Call), ∀ field ∈ fields,
      ∃ view, (e.run user (calls ++ [last])).field? user field = some view ∧
        ofHistory last.device (e.history user (calls ++ [last])) field =
          ⟨view.version, view.value⟩) ∧
    ∀ (calls : List Call) (c : Call) (between : List Call) (last : Call), ∀ field ∈ fields,
      ((e.run user (calls ++ [c])).field? user field).map (·.version) =
        ((e.run user (calls ++ [c] ++ (between ++ [last]))).field? user field).map (·.version) →
      ofHistory c.device (e.history user (calls ++ [c] ++ (between ++ [last]))) field =
        ofHistory last.device (e.history user (calls ++ [c] ++ (between ++ [last]))) field := by
  dsimp only
  constructor
  · intro calls last field hfield
    obtain ⟨s, hs⟩ := Engine.exists_find?_run fields policy user (calls ++ [last]) hfield
    refine ⟨s.view field, ?_, ofHistory_concat_eq fields policy user calls last hs⟩
    rw [Engine.field?_run, hs]
    rfl
  · intro calls c between last field hfield hversion
    obtain ⟨s, hs⟩ := Engine.exists_find?_run fields policy user (calls ++ [c]) hfield
    obtain ⟨t, ht⟩ := Engine.exists_find?_run fields policy user
      (calls ++ [c] ++ (between ++ [last])) hfield
    rw [Engine.field?_run, Engine.field?_run, hs, ht] at hversion
    have hlater := Engine.later_run_append fields policy user (calls ++ [c]) (between ++ [last])
    obtain rfl : s = t := hlater.eq_of_version_eq hs ht (Option.some.inj hversion)
    calc
      _ = s.copy := ofHistory_append_eq fields policy user calls c _ hs ht
      _ = _ := by
        rw [← List.append_assoc] at ht ⊢
        exact (ofHistory_concat_eq fields policy user _ last ht).symm

/-- The replicas of two devices after the one has taken the field from the other. -/
theorem replica_eq_profile_contested :
    let e := Engine.new ["dns"] .lastWriterWins
    let calls : List Call :=
      [⟨"a", [⟨"dns", 0, .text "X", "", ⟨1, 0, by decide⟩⟩], .epoch⟩,
        ⟨"b", [⟨"dns", 0, .text "Y", "", ⟨50, 0, by decide⟩⟩], .epoch⟩]
    let c : Call := ⟨"a", [], .epoch⟩
    let last : Call := ⟨"b", [], .epoch⟩
    "dns" ∈ ["dns"] ∧
    ((e.run "u" (calls ++ [c])).field? "u" "dns").map (·.version) =
      ((e.run "u" (calls ++ [c] ++ ([] ++ [last]))).field? "u" "dns").map (·.version) ∧
    ofHistory "a" (e.history "u" (calls ++ [c] ++ ([] ++ [last]))) "dns" =
      ofHistory "b" (e.history "u" (calls ++ [c] ++ ([] ++ [last]))) "dns" := by
  intro e calls c last
  have hversion : ((e.run "u" (calls ++ [c])).field? "u" "dns").map (·.version) =
      ((e.run "u" (calls ++ [c] ++ ([] ++ [last]))).field? "u" "dns").map (·.version) := by
    decide
  have hreplicas := (replica_eq_profile ["dns"] .lastWriterWins "u").2 calls c [] last
  exact ⟨by decide, hversion, hreplicas "dns" (by decide) hversion⟩

end Replica

end DeviceSync.Profile
