import DeviceSync.Proofs.Profile.Rank
import DeviceSync.Proofs.Profile.Reachable

/-!
# Retries are Idle

A device that does not know whether its call arrived sends the batch again. The main statement says
that this is safe at any later time: nothing is applied, no field changes, no other device hears of
it, and the device is told of every diff that it had lost before or is now late.

A diff that was taken in once is kept out by its field from then on. Its base is below the version
that it met, so it is late whenever it comes back, and the head it then meets is itself or a diff
that has come to be preferred to it. The order of heads is transitive, so no number of writes in
between lets it win again.
-/

namespace DeviceSync.Profile

/-- The diff is late for the field and loses to its head. -/
structure Slot.KeepsOut (policy : Policy) (s : Slot) (x : Diff) : Prop where
  base_lt : x.base < s.version
  verdict : ∃ head, s.head = some head ∧ (policy.resolve head x).winner = .incumbent

namespace Slot.KeepsOut

variable {policy : Policy} {s t : Slot} {d x : Diff} {e : Entry}

/-- A field keeps out a diff that it has accepted. -/
theorem of_accepts (haccepts : s.Accepts policy d (t, e)) : t.KeepsOut policy d := by
  cases haccepts with
  | clean hbase change =>
    exact ⟨Nat.lt_succ_of_le hbase.le, d, rfl, policy.resolve_self d⟩
  | displaced hhead hbase hverdict change =>
    exact ⟨Nat.lt_succ_of_lt hbase, d, rfl, policy.resolve_self d⟩
  | kept hhead hbase hverdict =>
    exact ⟨hbase, _, hhead, congrArg Verdict.winner hverdict⟩

/-- A field goes on keeping out a diff whatever else it accepts. -/
theorem step (hkeeps : s.KeepsOut policy x) (haccepts : s.Accepts policy d (t, e)) :
    t.KeepsOut policy x := by
  obtain ⟨holder, hholder, hwinner⟩ := hkeeps.verdict
  cases haccepts with
  | clean hbase change =>
    have hlt : x.base < d.base := by
      rw [hbase]
      exact hkeeps.base_lt
    exact ⟨Nat.lt_succ_of_lt hkeeps.base_lt, d, rfl, policy.resolve_of_base_lt hlt⟩
  | displaced hhead hbase hverdict change =>
    obtain rfl := Option.some.inj (hholder.symm.trans hhead)
    have htaken := congrArg Verdict.winner hverdict
    exact ⟨Nat.lt_succ_of_lt hkeeps.base_lt, d, rfl, policy.resolve_trans htaken hwinner⟩
  | kept => exact hkeeps

end Slot.KeepsOut

namespace Arena

variable {policy : Policy} {a : Arena} {x : Diff}

/-- The profile has the diff's field, and the field keeps the diff out. -/
def KeepsOut (policy : Policy) (a : Arena) (x : Diff) : Prop :=
  ∃ s, a.slots.find? x.field = some s ∧ s.KeepsOut policy x

theorem Merges.keepsOut {d : Diff} {result : Arena × Disposition}
    (hmerges : Merges policy a d result) (hkeeps : a.KeepsOut policy x) :
    result.1.KeepsOut policy x := by
  obtain ⟨s, hs, hslot⟩ := hkeeps
  rcases hmerges.refused_or_accepts with ⟨hslots, -⟩ | ⟨u, t, hu, -, haccepts, hfind⟩
  · rw [KeepsOut, hslots]
    exact ⟨s, hs, hslot⟩
  · rw [KeepsOut, hfind]
    by_cases hfield : d.field = x.field
    · rw [hfield] at hu
      obtain rfl := Option.some.inj (hs.symm.trans hu)
      exact ⟨t, if_pos hfield, hslot.step haccepts⟩
    · exact ⟨s, (if_neg hfield).trans hs, hslot⟩

theorem keepsOut_run (ha : a.Sound) (calls : List Call) (hkeeps : a.KeepsOut policy x) :
    (a.run policy calls).KeepsOut policy x := by
  refine history_induction (P := fun b _ ↦ b.KeepsOut policy x) ?_ [] calls ha hkeeps
  intro b past c hb hpast
  exact mergeAll_induction (P := fun b _ ↦ b.KeepsOut policy x) c.stamped
    (fun _ _ hmerges ↦ hmerges.keepsOut) [] hb hpast

/-- After a batch the profile keeps out every diff of the batch that was accepted. -/
theorem keepsOut_of_mem_entries (ha : a.Sound) {batch : List Diff} {e : Entry}
    (he : e ∈ a.entries policy batch) (haccepted : e.fate.accepted = true) :
    (a.mergeAll policy batch).1.KeepsOut policy e.diff := by
  refine mergeAll_induction
    (P := fun b past ↦ ∀ e ∈ past, e.fate.accepted = true → b.KeepsOut policy e.diff)
    batch ?_ [] ha (fun _ h ↦ absurd h List.not_mem_nil) e he haccepted
  intro b past d result _ _ hmerges hpast e he haccepted
  rcases List.mem_append.1 he with he | he
  · exact hmerges.keepsOut (hpast e he haccepted)
  · obtain rfl := List.mem_singleton.1 he
    rcases hmerges.refused_or_accepts with ⟨-, hrefused⟩ | ⟨s, t, -, -, haccepts, hfind⟩
    · rw [hrefused] at haccepted
      contradiction
    · exact ⟨t, (hfind d.field).trans (if_pos rfl), .of_accepts haccepts⟩

/-- A refused diff is one for a field that the profile does not have, or one made from a version
that does not exist yet. -/
theorem of_refused (ha : a.Sound) {batch : List Diff} {e : Entry}
    (he : e ∈ a.entries policy batch) (hrefused : e.fate.accepted = false) :
    a.slots.find? e.diff.field = none ∨
      ∃ declared current, e.fate = .rejected (.futureBase e.diff.field declared current) := by
  refine (mergeAll_induction
    (P := fun b past ↦ Later (fun _ ↦ True) a b ∧ ∀ e ∈ past, e.fate.accepted = false →
      a.slots.find? e.diff.field = none ∨
        ∃ declared current, e.fate = .rejected (.futureBase e.diff.field declared current))
    batch ?_ [] ha ⟨.refl a, fun _ h ↦ absurd h List.not_mem_nil⟩).2 e he hrefused
  rintro b past d result - - hmerges ⟨hlater, hpast⟩
  refine ⟨hlater.trans (hmerges.later trivial), ?_⟩
  intro e he hrefused
  rcases List.mem_append.1 he with he | he
  · exact hpast e he hrefused
  · obtain rfl := List.mem_singleton.1 he
    cases hmerges with
    | unknown hslot =>
      have hnone := hlater.isSome_eq d.field
      rw [hslot] at hnone
      exact .inl (Option.isNone_iff_eq_none.1 (Option.isSome_eq_false_iff.1 hnone.symm))
    | future => exact .inr ⟨_, _, rfl⟩
    | clean | displaced | kept => exact absurd hrefused (by simp [entryOf, Disposition.accepted])

/-! ## A batch that is kept out -/

theorem merge_of_keepsOut (ha : a.Sound) (hkeeps : a.KeepsOut policy x) :
    ∃ c : Conflict, a.merge policy x = (a, .settled c) ∧ c.loser = x := by
  obtain ⟨s, hs, hslot⟩ := hkeeps
  obtain ⟨holder, hholder, hwinner⟩ := hslot.verdict
  have hbase := hslot.base_lt
  have hmerges := merges_merge ha policy x
  generalize a.merge policy x = result at hmerges ⊢
  cases hmerges with
  | unknown hnone => rw [hnone] at hs; contradiction
  | future hu hlt =>
    obtain rfl := Option.some.inj (hs.symm.trans hu)
    omega
  | clean hu heq =>
    obtain rfl := Option.some.inj (hs.symm.trans hu)
    omega
  | displaced hu hhead _ hverdict =>
    obtain rfl := Option.some.inj (hs.symm.trans hu)
    obtain rfl := Option.some.inj (hholder.symm.trans hhead)
    rw [hverdict] at hwinner
    contradiction
  | kept => exact ⟨_, rfl, rfl⟩

theorem mergeAll_cons_of_eq {d : Diff} {fate : Disposition} (batch : List Diff)
    (hmerge : a.merge policy d = (a, fate)) :
    a.mergeAll policy (d :: batch) =
      ((a.mergeAll policy batch).1, fate :: (a.mergeAll policy batch).2) := by
  rw [mergeAll, hmerge]

/-- A batch whose known diffs are all kept out changes nothing, applies nothing, and settles one
conflict for each of them, which it loses. -/
theorem mergeAll_of_keepsOut (ha : a.Sound) {batch : List Diff}
    (hkeeps : ∀ d ∈ batch, a.slots.find? d.field = none ∨ a.KeepsOut policy d) :
    (a.mergeAll policy batch).1 = a ∧
      (∀ fate ∈ (a.mergeAll policy batch).2, ∀ version, fate ≠ .applied version) ∧
      ((a.mergeAll policy batch).2.filterMap Disposition.settled?).map (·.loser) =
        batch.filter fun d ↦ (a.slots.find? d.field).isSome := by
  induction batch with
  | nil => exact ⟨rfl, fun _ h ↦ absurd h List.not_mem_nil, rfl⟩
  | cons d batch ih =>
    obtain ⟨harena, hfates, hlosers⟩ := ih fun x hx ↦ hkeeps x (List.mem_cons_of_mem _ hx)
    rcases hkeeps d List.mem_cons_self with hnone | hkept
    · have hmerge : a.merge policy d = (a, .rejected (.unknownField d.field)) := by
        rw [merge, hnone]
      rw [mergeAll_cons_of_eq batch hmerge, List.filter_cons, hnone]
      refine ⟨harena, List.forall_mem_cons.2 ⟨by simp, hfates⟩, hlosers⟩
    · obtain ⟨c, hmerge, hloser⟩ := merge_of_keepsOut ha hkept
      obtain ⟨s, hs, -⟩ := hkept
      rw [mergeAll_cons_of_eq batch hmerge, List.filter_cons, hs]
      refine ⟨harena, List.forall_mem_cons.2 ⟨by simp, hfates⟩, ?_⟩
      calc
        _ = c.loser :: _ := List.map_cons ..
        _ = _ := by rw [hloser, hlosers, if_pos Option.isSome_some]

/-! ## Submitting a batch again -/

/-- After a call that reports no base from the future, the profile keeps out every diff of the call
that it has a field for. -/
theorem keepsOut_after (ha : a.Sound) (c : Call)
    (hfuture : ∀ r ∈ (a.event policy c).outcome.rejected, r.code ≠ "future_base_version")
    {d : Diff} (hd : d ∈ c.stamped) :
    a.slots.find? d.field = none ∨ (a.after policy c).KeepsOut policy d := by
  rw [← map_diff_entries policy a c.stamped] at hd
  obtain ⟨e, he, rfl⟩ := List.mem_map.1 hd
  cases haccepted : e.fate.accepted with
  | true => exact .inr (keepsOut_of_mem_entries ha he haccepted)
  | false =>
    rcases of_refused ha he haccepted with hnone | ⟨declared, current, hfate⟩
    · exact .inl hnone
    · obtain ⟨index, hindex⟩ := List.mem_iff_getElem?.1 he
      have hreported := (mem_rejected_event policy a c _).2 ⟨index, e, _, hindex, hfate, rfl⟩
      exact absurd rfl (hfuture _ hreported)

/-- A call whose known diffs are all kept out leaves the profile as it is, but for what its own
device is told. -/
theorem idle_of_keepsOut (ha : a.Sound) (c : Call)
    (hkeeps : ∀ d ∈ c.stamped, a.slots.find? d.field = none ∨ a.KeepsOut policy d) :
    (a.event policy c).outcome.applied = [] ∧
      (a.event policy c).settled.map (·.loser) =
        c.stamped.filter (fun d ↦ (a.slots.find? d.field).isSome) ∧
      (a.after policy c).slots = a.slots ∧ (a.after policy c).changes = a.changes ∧
      ∀ device, device ≠ c.device → (a.after policy c).heldFor device = a.heldFor device := by
  obtain ⟨harena, hfates, hlosers⟩ := mergeAll_of_keepsOut ha hkeeps
  refine ⟨?_, ?_, ?_, ?_, ?_⟩
  · rw [applied_event]
    apply List.filterMap_eq_nil_iff.2
    intro e he
    have hfate : e.fate ∈ (a.mergeAll policy c.stamped).2 := by
      rw [← map_fate_entries]
      exact List.mem_map_of_mem he
    cases hf : e.fate with
    | applied version => exact absurd hf (hfates _ hfate version)
    | rejected | settled => rfl
  · rw [settled_event]
    exact hlosers
  · rw [slots_after, harena]
  · rw [changes_after, harena]
  · intro device hdevice
    rw [heldFor_after, if_neg (Ne.symm hdevice), harena]

end Arena

namespace Engine

/-- A batch of which no diff was refused for a base from the future may be sent again at any later
time. Nothing is applied, every field and the count of changes stay as they are, the calling device
loses one conflict for every diff of a known field, and nothing new is held for the others. -/
theorem sync_again_idle {fields : List String} {policy : Policy} {e : Engine}
    (he : (new fields policy).Reaches e) (user : String) (c : Call)
    (hfuture : ∀ r ∈ (e.sync user c.device c.batch c.time).2.rejected,
      r.code ≠ "future_base_version")
    {later : Engine} (hlater : (e.sync user c.device c.batch c.time).1.Reaches later)
    (now : Instant) :
    let again := later.sync user c.device c.batch now
    again.2.applied = [] ∧
      (∀ field, again.1.field? user field = later.field? user field) ∧
      (again.1.arena user).slots = (later.arena user).slots ∧
      (again.1.arena user).changes = (later.arena user).changes ∧
      again.2.resolved = (c.batch.filter (·.field ∈ fields)).length ∧
      (again.2.conflicts.take again.2.resolved).map (·.loser) =
        (c.batch.filter (·.field ∈ fields)).map (Diff.stamp c.device) ∧
      ∀ device, device ≠ c.device →
        (again.1.arena user).heldFor device = (later.arena user).heldFor device := by
  intro again
  have hreaches : (new fields policy).Reaches later := (he.tail ⟨user, c, rfl⟩).trans hlater
  have hpolicy : e.policy = policy := he.policy_eq
  have hpolicy' : later.policy = policy := hreaches.policy_eq
  have hsound := sound_of_reaches_new he user
  let c' : Call := ⟨c.device, c.batch, now⟩
  have hkeeps : ∀ d ∈ c'.stamped, (later.arena user).slots.find? d.field = none ∨
      (later.arena user).KeepsOut policy d := by
    intro d hd
    rw [outcome_sync_eq_event, hpolicy] at hfuture
    rcases Arena.keepsOut_after hsound c hfuture hd with hnone | hkept
    · left
      have hsome := isSome_find?_of_reaches_new he user d.field
      rw [hnone, ← isSome_find?_of_reaches_new hreaches] at hsome
      exact Option.isNone_iff_eq_none.1 (Option.isSome_eq_false_iff.1 hsome.symm)
    · right
      obtain ⟨calls, hcalls⟩ := hlater.exists_run user
      rw [arena_sync_eq_after, policy_sync, hpolicy] at hcalls
      rw [hcalls]
      exact Arena.keepsOut_run (hsound.after c) calls hkept
  obtain ⟨happlied, hlosers, hslots, hchanges, hheld⟩ :=
    Arena.idle_of_keepsOut (sound_of_reaches_new hreaches user) c' hkeeps
  have hknown : c'.stamped.filter (fun d ↦ ((later.arena user).slots.find? d.field).isSome) =
      (c.batch.filter (·.field ∈ fields)).map (Diff.stamp c.device) := by
    rw [Call.stamped, List.filter_map]
    congr 1
    apply List.filter_congr
    intro d _
    exact isSome_find?_of_reaches_new hreaches user d.field
  rw [hknown] at hlosers
  have houtcome : again.2 = ((later.arena user).event policy c').outcome := by
    rw [← hpolicy']
    rfl
  have harena : again.1.arena user = (later.arena user).after policy c' := by
    rw [← hpolicy']
    exact arena_sync_eq_after later user c'
  rw [houtcome, harena, Arena.resolved_event]
  refine ⟨happlied, ?_, hslots, hchanges, ?_, ?_, hheld⟩
  · intro field
    rw [field?, harena, hslots]
    rfl
  · rw [← List.length_map (Diff.stamp c.device), ← hlosers, List.length_map]
  · rw [← Arena.resolved_event, Arena.take_conflicts_event]
    exact hlosers

/-- A diff sent again after another device has taken its field, beside one for an unknown field. -/
theorem sync_again_idle_displaced :
    let c : Call := ⟨"a", [⟨"dns", 0, .text "X", "", ⟨1, 0, by decide⟩⟩,
      ⟨"vpn", 0, .text "Z", "", ⟨1, 0, by decide⟩⟩], .epoch⟩
    let taken : Call := ⟨"b", [⟨"dns", 0, .text "Y", "", ⟨50, 0, by decide⟩⟩], .epoch⟩
    let first := (new ["dns"] .lastWriterWins).sync "u" c.device c.batch c.time
    let later := first.1.run "u" [taken]
    (∀ r ∈ first.2.rejected, r.code ≠ "future_base_version") ∧ first.1.Reaches later ∧
      (later.sync "u" c.device c.batch .epoch).2.applied = [] ∧
      (later.sync "u" c.device c.batch .epoch).2.resolved = 1 ∧
      ∀ field, (later.sync "u" c.device c.batch .epoch).1.field? "u" field =
        later.field? "u" field := by
  intro c taken first later
  have hfuture : ∀ r ∈ first.2.rejected, r.code ≠ "future_base_version" := by decide
  have hlater : first.1.Reaches later := .run first.1 "u" [taken]
  have hidle := sync_again_idle .refl "u" c hfuture hlater .epoch
  exact ⟨hfuture, hlater, hidle.1, hidle.2.2.2.2.1, hidle.2.1⟩

end Engine

end DeviceSync.Profile
