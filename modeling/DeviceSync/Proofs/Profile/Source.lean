import DeviceSync.Proofs.Profile.Reachable
import DeviceSync.Proofs.Profile.Updates

/-!
# What a Profile Is Made Of

A profile makes up nothing. Its fields hold values of diffs that were sent, and its conflicts are
between such diffs; so whatever is true of every diff that was ever sent is true of all that a
device is told. No version is greater than the number of changes, and so none is greater than the
sync point that comes with it.
-/

namespace DeviceSync.Profile

variable {P : Diff → Prop}

/-- Whether both diffs of a conflict have a property. -/
def Conflict.Between (P : Diff → Prop) (c : Conflict) : Prop :=
  P c.winner ∧ P c.loser

/-- Whether all diffs in a profile have a property; and the versions are not ahead of the count of
changes. -/
structure Arena.MadeOf (P : Diff → Prop) (a : Arena) : Prop where
  head : ∀ {field s d}, a.slots.find? field = some s → s.head = some d → P d
  held : ∀ {device c}, c ∈ a.heldFor device → c.Between P
  version_le : ∀ {field s}, a.slots.find? field = some s → s.version ≤ a.changes

/-- What is told of a diff when there have been so many changes. -/
def Disposition.TellsOf (P : Diff → Prop) (changes : Nat) : Disposition → Prop
  | .rejected _ => True
  | .applied version => version ≤ changes
  | .settled c => c.Between P

theorem Disposition.TellsOf.mono {changes changes' : Nat} (hle : changes ≤ changes')
    {fate : Disposition} (h : fate.TellsOf P changes) : fate.TellsOf P changes' := by
  cases fate with
  | rejected e => trivial
  | applied version => exact Nat.le_trans h hle
  | settled c => exact h

theorem Disposition.of_applied?_eq_some {d : Diff} {fate : Disposition} {x : Applied}
    (h : applied? (d, fate) = some x) :
    ∃ version, fate = .applied version ∧ ⟨d.field, version⟩ = x := by
  cases fate with
  | applied version => exact ⟨version, rfl, Option.some.inj h⟩
  | rejected | settled => cases h

theorem Disposition.of_settled?_eq_some {fate : Disposition} {c : Conflict}
    (h : fate.settled? = some c) : fate = .settled c := by
  cases fate with
  | settled c' => exact congrArg _ (Option.some.inj h)
  | rejected | applied => cases h

/-- What a device is told when it has sent a batch of some size. -/
structure Outcome.TellsOf (P : Diff → Prop) (size : Nat) (o : Outcome) : Prop where
  applied : ∀ x ∈ o.applied, x.version ≤ o.syncPoint
  conflicts : ∀ c ∈ o.conflicts, c.Between P
  rejected : ∀ r ∈ o.rejected, r.index < size
  updates : ∀ u ∈ o.updates, u.version ≤ o.syncPoint ∧ ∃ d, P d ∧ u.value = d.value

namespace Arena

variable {policy : Policy} {a : Arena}

theorem madeOf_blank (fields : List String) : (blank fields).MadeOf P where
  head hs hhead := by
    rw [find?_blank] at hs
    split at hs
    · obtain rfl := Option.some.inj hs
      cases hhead
    · cases hs
  held hc := nomatch hc
  version_le hs := by
    rw [find?_blank] at hs
    split at hs
    · obtain rfl := Option.some.inj hs
      exact Nat.le_refl 0
    · cases hs

namespace MadeOf

/-- A diff that takes its field. -/
theorem write (ha : a.MadeOf P) {s : Slot} {d : Diff} (hd : P d) (standing : Standing)
    (hslot : a.slots.find? d.field = some s) : (a.write s d standing).MadeOf P where
  head {field t e} ht hhead := by
    rw [find?_write] at ht
    split at ht
    · obtain rfl := Option.some.inj ht
      exact Option.some.inj hhead ▸ hd
    · exact ha.head ht hhead
  held hc := ha.held hc
  version_le {field t} ht := by
    rw [find?_write] at ht
    split at ht
    · obtain rfl := Option.some.inj ht
      exact Nat.succ_le_succ (ha.version_le hslot)
    · exact Nat.le_succ_of_le (ha.version_le ht)

theorem hold (ha : a.MadeOf P) (caller : String) {c : Conflict} (hc : c.Between P) :
    (a.hold caller c).MadeOf P where
  head ht := by
    rw [slots_hold] at ht
    exact ha.head ht
  held {device c'} hmem := by
    rw [heldFor_hold] at hmem
    rcases List.mem_append.1 hmem with hmem | hmem
    · exact ha.held hmem
    · split at hmem
      · exact List.mem_singleton.1 hmem ▸ hc
      · cases hmem
  version_le ht := by
    rw [slots_hold] at ht
    rw [changes_hold]
    exact ha.version_le ht

theorem merge (ha : a.MadeOf P) {d : Diff} (hd : P d) {result : Arena × Disposition}
    (hmerges : Merges policy a d result) :
    result.1.MadeOf P ∧ a.changes ≤ result.1.changes ∧
      result.2.TellsOf P result.1.changes := by
  cases hmerges with
  | unknown | future => exact ⟨ha, Nat.le_refl _, trivial⟩
  | clean hslot =>
    exact ⟨ha.write hd .clean hslot, Nat.le_succ _, Nat.succ_le_succ (ha.version_le hslot)⟩
  | @displaced s head rule hslot hhead =>
    let c : Conflict := ⟨d.field, d, head, policy, rule⟩
    have hbetween : c.Between P := ⟨hd, ha.head hslot hhead⟩
    refine ⟨(ha.write hd .contested hslot).hold d.device hbetween, ?_, hbetween⟩
    rw [changes_hold]
    exact Nat.le_succ _
  | kept hslot hhead => exact ⟨ha, Nat.le_refl _, ha.head hslot hhead, hd⟩

theorem mergeAll (hsound : a.Sound) (ha : a.MadeOf P) {batch : List Diff}
    (hbatch : ∀ d ∈ batch, P d) :
    (a.mergeAll policy batch).1.MadeOf P ∧
      ∀ fate ∈ (a.mergeAll policy batch).2, fate.TellsOf P (a.mergeAll policy batch).1.changes := by
  rw [← map_fate_entries, List.forall_mem_map]
  refine mergeAll_induction (P := fun b past ↦ b.MadeOf P ∧
    ∀ e ∈ past, e.fate.TellsOf P b.changes) batch ?_ [] hsound ⟨ha, List.forall_mem_nil _⟩
  rintro b past d result hd - hmerges ⟨hb, hpast⟩
  obtain ⟨hresult, hchanges, hfate⟩ := hb.merge (hbatch d hd) hmerges
  refine ⟨hresult, fun e he ↦ ?_⟩
  rcases List.mem_append.1 he with he | he
  · exact (hpast e he).mono hchanges
  · exact List.mem_singleton.1 he ▸ hfate

variable (hstamp : ∀ device {d}, P d → P (d.stamp device))
include hstamp

/-- A call keeps a profile made of diffs with a property, and tells of such diffs only. -/
theorem after (hsound : a.Sound) (ha : a.MadeOf P) {c : Call} (hbatch : ∀ d ∈ c.batch, P d) :
    (a.after policy c).MadeOf P ∧ (a.event policy c).outcome.TellsOf P c.batch.length := by
  have hstamped : ∀ d ∈ c.stamped, P d := by
    rw [Call.stamped, List.forall_mem_map]
    exact fun d hd ↦ hstamp c.device (hbatch d hd)
  obtain ⟨hmerged, hfates⟩ := @mergeAll P policy a hsound ha _ hstamped
  have hsyncPoint : (a.event policy c).outcome.syncPoint = _ := syncPoint_event hsound c
  rw [changes_after] at hsyncPoint
  refine ⟨⟨hmerged.head, fun hc ↦ ?_, hmerged.version_le⟩, ?_, ?_, ?_, ?_⟩
  · rw [heldFor_after] at hc
    split at hc
    · cases hc
    · exact hmerged.held hc
  · intro x hx
    rw [applied_event] at hx
    obtain ⟨e, he, hx⟩ := List.mem_filterMap.1 hx
    have hfate := hfates e.fate (map_fate_entries .. ▸ List.mem_map_of_mem he)
    obtain ⟨version, heq, rfl⟩ := Disposition.of_applied?_eq_some hx
    rw [heq] at hfate
    exact hsyncPoint ▸ hfate
  · intro conflict hconflict
    rw [conflicts_event, settled_event] at hconflict
    rcases List.mem_append.1 hconflict with hconflict | hconflict
    · obtain ⟨fate, hfate, hsettled⟩ := List.mem_filterMap.1 hconflict
      have hfate := hfates fate hfate
      rw [Disposition.of_settled?_eq_some hsettled] at hfate
      exact hfate
    · exact hmerged.held hconflict
  · intro r hr
    obtain ⟨index, e, error, he, -, rfl⟩ := (mem_rejected_event ..).1 hr
    have hlength : (a.entries policy c.stamped).length = c.batch.length := by
      rw [← List.length_map (·.diff), map_diff_entries, Call.stamped, List.length_map]
    exact hlength ▸ (List.getElem?_eq_some_iff.1 he).1
  · intro u hu
    obtain ⟨field, s, hs, hu⟩ := (mem_updates_iff ..).1 hu
    obtain ⟨head, hhead, -, rfl⟩ := update?_eq_some_iff.1 hu
    have hvalue := ((hsound.mergeAll c.stamped).slot hs).head_value hhead
    exact ⟨hsyncPoint ▸ hmerged.version_le hs, head, hmerged.head hs hhead, hvalue⟩

end MadeOf

end Arena

/-- Whether the profiles of all users are made of diffs with a property. -/
def Engine.MadeOf (P : Diff → Prop) (e : Engine) : Prop :=
  ∀ user, (e.arena user).Sound ∧ (e.arena user).MadeOf P

namespace Engine

theorem madeOf_new (fields : List String) (policy : Policy) : (new fields policy).MadeOf P :=
  fun user ↦ ⟨sound_arena_new fields policy user, Arena.madeOf_blank _⟩

/-- A call of one user's device keeps the profiles of all users. -/
theorem MadeOf.sync (hstamp : ∀ device {d}, P d → P (d.stamp device)) {e : Engine}
    (he : e.MadeOf P) (user device : String) {batch : List Diff} (hbatch : ∀ d ∈ batch, P d)
    (now : Instant) :
    (e.sync user device batch now).1.MadeOf P ∧
      (e.sync user device batch now).2.TellsOf P batch.length := by
  let c : Call := ⟨device, batch, now⟩
  obtain ⟨hsound, hmade⟩ := he user
  obtain ⟨hafter, htells⟩ : ((e.arena user).after e.policy c).MadeOf P ∧
      ((e.arena user).event e.policy c).outcome.TellsOf P batch.length :=
    hmade.after hstamp hsound hbatch
  refine ⟨fun other ↦ ?_, htells⟩
  by_cases huser : user = other
  · subst huser
    rw [arena_sync]
    exact ⟨hsound.run [c], hafter⟩
  · rw [arena_sync_of_ne _ _ _ _ _ huser]
    exact he other

end Engine

end DeviceSync.Profile
