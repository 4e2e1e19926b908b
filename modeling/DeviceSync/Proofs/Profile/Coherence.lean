import DeviceSync.Proofs.Profile.Reachable
import DeviceSync.Proofs.Profile.Splitting
import DeviceSync.Proofs.Profile.Updates

/-!
# Coherent Profiles

A profile says some things more than once. A field is written if it has a head, a version or a last
change; the count of changes is the sum of all versions and the number of the latest change; who is
to be told of a conflict stands in the conflict and in the place where it waits. Nothing in the type
of a profile makes these agree. They agree because every write updates all of them together.

`Coherent` lists what agrees, and the main statement finds it wherever an engine can get to.
-/

namespace DeviceSync.Profile

/-- The parts of a field agree. -/
structure Slot.Coherent (name : String) (s : Slot) : Prop where
  version_eq_zero_iff : s.version = 0 ↔ s.head = none
  head_eq_none_iff : s.head = none ↔ s.changed = 0
  /-- The head is a diff of this field, made from an earlier version: from the last one before it
  exactly if it was applied without conflict. -/
  head : ∀ {d}, s.head = some d → s.value = d.value ∧ d.field = name ∧ d.base < s.version ∧
    (s.standing = .clean ↔ d.base + 1 = s.version)

theorem Slot.Sound.coherent {name : String} {s : Slot} (h : s.Sound name) : s.Coherent name := by
  cases h with
  | blank =>
    refine ⟨iff_of_true rfl rfl, iff_of_true rfl rfl, ?_⟩
    intro d hd
    cases hd
  | install s d standing change hfield hbase hstanding hchange =>
    refine ⟨iff_of_false (Nat.succ_ne_zero _) nofun, iff_of_false nofun (Nat.ne_of_gt hchange), ?_⟩
    intro head hhead
    obtain rfl := Option.some.inj hhead
    refine ⟨rfl, hfield, Nat.lt_succ_of_le hbase, hstanding.trans ?_⟩
    exact Nat.add_right_cancel_iff.symm

namespace Arena

/-- The count of changes, the versions and the last changes of the fields agree. -/
structure Numbered (a : Arena) : Prop where
  changes_eq : a.changes = a.totalVersions
  bounds : ∀ {field s}, a.slots.find? field = some s → s.head ≠ none →
    1 ≤ s.changed ∧ s.changed ≤ a.changes
  /-- No two fields were changed last by the same change. -/
  distinct : ∀ {field other s t}, field ≠ other → a.slots.find? field = some s →
    a.slots.find? other = some t → s.head ≠ none → t.head ≠ none → s.changed ≠ t.changed
  /-- The latest change is the last one of some field. -/
  latest : 0 < a.changes → ∃ field s, a.slots.find? field = some s ∧ s.head ≠ none ∧
    s.changed = a.changes

/-- Conflicts wait for the device that lost, and no device waits for one between its own diffs. -/
def HoldsApart (a : Arena) : Prop :=
  ∀ device held, a.pending.find? device = some held →
    ∀ c ∈ held, c.loser.device = device ∧ c.winner.device ≠ device

/-- No head was ever displaced. -/
structure Uncontested (a : Arena) : Prop where
  clean : ∀ {field s}, a.slots.find? field = some s → s.standing ≠ .contested
  pending : ∀ device, a.pending.find? device = none

/-- All parts of a profile agree. -/
structure Coherent (policy : Policy) (a : Arena) : Prop where
  slot : ∀ {field s}, a.slots.find? field = some s → s.Coherent field
  numbered : a.Numbered
  point_le : ∀ {device p}, a.points.find? device = some p → p.change ≤ a.changes
  holdsApart : a.HoldsApart
  uncontested : policy = .appliedWins → a.Uncontested

variable {policy : Policy} {a : Arena} {d : Diff} {result : Arena × Disposition}

/-! ## What a merge keeps -/

theorem Numbered.congr {b : Arena} (h : a.Numbered) (hslots : b.slots = a.slots)
    (hchanges : b.changes = a.changes) : b.Numbered where
  changes_eq := by
    rw [hchanges, h.changes_eq, totalVersions, totalVersions, hslots]
  bounds hs hhead := by
    rw [hslots] at hs
    rw [hchanges]
    exact h.bounds hs hhead
  distinct hne hs ht := by
    rw [hslots] at hs ht
    exact h.distinct hne hs ht
  latest hpos := by
    rw [hchanges] at hpos ⊢
    rw [hslots]
    exact h.latest hpos

/-- A write gives its field a change that is later than those of all others. -/
theorem Merges.numbered (hmerges : Merges policy a d result) (h : a.Numbered) :
    result.1.Numbered := by
  rcases hmerges.idle_or_writes with ⟨hslots, hchanges, -⟩ |
    ⟨written, standing, -, -, -, hslots, hchanges⟩
  · exact h.congr hslots hchanges
  · have hfind (field : String) : result.1.slots.find? field =
        if d.field = field then some (written.install d standing (a.changes + 1))
        else a.slots.find? field := by
      rw [hslots, Table.find?_insert]
    refine ⟨(hmerges.totalVersions h.changes_eq.symm).symm, ?_, ?_, ?_⟩
    · intro field s hs hhead
      rw [hfind] at hs
      rw [hchanges]
      split at hs
      · obtain rfl := Option.some.inj hs
        exact ⟨Nat.succ_pos _, Nat.le_refl _⟩
      · obtain ⟨hpos, hle⟩ := h.bounds hs hhead
        exact ⟨hpos, Nat.le_succ_of_le hle⟩
    · intro field other s t hne hs ht hshead hthead
      rw [hfind] at hs ht
      by_cases hfield : d.field = field
      · rw [if_pos hfield] at hs
        rw [if_neg (hfield ▸ hne)] at ht
        obtain rfl := Option.some.inj hs
        exact Nat.ne_of_gt (Nat.lt_succ_of_le (h.bounds ht hthead).2)
      · rw [if_neg hfield] at hs
        by_cases hother : d.field = other
        · rw [if_pos hother] at ht
          obtain rfl := Option.some.inj ht
          exact Nat.ne_of_lt (Nat.lt_succ_of_le (h.bounds hs hshead).2)
        · rw [if_neg hother] at ht
          exact h.distinct hne hs ht hshead hthead
    · intro _
      refine ⟨d.field, written.install d standing (a.changes + 1), ?_, nofun, hchanges.symm⟩
      rw [hfind, if_pos rfl]

/-- A conflict is only kept for a device other than the one that calls. -/
theorem HoldsApart.hold (h : a.HoldsApart) {caller : String} {c : Conflict}
    (hwinner : c.winner.device = caller) : (a.hold caller c).HoldsApart := by
  unfold Arena.hold
  by_cases hcaller : c.loser.device = caller
  · rw [if_pos hcaller]
    exact h
  · rw [if_neg hcaller]
    intro device held hheld c' hc'
    dsimp only at hheld
    rw [Table.find?_insert] at hheld
    by_cases hdevice : c.loser.device = device
    · rw [if_pos hdevice] at hheld
      obtain rfl := Option.some.inj hheld
      rcases List.mem_append.1 hc' with hold | hnew
      · cases hpending : a.pending.find? c.loser.device with
        | none =>
          rw [hpending] at hold
          cases hold
        | some earlier =>
          rw [hpending] at hold
          exact h device earlier (hdevice ▸ hpending) c' hold
      · obtain rfl := List.mem_singleton.1 hnew
        refine ⟨hdevice, fun hsame ↦ hcaller ?_⟩
        calc
          c'.loser.device = device := hdevice
          _ = c'.winner.device := hsame.symm
          _ = caller := hwinner
    · rw [if_neg hdevice] at hheld
      exact h device held hheld c' hc'

theorem Merges.holdsApart (hmerges : Merges policy a d result) (h : a.HoldsApart) :
    result.1.HoldsApart := by
  cases hmerges with
  | unknown | future | clean | kept => exact h
  | @displaced s head rule =>
    have hwritten : (a.write s d .contested).HoldsApart := h
    exact hwritten.hold rfl

/-- A policy under which the head always stays lets no diff displace another. -/
theorem Merges.uncontested (hmerges : Merges .appliedWins a d result) (h : a.Uncontested) :
    result.1.Uncontested := by
  cases hmerges with
  | unknown | future | kept => exact h
  | @clean s hslot hbase =>
    refine ⟨fun {field t} ht ↦ ?_, h.pending⟩
    rw [find?_write] at ht
    split at ht
    · obtain rfl := Option.some.inj ht
      nofun
    · exact h.clean ht
  | displaced hslot hhead hbase hverdict => cases hverdict

/-! ## What a run keeps -/

/-- What every merge and every end of a call keep is kept by a run. -/
theorem run_induction {P : Arena → Prop}
    (merge : ∀ {b : Arena} {d : Diff} {result : Arena × Disposition}, b.Sound →
      Merges policy b d result → P b → P result.1)
    (conclude : ∀ {b : Arena} (device : String) (point : SyncPoint), P b →
      P (b.conclude device point))
    (ha : a.Sound) (calls : List Call) (h : P a) : P (a.run policy calls) := by
  refine history_induction (P := fun b _ ↦ P b) ?_ [] calls ha h
  intro b past c hb hpast
  have hmerged : P (b.mergeAll policy c.stamped).1 :=
    mergeAll_induction (P := fun b _ ↦ P b) c.stamped
      (fun _ hb hmerges hP ↦ merge hb hmerges hP) [] hb hpast
  exact conclude c.device _ hmerged

end Arena

namespace Engine

variable {fields : List String} {policy : Policy} {e : Engine}

theorem numbered_run (user : String) (calls : List Call) :
    (((new fields policy).arena user).run policy calls).Numbered := by
  refine Arena.run_induction (P := Arena.Numbered) (fun _ hmerges h ↦ hmerges.numbered h)
    (fun _ _ h ↦ h.congr rfl rfl) (sound_arena_new fields policy user) calls ?_
  have hblank {field : String} {s : Slot}
      (hs : ((new fields policy).arena user).slots.find? field = some s) : s.head = none :=
    congrArg Slot.head (eq_blank_of_find?_arena_new fields policy user hs)
  refine ⟨(Arena.totalVersions_blank _).symm, ?_, ?_, fun hpos ↦ absurd hpos (Nat.lt_irrefl 0)⟩
  · intro field s hs hhead
    exact absurd (hblank hs) hhead
  · intro field other s t _ hs _ hhead
    exact absurd (hblank hs) hhead

theorem holdsApart_run (user : String) (calls : List Call) :
    (((new fields policy).arena user).run policy calls).HoldsApart := by
  refine Arena.run_induction (P := Arena.HoldsApart) (fun _ hmerges h ↦ hmerges.holdsApart h) ?_
    (sound_arena_new fields policy user) calls nofun
  intro b caller point h device held hheld
  rw [Arena.conclude, Table.find?_erase] at hheld
  split at hheld
  · cases hheld
  · exact h device held hheld

theorem uncontested_run (user : String) (calls : List Call) :
    (((new fields .appliedWins).arena user).run .appliedWins calls).Uncontested := by
  refine Arena.run_induction (P := Arena.Uncontested) (fun _ hmerges h ↦ hmerges.uncontested h) ?_
    (sound_arena_new fields .appliedWins user) calls ⟨fun hs ↦ ?_, fun _ ↦ rfl⟩
  · intro b caller point h
    refine ⟨h.clean, fun device ↦ ?_⟩
    rw [Arena.conclude, Table.find?_erase, h.pending, ite_self]
  · rw [eq_blank_of_find?_arena_new fields .appliedWins user hs]
    decide

/-- Wherever an engine gets to, the parts of every profile agree. -/
theorem coherent_of_reaches_new (h : (new fields policy).Reaches e) (user : String) :
    (e.arena user).Coherent policy := by
  obtain ⟨calls, hcalls⟩ := h.exists_run user
  have hrun : e.arena user = ((new fields policy).arena user).run policy calls := hcalls
  rw [hrun]
  have hsound : (((new fields policy).arena user).run policy calls).Sound :=
    sound_run fields policy user calls
  refine ⟨fun hs ↦ (hsound.slot hs).coherent, numbered_run user calls, ?_,
    holdsApart_run user calls, ?_⟩
  · intro device p hp
    have hle := hsound.seen_le device
    rw [Arena.seenBy, hp] at hle
    exact hle
  · rintro rfl
    exact uncontested_run user calls

/-- A profile in which a field was displaced, and the conflict waits for the device that lost. -/
theorem coherent_of_reaches_new_displaced :
    let calls : List Call :=
      [⟨"a", [⟨"dns", 0, .text "X", "", ⟨1, 0, by decide⟩⟩], .epoch⟩,
        ⟨"b", [⟨"dns", 0, .text "Y", "", ⟨50, 0, by decide⟩⟩], .epoch⟩]
    let e := (new ["dns", "rules"] .lastWriterWins).run "u" calls
    (new ["dns", "rules"] .lastWriterWins).Reaches e ∧
      (e.arena "u").Coherent .lastWriterWins ∧ (e.arena "u").totalVersions = 2 ∧
      ∃ c held, (e.arena "u").pending.find? "a" = some held ∧ c ∈ held ∧
        c.loser.device = "a" ∧ c.winner.device ≠ "a" := by
  intro calls e
  have hreaches : (new ["dns", "rules"] .lastWriterWins).Reaches e := .run _ "u" calls
  have hcoherent : (e.arena "u").Coherent .lastWriterWins :=
    coherent_of_reaches_new hreaches "u"
  obtain ⟨c, hheld⟩ : ∃ c, (e.arena "u").pending.find? "a" = some [c] := ⟨_, rfl⟩
  exact ⟨hreaches, hcoherent, hcoherent.numbered.changes_eq.symm, c, [c], hheld,
    List.mem_cons_self, hcoherent.holdsApart "a" [c] hheld c List.mem_cons_self⟩

end Engine

end DeviceSync.Profile
