import DeviceSync.Proofs.Profile.History
import DeviceSync.Proofs.Profile.Rank

/-!
# The Head is the Greatest Diff

Under last-writer-wins a field belongs to the greatest diff that was ever accepted for it, and to
the earliest of several equal ones. A diff that is applied without conflict takes its field without
being compared to anything. It is the greatest because every diff accepted before it has a base
below the version of the field, which is the base of the new one.
-/

namespace DeviceSync.Profile

/-- The entry `e` at place `i` is that of the greatest diff of a field, and of the first among
those that are as great. -/
structure IsFirstMaximum (h : List Entry) (field : String) (i : Nat) (e : Entry) : Prop where
  get : h[i]? = some e
  field_eq : e.diff.field = field
  greatest : ∀ j other, h[j]? = some other → other.diff.field = field →
    other.diff.key < e.diff.key ∨ (other.diff.key = e.diff.key ∧ i ≤ j)

namespace IsFirstMaximum

variable {h : List Entry} {field : String} {i : Nat} {e new : Entry}

theorem key_le (hmax : IsFirstMaximum h field i e) {other : Entry} (hmem : other ∈ h)
    (hfield : other.diff.field = field) : other.diff.key ≤ e.diff.key := by
  obtain ⟨j, hj⟩ := List.mem_iff_getElem?.1 hmem
  rcases hmax.greatest j other hj hfield with hlt | ⟨heq, -⟩
  · exact hlt.le
  · exact heq.le

/-- A maximum stays one when a diff of another field or one that is not greater comes last. -/
theorem concat (hmax : IsFirstMaximum h field i e)
    (hnew : new.diff.field = field → new.diff.key ≤ e.diff.key) :
    IsFirstMaximum (h ++ [new]) field i e where
  get := getElem?_concat_eq_some_iff.2 (.inl hmax.get)
  field_eq := hmax.field_eq
  greatest j other hj hfield := by
    rcases getElem?_concat_eq_some_iff.1 hj with hj | ⟨rfl, rfl⟩
    · exact hmax.greatest j other hj hfield
    · have hi : i < h.length := (List.getElem?_eq_some_iff.1 hmax.get).1
      exact (hnew hfield).lt_or_eq.imp_right fun heq ↦ ⟨heq, hi.le⟩

/-- A diff that is greater than all of its field before it is the new maximum. -/
theorem of_forall_lt (hnew : ∀ other ∈ h, other.diff.field = new.diff.field →
    other.diff.key < new.diff.key) :
    IsFirstMaximum (h ++ [new]) new.diff.field h.length new where
  get := List.getElem?_concat_length
  field_eq := rfl
  greatest j other hj hfield := by
    rcases getElem?_concat_eq_some_iff.1 hj with hj | ⟨rfl, rfl⟩
    · exact .inl (hnew other (List.mem_of_getElem? hj) hfield)
    · exact .inr ⟨rfl, Nat.le_refl _⟩

end IsFirstMaximum

/-- What a run keeps true of a field: its accepted diffs were made from versions below the present
one, and its head is the first of the greatest. -/
structure Crowned (field : String) (s : Slot) (h : List Entry) : Prop where
  base_lt : ∀ e ∈ h, e.diff.field = field → e.diff.base < s.version
  head : ∀ {d}, s.head = some d → ∃ i e, IsFirstMaximum h field i e ∧ e.diff = d

namespace Crowned

variable {field : String} {s t : Slot} {h : List Entry} {d : Diff} {e : Entry}

theorem frame (hother : e.diff.field ≠ field) (hcrowned : Crowned field s h) :
    Crowned field s (h ++ [e]) where
  base_lt e' he' hfield := by
    rcases List.mem_append.1 he' with he' | he'
    · exact hcrowned.base_lt e' he' hfield
    · obtain rfl := List.mem_singleton.1 he'
      exact absurd hfield hother
  head hhead := by
    obtain ⟨i, e', hmax, hdiff⟩ := hcrowned.head hhead
    exact ⟨i, e', hmax.concat fun hfield ↦ absurd hfield hother, hdiff⟩

/-- A new head that is greater than every diff of its field before it. -/
theorem install (hcrowned : Crowned e.diff.field s h) (standing : Standing) (change : Nat)
    (hbase : e.diff.base ≤ s.version)
    (hnew : ∀ other ∈ h, other.diff.field = e.diff.field → other.diff.key < e.diff.key) :
    Crowned e.diff.field (s.install e.diff standing change) (h ++ [e]) where
  base_lt e' he' hfield := by
    rcases List.mem_append.1 he' with he' | he'
    · exact Nat.lt_succ_of_lt (hcrowned.base_lt e' he' hfield)
    · obtain rfl := List.mem_singleton.1 he'
      exact Nat.lt_succ_of_le hbase
  head hhead := ⟨h.length, e, .of_forall_lt hnew, Option.some.inj hhead⟩

theorem step (haccepts : s.Accepts .lastWriterWins d (t, e)) (hcrowned : Crowned d.field s h) :
    Crowned d.field t (h ++ [e]) := by
  cases haccepts with
  | clean hbase change =>
    -- The diff is compared to nothing, but every earlier base is below its own.
    let e : Entry := ⟨d, .applied (s.version + 1), s.version, s.version + 1⟩
    refine hcrowned.install (e := e) .clean change hbase.le fun other hother hfield ↦ ?_
    apply Diff.key_lt_of_base_lt
    calc
      other.diff.base < s.version := hcrowned.base_lt other hother hfield
      _ = d.base := hbase.symm
  | @displaced head rule hhead hbase hverdict change =>
    have hlt := (Policy.winner_rank_eq_challenger_iff head d).1 (congrArg Verdict.winner hverdict)
    obtain ⟨i, e, hmax, rfl⟩ := hcrowned.head hhead
    let e' : Entry := ⟨d, .settled ⟨d.field, d, e.diff, .lastWriterWins, rule⟩, s.version,
      s.version + 1⟩
    refine hcrowned.install (e := e') .contested change hbase.le fun other hother hfield ↦ ?_
    exact (hmax.key_le hother hfield).trans_lt hlt
  | @kept head rule hhead hbase hverdict =>
    have hle : d.key ≤ head.key :=
      (Policy.winner_rank_eq_incumbent_iff head d).1 (congrArg Verdict.winner hverdict)
    constructor
    · intro e' he' hfield
      rcases List.mem_append.1 he' with he' | he'
      · exact hcrowned.base_lt e' he' hfield
      · obtain rfl := List.mem_singleton.1 he'
        exact hbase
    · intro head' hhead'
      obtain rfl := Option.some.inj (hhead.symm.trans hhead')
      obtain ⟨i, e, hmax, rfl⟩ := hcrowned.head hhead
      exact ⟨i, e, hmax.concat fun _ ↦ hle, rfl⟩

end Crowned

namespace Engine

theorem crowned_run (fields : List String) (user : String) (calls : List Call) {field : String}
    {s : Slot}
    (hs : (((new fields .lastWriterWins).arena user).run .lastWriterWins calls).slots.find? field =
      some s) :
    Crowned field s (accepted ((new fields .lastWriterWins).history user calls)) := by
  rw [history_eq]
  refine Arena.field_induction (Q := Crowned) Crowned.frame Crowned.step calls
    (sound_arena_new fields _ user) ?_ hs
  intro field s hs
  obtain rfl := eq_blank_of_find?_arena_new fields _ user hs
  exact ⟨fun e he ↦ absurd he List.not_mem_nil, fun hhead ↦ nomatch hhead⟩

/-- Under last-writer-wins the head of a written field is the first of the greatest diffs that were
ever accepted for the field, and what anyone sees of the field is that diff's. Nothing was accepted
for a field that is not written. -/
theorem head_isFirstMaximum (fields : List String) (user : String) (calls : List Call) :
    let e := new fields .lastWriterWins
    let h := accepted (e.history user calls)
    ∀ field ∈ fields, ∃ s, ((e.run user calls).arena user).slots.find? field = some s ∧
      (s.version = 0 → ∀ entry ∈ h, entry.diff.field ≠ field) ∧
      (0 < s.version → ∃ i entry, IsFirstMaximum h field i entry ∧ s.head = some entry.diff ∧
        (e.run user calls).field? user field =
          some ⟨field, entry.diff.value, s.version, some entry.diff.device,
            some entry.diff.time⟩) := by
  intro e h field hfield
  obtain ⟨s, hs⟩ := exists_find?_run fields .lastWriterWins user calls hfield
  have hcrowned : Crowned field s h := crowned_run fields user calls hs
  have hsound := (sound_run fields .lastWriterWins user calls).slot hs
  refine ⟨s, ?_, ?_, ?_⟩
  · rw [arena_run]
    exact hs
  · intro hversion entry hmem hentry
    have hbase := hcrowned.base_lt entry hmem hentry
    rw [hversion] at hbase
    exact Nat.not_lt_zero _ hbase
  · intro hversion
    obtain ⟨d, hhead⟩ := hsound.exists_head hversion
    obtain ⟨i, entry, hmax, rfl⟩ := hcrowned.head hhead
    refine ⟨i, entry, hmax, hhead, ?_⟩
    rw [field?_run, hs, Option.map_some, Slot.view, hhead, hsound.head_value hhead]
    rfl

/-- The head after a device has taken a field from another that then failed to take it back. -/
theorem head_isFirstMaximum_contested :
    let e := new ["dns"] .lastWriterWins
    let calls : List Call :=
      [⟨"a", [⟨"dns", 0, .text "X", "", ⟨1, 0, by decide⟩⟩], .epoch⟩,
        ⟨"b", [⟨"dns", 0, .text "Y", "", ⟨50, 0, by decide⟩⟩], .epoch⟩,
        ⟨"a", [⟨"dns", 0, .text "Z", "", ⟨9, 0, by decide⟩⟩], .epoch⟩]
    "dns" ∈ ["dns"] ∧ ∃ s, ((e.run "u" calls).arena "u").slots.find? "dns" = some s ∧
      0 < s.version ∧ ∃ i entry, IsFirstMaximum (accepted (e.history "u" calls)) "dns" i entry ∧
        s.head = some entry.diff ∧ entry.diff.device = "b" := by
  intro e calls
  obtain ⟨s, hs, -, hwritten⟩ := head_isFirstMaximum ["dns"] "u" calls "dns" (by decide)
  have hversion : (((e.run "u" calls).arena "u").slots.find? "dns").map (·.version) = some 2 := by
    decide
  have hwriter : (((e.run "u" calls).arena "u").slots.find? "dns").bind
      (fun t ↦ t.head.map (·.device)) = some "b" := by
    decide
  rw [hs] at hversion hwriter
  have hpositive : 0 < s.version := by
    rw [show s.version = 2 from Option.some.inj hversion]
    exact Nat.two_pos
  obtain ⟨i, entry, hmax, hhead, -⟩ := hwritten hpositive
  refine ⟨by decide, s, hs, hpositive, i, entry, hmax, hhead, ?_⟩
  rw [Option.bind_some, hhead] at hwriter
  exact Option.some.inj hwriter

end Engine

end DeviceSync.Profile
