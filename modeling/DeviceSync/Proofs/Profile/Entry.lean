import DeviceSync.Proofs.Profile.Merge

/-!
# Batches, Diff by Diff

Merging a batch leaves an entry for every diff: what became of it, and the version of its field
before and after, so that a diff has taken its field exactly if the version grew. Whatever every
ending of a merge keeps is kept by a batch, with the entries so far at hand.

`Later` says what merging does to a profile as a whole, whatever the batch was.
-/

namespace DeviceSync.Profile

/-- A diff as it was merged, what became of it, and its field's version before and after. -/
structure Entry where
  diff : Diff
  fate : Disposition
  before : Nat
  after : Nat

/-- What an accepted diff does to its field. -/
inductive Slot.Accepts (policy : Policy) (s : Slot) (d : Diff) : Slot × Entry → Prop where
  | clean (hbase : d.base = s.version) (change : Nat) :
      Slot.Accepts policy s d (s.install d .clean change,
        ⟨d, .applied (s.version + 1), s.version, s.version + 1⟩)
  | displaced {head : Diff} {rule : Rule} (hhead : s.head = some head) (hbase : d.base < s.version)
      (hverdict : policy.resolve head d = ⟨.challenger, rule⟩) (change : Nat) :
      Slot.Accepts policy s d (s.install d .contested change,
        ⟨d, .settled ⟨d.field, d, head, policy, rule⟩, s.version, s.version + 1⟩)
  | kept {head : Diff} {rule : Rule} (hhead : s.head = some head) (hbase : d.base < s.version)
      (hverdict : policy.resolve head d = ⟨.incumbent, rule⟩) :
      Slot.Accepts policy s d (s,
        ⟨d, .settled ⟨d.field, head, d, policy, rule⟩, s.version, s.version⟩)

/-- Whether a diff was taken in, that is, not refused. -/
def Disposition.accepted : Disposition → Bool
  | .rejected _ => false
  | _ => true

namespace Entry

/-- The diff took its field. -/
def Wrote (e : Entry) : Prop :=
  e.before < e.after

instance (e : Entry) : Decidable e.Wrote :=
  inferInstanceAs (Decidable (_ < _))

/-- The diff was applied without conflict. -/
def Clean (e : Entry) : Prop :=
  ∃ version, e.fate = .applied version

instance (e : Entry) : Decidable e.Clean :=
  match h : e.fate with
  | .applied version => isTrue ⟨version, h⟩
  | .rejected _ | .settled _ => isFalse fun ⟨_, h'⟩ ↦ nomatch h.symm.trans h'

end Entry

/-- An entry that was not refused tells a step of a field. -/
def Entry.Sound (policy : Policy) (e : Entry) : Prop :=
  e.fate.accepted = true → ∃ (s t : Slot) (d : Diff), s.Accepts policy d (t, e)

namespace Entry.Sound

variable {policy : Policy} {e : Entry}

theorem base_lt_after (h : e.Sound policy) (haccepted : e.fate.accepted) :
    e.diff.base < e.after := by
  obtain ⟨s, t, d, haccepts⟩ := h haccepted
  cases haccepts with
  | clean hbase => exact Nat.lt_succ_of_le (Nat.le_of_eq hbase)
  | displaced hhead hbase => exact Nat.lt_succ_of_lt hbase
  | kept hhead hbase => exact hbase

theorem of_applied (h : e.Sound policy) {version : Nat} (hfate : e.fate = .applied version) :
    e.diff.base = e.before ∧ version = e.before + 1 := by
  obtain ⟨s, t, d, haccepts⟩ := h (by rw [hfate]; rfl)
  cases haccepts with
  | clean hbase => exact ⟨hbase, (Disposition.applied.inj hfate).symm⟩
  | displaced | kept => cases hfate

end Entry.Sound

namespace Arena

/-- The entry of a diff that is merged with a given result. -/
def entryOf (a : Arena) (d : Diff) (result : Arena × Disposition) : Entry :=
  ⟨d, result.2, a.versionOf d.field, result.1.versionOf d.field⟩

/-- The entries of a batch. -/
def entries (policy : Policy) (a : Arena) : List Diff → List Entry
  | [] => []
  | d :: batch =>
    a.entryOf d (a.merge policy d) :: (a.merge policy d).1.entries policy batch

variable {policy : Policy} {a : Arena}

/-- What every ending of a merge keeps holds when a batch is merged. -/
theorem mergeAll_induction {P : Arena → List Entry → Prop} (batch : List Diff)
    (step : ∀ {a past d result}, d ∈ batch → a.Sound → Merges policy a d result → P a past →
      P result.1 (past ++ [a.entryOf d result]))
    (past : List Entry) (ha : a.Sound) (hP : P a past) :
    P (a.mergeAll policy batch).1 (past ++ a.entries policy batch) := by
  induction batch generalizing a past with
  | nil => simpa [mergeAll, entries] using hP
  | cons d batch ih =>
    have hfirst := step List.mem_cons_self ha (merges_merge ha policy d) hP
    have hrest := ih (fun hd ↦ step (List.mem_cons_of_mem _ hd)) _ (ha.merge policy d) hfirst
    simpa [mergeAll, entries] using hrest

/-! ## The list of entries -/

theorem map_diff_entries (policy : Policy) (a : Arena) (batch : List Diff) :
    (a.entries policy batch).map (·.diff) = batch := by
  induction batch generalizing a with
  | nil => rfl
  | cons d batch ih =>
    rw [entries, List.map_cons, ih]
    rfl

theorem map_fate_entries (policy : Policy) (a : Arena) (batch : List Diff) :
    (a.entries policy batch).map (·.fate) = (a.mergeAll policy batch).2 := by
  induction batch generalizing a with
  | nil => rfl
  | cons d batch ih =>
    rw [entries, List.map_cons, ih]
    rfl

theorem zip_fates (policy : Policy) (a : Arena) (batch : List Diff) :
    batch.zip (a.mergeAll policy batch).2 =
      (a.entries policy batch).map fun e ↦ (e.diff, e.fate) := by
  calc
    _ = ((a.entries policy batch).map (·.diff)).zip ((a.entries policy batch).map (·.fate)) := by
      rw [map_diff_entries, map_fate_entries]
    _ = _ := List.zip_map'

/-! ## Later states -/

theorem versionOf_write (a : Arena) (s : Slot) (d : Diff) (standing : Standing) (field : String) :
    (a.write s d standing).versionOf field =
      if d.field = field then s.version + 1 else a.versionOf field := by
  rw [versionOf, find?_write]
  split <;> rfl

theorem versionOf_hold (a : Arena) (caller : String) (conflict : Conflict) (field : String) :
    (a.hold caller conflict).versionOf field = a.versionOf field := by
  rw [versionOf, slots_hold, versionOf]

/-- What lies between an earlier state of a profile and a later one: every field is as it was, or
it has been written since, under a higher version and a higher number of change, by a diff of the
given kind. -/
structure Later (W : Diff → Prop) (a b : Arena) : Prop where
  isSome_eq : ∀ field, (b.slots.find? field).isSome = (a.slots.find? field).isSome
  changes_le : a.changes ≤ b.changes
  version_le : ∀ field, a.versionOf field ≤ b.versionOf field
  slot : ∀ {field s}, b.slots.find? field = some s → a.slots.find? field = some s ∨
    (a.changes < s.changed ∧ a.versionOf field < s.version ∧ ∃ d, W d ∧ s.head = some d)

namespace Later

variable {W : Diff → Prop} {b c : Arena}

theorem refl (a : Arena) : Later W a a :=
  ⟨fun _ ↦ rfl, Nat.le_refl _, fun _ ↦ Nat.le_refl _, .inl⟩

theorem mono {V : Diff → Prop} (h : Later W a b) (hWV : ∀ {d}, W d → V d) : Later V a b where
  isSome_eq := h.isSome_eq
  changes_le := h.changes_le
  version_le := h.version_le
  slot hs := (h.slot hs).imp_right fun ⟨hchanged, hversion, d, hd, hhead⟩ ↦
    ⟨hchanged, hversion, d, hWV hd, hhead⟩

/-- A field stays as it is for as long as its version does. -/
theorem eq_of_version_eq (h : Later W a b) {field : String} {s t : Slot}
    (hs : a.slots.find? field = some s) (ht : b.slots.find? field = some t)
    (hversion : s.version = t.version) : s = t := by
  rcases h.slot ht with hkept | ⟨-, hnewer, -⟩
  · exact Option.some.inj (hs.symm.trans hkept)
  · rw [versionOf_of_find? hs] at hnewer
    omega

theorem trans (hab : Later W a b) (hbc : Later W b c) : Later W a c where
  isSome_eq field := (hbc.isSome_eq field).trans (hab.isSome_eq field)
  changes_le := Nat.le_trans hab.changes_le hbc.changes_le
  version_le field := Nat.le_trans (hab.version_le field) (hbc.version_le field)
  slot {field s} hs := by
    rcases hbc.slot hs with hkept | ⟨hchanged, hversion, hwriter⟩
    · exact hab.slot hkept
    · exact .inr ⟨Nat.lt_of_le_of_lt hab.changes_le hchanged,
        Nat.lt_of_le_of_lt (hab.version_le field) hversion, hwriter⟩

end Later

theorem later_write {W : Diff → Prop} {s : Slot} {d : Diff} (hd : W d) (standing : Standing)
    (hslot : a.slots.find? d.field = some s) : Later W a (a.write s d standing) where
  isSome_eq field := by
    rw [find?_write]
    split
    next hfield =>
      rw [← hfield, hslot]
      rfl
    next => rfl
  changes_le := Nat.le_succ _
  version_le field := by
    rw [versionOf_write]
    split
    next hfield =>
      rw [← hfield, versionOf_of_find? hslot]
      exact Nat.le_succ _
    next => exact Nat.le_refl _
  slot {field t} ht := by
    rw [find?_write] at ht
    split at ht
    next hfield =>
      obtain rfl := Option.some.inj ht
      refine .inr ⟨Nat.lt_succ_self _, ?_, d, hd, rfl⟩
      rw [← hfield, versionOf_of_find? hslot]
      exact Nat.lt_succ_self _
    next => exact .inl ht

theorem Merges.later {W : Diff → Prop} {d : Diff} {result : Arena × Disposition} (hd : W d)
    (hmerges : Merges policy a d result) : Later W a result.1 := by
  cases hmerges with
  | unknown | future | kept => exact .refl a
  | clean hslot => exact later_write hd .clean hslot
  | displaced hslot =>
    have hwrite := later_write hd .contested hslot
    exact ⟨fun field ↦ by simpa only [slots_hold] using hwrite.isSome_eq field, by simp,
      fun field ↦ by simpa only [versionOf_hold] using hwrite.version_le field,
      fun hs ↦ hwrite.slot (by simpa using hs)⟩

theorem later_mergeAll (ha : a.Sound) (batch : List Diff) :
    Later (· ∈ batch) a (a.mergeAll policy batch).1 :=
  mergeAll_induction (P := fun b _ ↦ Later (· ∈ batch) a b) batch
    (fun hd _ hmerges hpast ↦ hpast.trans (hmerges.later hd)) [] ha (.refl a)

theorem seenBy_mergeAll (ha : a.Sound) (batch : List Diff) (device : String) :
    (a.mergeAll policy batch).1.seenBy device = a.seenBy device := by
  refine mergeAll_induction (P := fun b _ ↦ b.seenBy device = a.seenBy device) batch ?_ [] ha rfl
  intro b past d result _ _ hmerges hseen
  cases hmerges with
  | unknown | future | kept => exact hseen
  | clean => exact hseen
  | displaced => exact (seenBy_hold ..).trans hseen

/-! ## What entries look like -/

/-- A merge either refuses the diff and leaves every field, or is a step of the diff's own field. -/
theorem Merges.refused_or_accepts {d : Diff} {result : Arena × Disposition}
    (hmerges : Merges policy a d result) :
    (result.1.slots = a.slots ∧ (a.entryOf d result).fate.accepted = false) ∨
      ∃ s t, a.slots.find? d.field = some s ∧ (a.entryOf d result).fate.accepted = true ∧
        s.Accepts policy d (t, a.entryOf d result) ∧
        ∀ field, result.1.slots.find? field =
          if d.field = field then some t else a.slots.find? field := by
  cases hmerges with
  | unknown | future => exact .inl ⟨rfl, rfl⟩
  | @clean s hslot hbase =>
    refine .inr ⟨s, _, hslot, rfl, ?_, find?_write a s d .clean⟩
    rw [entryOf, versionOf_write, if_pos rfl, versionOf_of_find? hslot]
    exact .clean hbase _
  | @displaced s head rule hslot hhead hbase hverdict =>
    refine .inr ⟨s, s.install d .contested (a.changes + 1), hslot, rfl, ?_, fun field ↦ ?_⟩
    · rw [entryOf, versionOf_hold, versionOf_write, if_pos rfl, versionOf_of_find? hslot]
      exact .displaced hhead hbase hverdict (a.changes + 1)
    · rw [slots_hold, find?_write]
  | @kept s head rule hslot hhead hbase hverdict =>
    refine .inr ⟨s, s, hslot, rfl, ?_, fun field ↦ ?_⟩
    · rw [entryOf, versionOf_of_find? hslot]
      exact .kept hhead hbase hverdict
    · split
      next hfield =>
        rw [← hfield]
        exact hslot
      next => rfl

/-- A merge either leaves the fields and the count of changes, or is one write of the diff's own
field under the next number. -/
theorem Merges.idle_or_writes {d : Diff} {result : Arena × Disposition}
    (hmerges : Merges policy a d result) :
    (result.1.slots = a.slots ∧ result.1.changes = a.changes ∧ ¬(a.entryOf d result).Wrote) ∨
      ∃ s standing, a.slots.find? d.field = some s ∧ (a.entryOf d result).Wrote ∧
        (standing = .clean ↔ (a.entryOf d result).Clean) ∧
        result.1.slots = a.slots.insert d.field (s.install d standing (a.changes + 1)) ∧
        result.1.changes = a.changes + 1 := by
  cases hmerges with
  | unknown | future | kept => exact .inl ⟨rfl, rfl, Nat.lt_irrefl _⟩
  | @clean s hslot hbase =>
    refine .inr ⟨s, .clean, hslot, ?_, iff_of_true rfl ⟨_, rfl⟩, rfl, rfl⟩
    rw [Entry.Wrote, entryOf, versionOf_write, if_pos rfl, versionOf_of_find? hslot]
    exact Nat.lt_succ_self _
  | @displaced s head rule hslot =>
    refine .inr ⟨s, .contested, hslot, ?_, iff_of_false nofun nofun, ?_, ?_⟩
    · rw [Entry.Wrote, entryOf, versionOf_hold, versionOf_write, if_pos rfl,
        versionOf_of_find? hslot]
      exact Nat.lt_succ_self _
    · rw [slots_hold, write]
    · rw [changes_hold, changes_write]

theorem Merges.sound_entryOf {d : Diff} {result : Arena × Disposition}
    (hmerges : Merges policy a d result) : (a.entryOf d result).Sound policy := by
  intro haccepted
  rcases hmerges.refused_or_accepts with ⟨-, hrefused⟩ | ⟨s, t, -, -, haccepts, -⟩
  · rw [hrefused] at haccepted
    contradiction
  · exact ⟨s, t, d, haccepts⟩

theorem sound_of_mem_entries (ha : a.Sound) {batch : List Diff} {e : Entry}
    (he : e ∈ a.entries policy batch) : e.Sound policy := by
  have hnone : ∀ e ∈ ([] : List Entry), e.Sound policy := fun _ h ↦ absurd h List.not_mem_nil
  refine mergeAll_induction (P := fun _ past ↦ ∀ e ∈ past, e.Sound policy) batch ?_ [] ha hnone e he
  intro b past d result _ _ hmerges hpast e he
  rcases List.mem_append.1 he with he | he
  · exact hpast e he
  · obtain rfl := List.mem_singleton.1 he
    exact hmerges.sound_entryOf

theorem versionOf_le_before (ha : a.Sound) {batch : List Diff} {e : Entry}
    (he : e ∈ a.entries policy batch) : a.versionOf e.diff.field ≤ e.before := by
  induction batch generalizing a with
  | nil => cases he
  | cons d batch ih =>
    rcases List.mem_cons.1 he with rfl | he
    · exact Nat.le_refl _
    · have hle := ((merges_merge ha policy d).later (W := fun _ ↦ True) trivial).version_le
      exact Nat.le_trans (hle _) (ih (ha.merge policy d) he)

/-- Within a batch, a diff meets its field at a version no earlier than an earlier diff left it. -/
theorem pairwise_entries (ha : a.Sound) (batch : List Diff) :
    (a.entries policy batch).Pairwise fun e e' ↦
      e.diff.field = e'.diff.field → e.after ≤ e'.before := by
  induction batch generalizing a with
  | nil => exact List.Pairwise.nil
  | cons d batch ih =>
    refine List.pairwise_cons.2 ⟨?_, ih (ha.merge policy d)⟩
    intro e he hfield
    change (a.merge policy d).1.versionOf d.field ≤ e.before
    rw [show d.field = e.diff.field from hfield]
    exact versionOf_le_before (ha.merge policy d) he

theorem after_le_before (ha : a.Sound) {batch : List Diff} {i j : Nat} {e e' : Entry} (hij : i < j)
    (he : (a.entries policy batch)[i]? = some e) (he' : (a.entries policy batch)[j]? = some e')
    (hfield : e.diff.field = e'.diff.field) : e.after ≤ e'.before := by
  obtain ⟨hi, rfl⟩ := List.getElem?_eq_some_iff.1 he
  obtain ⟨hj, rfl⟩ := List.getElem?_eq_some_iff.1 he'
  exact List.pairwise_iff_getElem.1 (pairwise_entries ha batch) i j hi hj hij hfield

end Arena

end DeviceSync.Profile
