import DeviceSync.Proofs.Profile.History
import Mathlib.Data.Nat.Find
import Mathlib.Logic.ExistsUnique

/-!
# No Edit is Silently Lost

What becomes of an accepted diff is told by the accepted diffs after it. A diff that takes its field
holds it until the next one takes it. If that one was applied without conflict, its device had seen
the diff that it replaced; if not, a conflict names the replaced diff as the loser. A diff that
never takes its field loses a conflict on arrival.

Diffs are told apart by their places in the history: two devices, or one device twice, may submit
the same text.
-/

namespace DeviceSync.Profile

/-- The diff at place `i` took the field. -/
def Took (h : List Entry) (field : String) (i : Nat) : Prop :=
  ∃ e, h[i]? = some e ∧ e.diff.field = field ∧ e.before < e.after

/-- The diff at place `i` was the last to take the field. -/
def Holds (h : List Entry) (field : String) (i : Nat) : Prop :=
  Took h field i ∧ ∀ j, Took h field j → j ≤ i

/-- The diff at place `j` took the field from the one at place `i`. -/
def Displaces (h : List Entry) (field : String) (j i : Nat) : Prop :=
  Took h field j ∧ Holds (h.take j) field i

/-- The diff at place `i` is the loser of the conflict that was settled when the one at place `j`
arrived. -/
inductive LosesAt (h : List Entry) (field : String) (i j : Nat) : Prop where
  | displaced {e winner : Entry} {c : Conflict} (hdisplaces : Displaces h field j i)
      (hwinner : h[j]? = some winner) (hfate : winner.fate = .settled c) (he : h[i]? = some e)
      (hloser : c.loser = e.diff)
  | onArrival {e : Entry} {c : Conflict} (hplace : i = j) (he : h[j]? = some e)
      (hfield : e.diff.field = field) (hkept : e.before = e.after) (hfate : e.fate = .settled c)
      (hloser : c.loser = e.diff)

/-- What became of an accepted diff. -/
inductive Custody where
  | head
  | superseded
  | lost
deriving DecidableEq

/-- The diff at place `i` is the head of the field, or was replaced by a diff made from the version
that it had installed, or lost a conflict. -/
inductive InCustody (h : List Entry) (field : String) (i : Nat) : Custody → Prop where
  | head (hholds : Holds h field i) : InCustody h field i .head
  | superseded {j version : Nat} {e next : Entry} (hdisplaces : Displaces h field j i)
      (hnext : h[j]? = some next) (hfate : next.fate = .applied version) (he : h[i]? = some e)
      (hbase : next.diff.base = e.after) : InCustody h field i .superseded
  | lost {j : Nat} (hloses : LosesAt h field i j) : InCustody h field i .lost

section Places

variable {h : List Entry} {field : String} {i j k : Nat} {e : Entry}

theorem took_take_iff : Took (h.take j) field i ↔ i < j ∧ Took h field i := by
  unfold Took
  rw [List.getElem?_take]
  by_cases hij : i < j
  · rw [if_pos hij]
    exact (and_iff_right hij).symm
  · rw [if_neg hij]
    exact iff_of_false (fun ⟨e, he, _⟩ ↦ nomatch he) fun hand ↦ hij hand.1

theorem took_concat_iff : Took (h ++ [e]) field i ↔
    Took h field i ∨ (i = h.length ∧ e.diff.field = field ∧ e.before < e.after) := by
  unfold Took
  simp only [getElem?_concat_eq_some_iff]
  constructor
  · rintro ⟨e', he' | ⟨rfl, rfl⟩, htook⟩
    · exact .inl ⟨e', he', htook⟩
    · exact .inr ⟨rfl, htook⟩
  · rintro (⟨e', he', htook⟩ | ⟨rfl, htook⟩)
    · exact ⟨e', .inl he', htook⟩
    · exact ⟨e, .inr ⟨rfl, rfl⟩, htook⟩

theorem Took.lt_length (htook : Took h field i) : i < h.length := by
  obtain ⟨e, he, -⟩ := htook
  exact (List.getElem?_eq_some_iff.1 he).1

theorem Took.before_lt_after (htook : Took h field i) (he : h[i]? = some e) :
    e.before < e.after := by
  obtain ⟨e', he', -, hlt⟩ := htook
  obtain rfl := Option.some.inj (he.symm.trans he')
  exact hlt

theorem Holds.unique (hi : Holds h field i) (hj : Holds h field j) : i = j :=
  Nat.le_antisymm (hj.2 i hi.1) (hi.2 j hj.1)

/-- A holder keeps its field when a diff comes that does not take it. -/
theorem Holds.concat (hholds : Holds h field i)
    (hkept : ¬(e.diff.field = field ∧ e.before < e.after)) : Holds (h ++ [e]) field i := by
  refine ⟨took_concat_iff.2 (.inl hholds.1), ?_⟩
  intro j hj
  rcases took_concat_iff.1 hj with hj | ⟨-, htook⟩
  · exact hholds.2 j hj
  · exact absurd htook hkept

theorem holds_concat_length (htook : e.before < e.after) :
    Holds (h ++ [e]) e.diff.field h.length := by
  refine ⟨took_concat_iff.2 (.inr ⟨rfl, rfl, htook⟩), ?_⟩
  intro j hj
  rcases took_concat_iff.1 hj with hj | ⟨rfl, -⟩
  · exact Nat.le_of_lt hj.lt_length
  · exact Nat.le_refl _

theorem Displaces.lt (hdisplaces : Displaces h field j i) : i < j :=
  (took_take_iff.1 hdisplaces.2.1).1

theorem Displaces.took (hdisplaces : Displaces h field j i) : Took h field i :=
  (took_take_iff.1 hdisplaces.2.1).2

/-- A field is taken from a diff only once. -/
theorem Displaces.unique (hj : Displaces h field j i) (hk : Displaces h field k i) : j = k := by
  rcases Nat.lt_trichotomy j k with hlt | rfl | hgt
  · have hle := hk.2.2 j (took_take_iff.2 ⟨hlt, hj.1⟩)
    exact absurd hj.lt (Nat.not_lt.2 hle)
  · rfl
  · have hle := hj.2.2 k (took_take_iff.2 ⟨hgt, hk.1⟩)
    exact absurd hk.lt (Nat.not_lt.2 hle)

theorem Holds.not_displaces (hholds : Holds h field i) : ¬Displaces h field j i :=
  fun hdisplaces ↦ absurd hdisplaces.lt (Nat.not_lt.2 (hholds.2 j hdisplaces.1))

/-- A diff that took its field holds it until the next one takes it. -/
theorem Took.holds_or_displaced (htook : Took h field i) :
    Holds h field i ∨ ∃ j, Displaces h field j i := by
  classical
  by_cases hlater : ∃ j, i < j ∧ Took h field j
  · -- Only the first of the later takers finds the diff still holding the field.
    obtain ⟨hlt, hj⟩ := Nat.find_spec hlater
    refine .inr ⟨Nat.find hlater, hj, took_take_iff.2 ⟨hlt, htook⟩, ?_⟩
    intro k hk
    obtain ⟨hk, htaker⟩ := took_take_iff.1 hk
    by_contra hik
    exact Nat.find_min hlater hk ⟨Nat.lt_of_not_le hik, htaker⟩
  · refine .inl ⟨htook, ?_⟩
    intro j hj
    by_contra hij
    exact hlater ⟨j, Nat.lt_of_not_le hij, hj⟩

end Places

/-! ## What a diff does to the holder of its field -/

/-- What is known of an accepted diff when it arrives after those in `past`. -/
inductive Accounted (past : List Entry) (e : Entry) : Prop where
  | clean {version : Nat} (htook : e.before < e.after) (hfate : e.fate = .applied version)
      (hbase : ∀ i holder, Holds past e.diff.field i → past[i]? = some holder →
        e.diff.base = holder.after) : Accounted past e
  | displaced {c : Conflict} {i : Nat} {holder : Entry} (htook : e.before < e.after)
      (hfate : e.fate = .settled c) (hholds : Holds past e.diff.field i)
      (hholder : past[i]? = some holder) (hloser : c.loser = holder.diff) : Accounted past e
  | kept {c : Conflict} (hkept : e.before = e.after) (hfate : e.fate = .settled c)
      (hloser : c.loser = e.diff) : Accounted past e

/-- Every accepted diff of the field is accounted for. -/
def AllAccounted (field : String) (h : List Entry) : Prop :=
  ∀ j e, h[j]? = some e → e.diff.field = field → Accounted (h.take j) e

theorem AllAccounted.concat {field : String} {h : List Entry} {e : Entry}
    (hall : AllAccounted field h) (he : e.diff.field = field → Accounted h e) :
    AllAccounted field (h ++ [e]) := by
  intro j e' hj hfield
  rcases getElem?_concat_eq_some_iff.1 hj with hj | ⟨rfl, rfl⟩
  · rw [List.take_append_of_le_length (Nat.le_of_lt (List.getElem?_eq_some_iff.1 hj).1)]
    exact hall j e' hj hfield
  · rw [List.take_left]
    exact he hfield

/-- What a run keeps true of a field: its head is the diff that holds it, at the version that it
installed, and without a head it has no holder. -/
structure Kept (field : String) (s : Slot) (h : List Entry) : Prop where
  blank : s.head = none → ∀ i, ¬Took h field i
  head : ∀ {d}, s.head = some d →
    ∃ i e, Holds h field i ∧ h[i]? = some e ∧ e.diff = d ∧ e.after = s.version
  accounted : AllAccounted field h

namespace Kept

variable {field : String} {s t : Slot} {h : List Entry} {d : Diff} {e : Entry}

theorem after_eq (hkept : Kept field s h) {i : Nat} {holder : Entry} (hholds : Holds h field i)
    (hholder : h[i]? = some holder) : holder.after = s.version := by
  cases hhead : s.head with
  | none => exact absurd hholds.1 (hkept.blank hhead i)
  | some d =>
    obtain ⟨j, e, hj, he, -, hafter⟩ := hkept.head hhead
    obtain rfl := hholds.unique hj
    obtain rfl := Option.some.inj (hholder.symm.trans he)
    exact hafter

/-- A diff that does not take the field leaves its holder. -/
theorem concat (hkept : Kept field s h) (hnot : ¬(e.diff.field = field ∧ e.before < e.after))
    (haccounted : e.diff.field = field → Accounted h e) : Kept field s (h ++ [e]) where
  blank hhead i htaken := by
    rcases took_concat_iff.1 htaken with hi | ⟨-, htook⟩
    · exact hkept.blank hhead i hi
    · exact hnot htook
  head hhead := by
    obtain ⟨i, e', hholds, he', hdiff, hversion⟩ := hkept.head hhead
    exact ⟨i, e', hholds.concat hnot, getElem?_concat_eq_some_iff.2 (.inl he'), hdiff, hversion⟩
  accounted := hkept.accounted.concat haccounted

theorem frame (hother : e.diff.field ≠ field) (hkept : Kept field s h) : Kept field s (h ++ [e]) :=
  hkept.concat (fun htook ↦ hother htook.1) fun hfield ↦ absurd hfield hother

theorem install (hkept : Kept e.diff.field s h) (standing : Standing) (change : Nat)
    (htook : e.before < e.after) (hafter : e.after = s.version + 1)
    (haccounted : Accounted h e) :
    Kept e.diff.field (s.install e.diff standing change) (h ++ [e]) where
  blank hhead := by cases hhead
  head hhead := ⟨h.length, e, holds_concat_length htook, List.getElem?_concat_length,
    Option.some.inj hhead, hafter⟩
  accounted := hkept.accounted.concat fun _ ↦ haccounted

theorem step {policy : Policy} (haccepts : s.Accepts policy d (t, e)) (hkept : Kept d.field s h) :
    Kept d.field t (h ++ [e]) := by
  cases haccepts with
  | clean hbase change =>
    let e : Entry := ⟨d, .applied (s.version + 1), s.version, s.version + 1⟩
    have htook : e.before < e.after := Nat.lt_succ_self _
    refine hkept.install (e := e) .clean change htook rfl (.clean htook rfl ?_)
    intro i holder hholds hholder
    exact hbase.trans (hkept.after_eq hholds hholder).symm
  | @displaced head rule hhead hbase hverdict change =>
    let e : Entry := ⟨d, .settled ⟨d.field, d, head, policy, rule⟩, s.version, s.version + 1⟩
    have htook : e.before < e.after := Nat.lt_succ_self _
    obtain ⟨i, holder, hholds, hholder, hdiff, -⟩ := hkept.head hhead
    exact hkept.install (e := e) .contested change htook rfl
      (.displaced htook rfl hholds hholder hdiff.symm)
  | kept =>
    exact hkept.concat (fun htook ↦ Nat.lt_irrefl _ htook.2) fun _ ↦ .kept rfl rfl rfl

end Kept

/-! ## One fate for every diff -/

section Fates

variable {h : List Entry} {field : String} {i j k : Nat} {e : Entry}

theorem Holds.not_losesAt (hholds : Holds h field i) : ¬LosesAt h field i j := by
  intro hloses
  cases hloses with
  | displaced hdisplaces => exact hholds.not_displaces hdisplaces
  | onArrival hplace he hfield hkept =>
    subst hplace
    exact Nat.ne_of_lt (hholds.1.before_lt_after he) hkept

theorem Displaces.not_losesAt (hdisplaces : Displaces h field j i) {next : Entry} {version : Nat}
    (hnext : h[j]? = some next) (hfate : next.fate = .applied version) :
    ¬LosesAt h field i k := by
  intro hloses
  cases hloses with
  | displaced hdisplaces' hwinner hsettled =>
    obtain rfl := hdisplaces.unique hdisplaces'
    obtain rfl := Option.some.inj (hnext.symm.trans hwinner)
    rw [hfate] at hsettled
    contradiction
  | onArrival hplace he hfield hkept =>
    subst hplace
    exact Nat.ne_of_lt (hdisplaces.took.before_lt_after he) hkept

theorem InCustody.unique {c c' : Custody} (hc : InCustody h field i c)
    (hc' : InCustody h field i c') : c = c' := by
  cases hc with
  | head hholds =>
    cases hc' with
    | head => rfl
    | superseded hdisplaces => exact absurd hdisplaces hholds.not_displaces
    | lost hloses => exact absurd hloses hholds.not_losesAt
  | superseded hdisplaces hnext hfate =>
    cases hc' with
    | head hholds => exact absurd hdisplaces hholds.not_displaces
    | superseded => rfl
    | lost hloses => exact absurd hloses (hdisplaces.not_losesAt hnext hfate)
  | lost hloses =>
    cases hc' with
    | head hholds => exact absurd hloses hholds.not_losesAt
    | superseded hdisplaces hnext hfate =>
      exact absurd hloses (hdisplaces.not_losesAt hnext hfate)
    | lost => rfl

theorem InCustody.exists_entry {c : Custody} (hc : InCustody h field i c) :
    ∃ e, h[i]? = some e ∧ e.diff.field = field := by
  have of_took : Took h field i → ∃ e, h[i]? = some e ∧ e.diff.field = field :=
    fun ⟨e, he, hfield, _⟩ ↦ ⟨e, he, hfield⟩
  cases hc with
  | head hholds => exact of_took hholds.1
  | superseded hdisplaces => exact of_took hdisplaces.took
  | lost hloses =>
    cases hloses with
    | displaced hdisplaces => exact of_took hdisplaces.took
    | onArrival hplace he hfield =>
      subst hplace
      exact ⟨_, he, hfield⟩

/-- No diff loses twice. -/
theorem LosesAt.conflict_unique (hj : LosesAt h field i j) (hk : LosesAt h field i k) : j = k := by
  cases hj with
  | displaced hdisplaces =>
    cases hk with
    | displaced hdisplaces' => exact hdisplaces.unique hdisplaces'
    | onArrival hplace he hfield hkept =>
      subst hplace
      exact absurd hkept (Nat.ne_of_lt (hdisplaces.took.before_lt_after he))
  | onArrival hplace he hfield hkept =>
    subst hplace
    cases hk with
    | displaced hdisplaces =>
      exact absurd hkept (Nat.ne_of_lt (hdisplaces.took.before_lt_after he))
    | onArrival hplace => exact hplace

theorem LosesAt.loser_unique (hi : LosesAt h field i k) (hj : LosesAt h field j k) : i = j := by
  cases hi with
  | displaced hdisplaces hwinner =>
    cases hj with
    | displaced hdisplaces' => exact hdisplaces.2.unique hdisplaces'.2
    | onArrival hplace he hfield hkept =>
      exact absurd hkept (Nat.ne_of_lt (hdisplaces.1.before_lt_after he))
  | onArrival hplace he hfield hkept =>
    cases hj with
    | displaced hdisplaces =>
      exact absurd hkept (Nat.ne_of_lt (hdisplaces.1.before_lt_after he))
    | onArrival hplace' => exact hplace.trans hplace'.symm

theorem AllAccounted.exists_custody (hall : AllAccounted e.diff.field h) (he : h[i]? = some e) :
    ∃ c, InCustody h e.diff.field i c := by
  have of_took (htook : e.before < e.after) : ∃ c, InCustody h e.diff.field i c := by
    have htaken : Took h e.diff.field i := ⟨e, he, rfl, htook⟩
    rcases htaken.holds_or_displaced with hholds | ⟨j, hdisplaces⟩
    · exact ⟨.head, .head hholds⟩
    · obtain ⟨next, hnext, hfield, hlt⟩ := hdisplaces.1
      have he' : (h.take j)[i]? = some e := by
        rw [List.getElem?_take, if_pos hdisplaces.lt]
        exact he
      cases hall j next hnext hfield with
      | clean _ hfate hbase =>
        rw [hfield] at hbase
        exact ⟨.superseded, .superseded hdisplaces hnext hfate he (hbase i e hdisplaces.2 he')⟩
      | displaced _ hfate hholds hholder hloser =>
        rw [hfield] at hholds
        obtain rfl := hdisplaces.2.unique hholds
        obtain rfl := Option.some.inj (he'.symm.trans hholder)
        exact ⟨.lost, .lost (.displaced hdisplaces hnext hfate he hloser)⟩
      | kept hkept => exact absurd hkept (Nat.ne_of_lt hlt)
  cases hall i e he rfl with
  | clean htook => exact of_took htook
  | displaced htook => exact of_took htook
  | kept hkept hfate hloser => exact ⟨.lost, .lost (.onArrival rfl he rfl hkept hfate hloser)⟩

/-- Every conflict has a loser among the accepted diffs. -/
theorem AllAccounted.exists_loser (hall : AllAccounted e.diff.field h) {c : Conflict}
    (he : h[j]? = some e) (hfate : e.fate = .settled c) : ∃ i, LosesAt h e.diff.field i j := by
  cases hall j e he rfl with
  | clean _ happlied =>
    rw [hfate] at happlied
    contradiction
  | @displaced c i holder htook hfate hholds hholder hloser =>
    have hdisplaces : Displaces h e.diff.field j i := ⟨⟨e, he, rfl, htook⟩, hholds⟩
    rw [List.getElem?_take, if_pos hdisplaces.lt] at hholder
    exact ⟨i, .displaced hdisplaces he hfate hholder hloser⟩
  | kept hkept hfate hloser => exact ⟨j, .onArrival rfl he rfl hkept hfate hloser⟩

end Fates

/-! ## Every run -/

/-- The records that the outcomes of a run report as settled are those of its accepted diffs. -/
theorem Arena.filterMap_accepted_history (policy : Policy) (a : Arena) (calls : List Call) :
    (accepted (a.history policy calls)).filterMap (·.fate.settled?) =
      (a.history policy calls).flatMap fun ev ↦ ev.outcome.conflicts.take ev.outcome.resolved := by
  induction calls generalizing a with
  | nil => rfl
  | cons c calls ih =>
    have hrest := ih (a.after policy c)
    rw [accepted] at hrest ⊢
    rw [Arena.history, List.flatMap_cons, List.flatMap_cons, List.filterMap_append, hrest,
      filterMap_accepted_event, take_conflicts_event]

namespace Engine

variable (fields : List String) (policy : Policy) (user : String)

theorem kept_run (calls : List Call) {field : String} {s : Slot}
    (hs : (((new fields policy).arena user).run policy calls).slots.find? field = some s) :
    Kept field s (accepted ((new fields policy).history user calls)) := by
  rw [history_eq]
  refine Arena.field_induction (Q := Kept) Kept.frame Kept.step calls
    (sound_arena_new fields policy user) ?_ hs
  intro field s hs
  obtain rfl := eq_blank_of_find?_arena_new fields policy user hs
  refine ⟨fun _ i htook ↦ ?_, (nomatch ·), fun j e hj ↦ ?_⟩
  · exact absurd htook.lt_length (Nat.not_lt_zero i)
  · exact absurd (List.mem_of_getElem? hj) List.not_mem_nil

/-- Every diff that was accepted for a field is its head, or was replaced from the version that it
had installed, or lost a conflict, and only one of these. The head is the diff that the field
remembers. No diff loses twice, and every conflict that a run reports has one loser. -/
theorem accepted_inCustody (calls : List Call) :
    let e := new fields policy
    let h := accepted (e.history user calls)
    (∀ field ∈ fields,
      (∀ i entry, h[i]? = some entry → entry.diff.field = field → ∃! c, InCustody h field i c) ∧
      (∀ i c, InCustody h field i c → ∃ entry, h[i]? = some entry ∧ entry.diff.field = field) ∧
      (∃ s, ((e.run user calls).arena user).slots.find? field = some s ∧
        ((s.head = none ∧ ∀ i, ¬InCustody h field i .head) ∨
          ∃ i entry, h[i]? = some entry ∧ s.head = some entry.diff ∧
            ∀ j, InCustody h field j .head ↔ j = i)) ∧
      (∀ i j k, LosesAt h field i j → LosesAt h field i k → j = k) ∧
      ∀ j entry c, h[j]? = some entry → entry.diff.field = field → entry.fate = .settled c →
        ∃! i, LosesAt h field i j) ∧
    h.filterMap (·.fate.settled?) =
      (e.history user calls).flatMap fun ev ↦ ev.outcome.conflicts.take ev.outcome.resolved := by
  intro e h
  constructor
  · intro field hfield
    obtain ⟨s, hs⟩ := exists_find?_run fields policy user calls hfield
    have hkept : Kept field s h := kept_run fields policy user calls hs
    refine ⟨?_, fun i c hc ↦ hc.exists_entry, ⟨s, ?_, ?_⟩, fun i j k hj hk ↦ hj.conflict_unique hk,
      ?_⟩
    · rintro i entry hi rfl
      obtain ⟨c, hc⟩ := hkept.accounted.exists_custody hi
      exact ⟨c, hc, fun c' hc' ↦ hc'.unique hc⟩
    · rw [arena_run]
      exact hs
    · cases hhead : s.head with
      | none =>
        refine .inl ⟨rfl, ?_⟩
        intro i hcustody
        cases hcustody with
        | head hholds => exact hkept.blank hhead i hholds.1
      | some d =>
        obtain ⟨i, entry, hholds, hi, rfl, -⟩ := hkept.head hhead
        refine .inr ⟨i, entry, hi, rfl, ?_⟩
        intro j
        constructor
        · intro hcustody
          cases hcustody with
          | head hj => exact hj.unique hholds
        · intro hj
          rw [hj]
          exact .head hholds
    · rintro j entry c hj rfl hfate
      obtain ⟨i, hi⟩ := hkept.accounted.exists_loser hj hfate
      exact ⟨i, hi, fun i' hi' ↦ hi'.loser_unique hi⟩
  · change (accepted (e.history user calls)).filterMap _ = _
    rw [history_eq]
    exact Arena.filterMap_accepted_history policy _ calls

/-- The fate of a diff whose field another device takes and a third one then writes. -/
theorem accepted_inCustody_contested :
    let e := new ["dns"] .lastWriterWins
    let calls : List Call :=
      [⟨"a", [⟨"dns", 0, .text "X", "", ⟨1, 0, by decide⟩⟩], .epoch⟩,
        ⟨"b", [⟨"dns", 0, .text "Y", "", ⟨50, 0, by decide⟩⟩], .epoch⟩,
        ⟨"c", [⟨"dns", 2, .text "Z", "", ⟨9, 0, by decide⟩⟩], .epoch⟩]
    let h := accepted (e.history "u" calls)
    "dns" ∈ ["dns"] ∧ ∃ entry, h[0]? = some entry ∧ entry.diff.field = "dns" ∧
      ∃! c, InCustody h "dns" 0 c := by
  intro e calls h
  have hfield : h[0]?.map (·.diff.field) = some "dns" := by decide
  obtain ⟨entry, hentry, hdns⟩ := Option.map_eq_some_iff.1 hfield
  refine ⟨by decide, entry, hentry, hdns, ?_⟩
  exact ((accepted_inCustody ["dns"] .lastWriterWins "u" calls).1 "dns" (by decide)).1 0 entry
    hentry hdns

end Engine

end DeviceSync.Profile
