import DeviceSync.Proofs.Profile.Rank
import DeviceSync.Proofs.Profile.Reachable
import Mathlib.Data.List.Nodup
import Mathlib.Data.List.Perm.Basic

/-!
# The Order of Arrival

Late diffs for one field may arrive in any order. The main statement says what does not depend on
it: under last-writer-wins which diff holds the field in the end and which diffs have lost a
conflict, and under applied-wins everything.

In between, the orders differ. A diff that wins for a while in one order loses on arrival in
another, so versions and the pairs that contend are not the same. What every order shares is that
each conflict has one loser and keeps one diff in play, and that the diff in play is the greatest
so far. The last one is then the greatest of all, and everyone else has lost once.
-/

namespace DeviceSync.Profile

/-- Calls that submit diffs one by one, each from its own device, and the clock at each call. -/
def oneByOne (order : List (Diff × Instant)) : List Call :=
  order.map fun (d, now) ↦ ⟨d.device, [d], now⟩

/-- The conflicts that a call reports as settled by itself. -/
def Event.reported (ev : Event) : List Conflict :=
  ev.outcome.conflicts.take ev.outcome.resolved

/-- The diffs that lost the conflicts of a history. -/
def losers (events : List Event) : List Diff :=
  (events.flatMap Event.reported).map (·.loser)

/-- The diff that holds a field in the end if `old` held it before and others arrived: a greatest
one, and `old` itself if no other is greater. -/
structure Prevails (old : Diff) (others : List Diff) (d : Diff) : Prop where
  mem : d ∈ old :: others
  old_or_greater : d = old ∨ old.key < d.key
  greatest : ∀ x ∈ others, x.key ≤ d.key

namespace Prevails

variable {old d d' x : Diff} {others : List Diff}

/-- The old head loses to the first of the others. -/
theorem cons_of_lt (hd : Prevails x others d) (hlt : old.key < x.key) :
    Prevails old (x :: others) d := by
  have hle : x.key ≤ d.key := by
    rcases hd.old_or_greater with rfl | hlt
    · exact le_rfl
    · exact hlt.le
  exact ⟨List.mem_cons_of_mem _ hd.mem, .inr (hlt.trans_le hle),
    List.forall_mem_cons.2 ⟨hle, hd.greatest⟩⟩

/-- The first of the others loses to the old head. -/
theorem cons_of_le (hd : Prevails old others d) (hle : x.key ≤ old.key) :
    Prevails old (x :: others) d := by
  have hle' : x.key ≤ d.key := by
    rcases hd.old_or_greater with rfl | hlt
    · exact hle
    · exact hle.trans hlt.le
  refine ⟨?_, hd.old_or_greater, List.forall_mem_cons.2 ⟨hle', hd.greatest⟩⟩
  rcases List.mem_cons.1 hd.mem with rfl | hmem
  · exact List.mem_cons_self
  · exact List.mem_cons_of_mem _ (List.mem_cons_of_mem _ hmem)

theorem perm {others' : List Diff} (hd : Prevails old others d) (hperm : others.Perm others') :
    Prevails old others' d where
  mem := (hperm.cons old).subset hd.mem
  old_or_greater := hd.old_or_greater
  greatest x hx := hd.greatest x (hperm.symm.subset hx)

/-- Among others with different keys only one diff can prevail. -/
theorem unique (hkeys : (others.map Diff.key).Nodup) (hd : Prevails old others d)
    (hd' : Prevails old others d') : d = d' := by
  have hle {x y : Diff} (hx : Prevails old others x) (hy : Prevails old others y) :
      x.key ≤ y.key := by
    rcases hx.old_or_greater with rfl | hlt
    · rcases hy.old_or_greater with rfl | hlt
      · exact le_rfl
      · exact hlt.le
    · rcases List.mem_cons.1 hx.mem with rfl | hmem
      · exact absurd hlt (lt_irrefl _)
      · exact hy.greatest x hmem
  have hkey : d.key = d'.key := le_antisymm (hle hd hd') (hle hd' hd)
  rcases List.mem_cons.1 hd.mem with rfl | hmem
  · rcases hd'.old_or_greater with rfl | hlt
    · rfl
    · exact absurd hkey hlt.ne
  · rcases List.mem_cons.1 hd'.mem with rfl | hmem'
    · rcases hd.old_or_greater with rfl | hlt
      · rfl
      · exact absurd hkey hlt.ne'
    · exact List.inj_on_of_nodup_map hkeys hmem hmem' hkey

end Prevails

namespace Arena

variable {policy : Policy} {a : Arena} {s : Slot} {holder : Diff}

theorem reported_event (policy : Policy) (a : Arena) (c : Call) :
    (a.event policy c).reported = (a.event policy c).settled :=
  take_conflicts_event policy a c

/-- A late diff that is submitted on its own takes the field or leaves the profile as it is. -/
theorem after_single (policy : Policy) (ha : a.Sound) {d : Diff} (now : Instant)
    (hs : a.slots.find? d.field = some s) (hholder : s.head = some holder)
    (hbase : d.base < s.version) :
    let c : Call := ⟨d.device, [d], now⟩
    ((policy.resolve holder d).winner = .challenger ∧
      (∃ t, (a.after policy c).slots.find? d.field = some t ∧ t.head = some d ∧
        s.version ≤ t.version) ∧
      (a.event policy c).reported.map (·.loser) = [holder]) ∨
    ((policy.resolve holder d).winner = .incumbent ∧ (a.after policy c).slots = a.slots ∧
      (a.event policy c).reported =
        [⟨d.field, holder, d, policy, (policy.resolve holder d).rule⟩]) := by
  intro c
  have hslots : (a.after policy c).slots = (a.merge policy d).1.slots := rfl
  have hreported : (a.event policy c).reported =
      [(a.merge policy d).2].filterMap Disposition.settled? := by
    rw [reported_event, settled_event]
    rfl
  rw [hslots, hreported]
  have hmerges := merges_merge ha policy d
  generalize a.merge policy d = result at hmerges ⊢
  cases hmerges with
  | unknown hnone => rw [hnone] at hs; contradiction
  | future hu hlt =>
    obtain rfl := Option.some.inj (hs.symm.trans hu)
    omega
  | clean hu heq =>
    obtain rfl := Option.some.inj (hs.symm.trans hu)
    omega
  | displaced hu hhead _ hverdict =>
    obtain rfl := Option.some.inj (hs.symm.trans hu)
    obtain rfl := Option.some.inj (hholder.symm.trans hhead)
    refine .inl ⟨by rw [hverdict], ⟨s.install d .contested (a.changes + 1), ?_, rfl, ?_⟩, rfl⟩
    · rw [slots_hold, find?_write, if_pos rfl]
    · exact Nat.le_succ _
  | kept hu hhead _ hverdict =>
    obtain rfl := Option.some.inj (hs.symm.trans hu)
    obtain rfl := Option.some.inj (hholder.symm.trans hhead)
    refine .inr ⟨by rw [hverdict], rfl, ?_⟩
    rw [hverdict]
    rfl

/-- Late diffs that arrive one by one under last-writer-wins leave the greatest as the head, and
every other one has lost once. -/
theorem run_oneByOne (order : List (Diff × Instant)) (ha : a.Sound) {field : String}
    (hs : a.slots.find? field = some s) (hholder : s.head = some holder)
    (hlate : ∀ p ∈ order, p.1.field = field ∧ p.1.base < s.version) :
    ∃ t head, (a.run .lastWriterWins (oneByOne order)).slots.find? field = some t ∧
      t.head = some head ∧ Prevails holder (order.map (·.1)) head ∧
      (head :: losers (a.history .lastWriterWins (oneByOne order))).Perm
        (holder :: order.map (·.1)) := by
  induction order generalizing a s holder with
  | nil =>
    have hnone : ∀ x ∈ ([] : List Diff), x.key ≤ holder.key := fun _ h ↦ absurd h List.not_mem_nil
    exact ⟨s, holder, hs, hholder, ⟨List.mem_cons_self, .inl rfl, hnone⟩, List.Perm.refl [holder]⟩
  | cons p order ih =>
    obtain ⟨d, now⟩ := p
    obtain ⟨⟨hfield, hbase⟩, hlate⟩ := List.forall_mem_cons.1 hlate
    subst hfield
    let c : Call := ⟨d.device, [d], now⟩
    let events := (a.after .lastWriterWins c).history .lastWriterWins (oneByOne order)
    have hlosers : losers (a.history .lastWriterWins (oneByOne ((d, now) :: order))) =
        (a.event .lastWriterWins c).reported.map (·.loser) ++ losers events := by
      rw [losers, losers, ← List.map_append]
      rfl
    rw [hlosers]
    rcases after_single .lastWriterWins ha now hs hholder hbase with
      ⟨hwinner, ⟨u, hu, hhead, hversion⟩, hreported⟩ | ⟨hwinner, hslots, hreported⟩
    · obtain ⟨t, head, ht, hthead, hprevails, hperm⟩ := ih (ha.after c) hu hhead
        fun p hp ↦ ⟨(hlate p hp).1, (hlate p hp).2.trans_le hversion⟩
      have hlt : holder.key < d.key := (Policy.winner_rank_eq_challenger_iff holder d).1 hwinner
      refine ⟨t, head, ht, hthead, hprevails.cons_of_lt hlt, ?_⟩
      rw [hreported]
      exact (List.Perm.swap holder head _).trans (hperm.cons holder)
    · rw [← hslots] at hs
      obtain ⟨t, head, ht, hthead, hprevails, hperm⟩ := ih (ha.after c) hs hholder hlate
      have hle : d.key ≤ holder.key := (Policy.winner_rank_eq_incumbent_iff holder d).1 hwinner
      refine ⟨t, head, ht, hthead, hprevails.cons_of_le hle, ?_⟩
      rw [hreported]
      calc
        List.Perm (head :: d :: losers events) (d :: head :: losers events) := .swap d head _
        List.Perm _ (d :: holder :: order.map (·.1)) := hperm.cons d
        List.Perm _ (holder :: d :: order.map (·.1)) := .swap holder d _

/-- Late diffs that arrive one by one under applied-wins change nothing, and each loses to the head
that was there before them all. -/
theorem run_oneByOne_appliedWins (order : List (Diff × Instant)) (ha : a.Sound) {field : String}
    (hs : a.slots.find? field = some s) (hholder : s.head = some holder)
    (hlate : ∀ p ∈ order, p.1.field = field ∧ p.1.base < s.version) :
    (a.run .appliedWins (oneByOne order)).slots = a.slots ∧
      (a.history .appliedWins (oneByOne order)).map Event.reported =
        order.map fun p ↦ [⟨field, holder, p.1, .appliedWins, .alreadyApplied⟩] := by
  induction order generalizing a with
  | nil => exact ⟨rfl, rfl⟩
  | cons p order ih =>
    obtain ⟨d, now⟩ := p
    obtain ⟨⟨hfield, hbase⟩, hlate⟩ := List.forall_mem_cons.1 hlate
    subst hfield
    let c : Call := ⟨d.device, [d], now⟩
    rcases after_single .appliedWins ha now hs hholder hbase with
      ⟨hwinner, -, -⟩ | ⟨-, hslots, hreported⟩
    · cases hwinner
    · rw [← hslots] at hs
      obtain ⟨hrun, hhistory⟩ := ih (ha.after c) hs hlate
      constructor
      · calc
          _ = ((a.after .appliedWins c).run .appliedWins (oneByOne order)).slots := rfl
          _ = (a.after .appliedWins c).slots := hrun
          _ = a.slots := hslots
      · rw [List.map_cons, ← hhistory]
        exact congrArg (· :: _) hreported

end Arena

namespace Engine

/-- Late diffs for a written field, with different keys and each submitted on its own, may arrive
in any order. Under last-writer-wins every order leaves the same head and the same losers, which
are the old head and the submitted diffs but for the new head. Under applied-wins every order
leaves the profile as it was, and every diff loses to the old head. -/
theorem arrival_order_irrelevant {fields : List String} {policy : Policy} {e : Engine}
    (he : (new fields policy).Reaches e) {user field : String} {s : Slot}
    (hs : (e.arena user).slots.find? field = some s) (hversion : 0 < s.version) {ds : List Diff}
    (hlate : ∀ d ∈ ds, d.field = field ∧ d.base < s.version)
    (hkeys : (ds.map fun d ↦ (d.base, d.time, d.device)).Nodup) :
    ∃ old, s.head = some old ∧
      (policy = .lastWriterWins → ∃ head, Prevails old ds head ∧
        ∀ order : List (Diff × Instant), (order.map (·.1)).Perm ds →
          (∃ t, ((e.run user (oneByOne order)).arena user).slots.find? field = some t ∧
            t.head = some head ∧ (e.run user (oneByOne order)).field? user field =
              some ⟨field, head.value, t.version, some head.device, some head.time⟩) ∧
          (head :: losers (e.history user (oneByOne order))).Perm (old :: ds)) ∧
      (policy = .appliedWins → ∀ order : List (Diff × Instant), (order.map (·.1)).Perm ds →
        ((e.run user (oneByOne order)).arena user).slots = (e.arena user).slots ∧
          (e.history user (oneByOne order)).map Event.reported =
            order.map fun p ↦ [⟨field, old, p.1, .appliedWins, .alreadyApplied⟩]) := by
  have hsound := sound_of_reaches_new he user
  have hpolicy : e.policy = policy := he.policy_eq
  obtain ⟨old, hold⟩ := (hsound.slot hs).exists_head hversion
  have horder {order : List (Diff × Instant)} (hperm : (order.map (·.1)).Perm ds) :
      ∀ p ∈ order, p.1.field = field ∧ p.1.base < s.version :=
    fun p hp ↦ hlate p.1 (hperm.subset (List.mem_map_of_mem hp))
  refine ⟨old, hold, ?_, ?_⟩
  · rintro rfl
    have hkeys' : (ds.map Diff.key).Nodup :=
      List.pairwise_map.2 ((List.pairwise_map.1 hkeys).imp fun hne heq ↦
        hne ((Diff.key_eq_iff _ _).1 heq))
    have hrun {order : List (Diff × Instant)} (hperm : (order.map (·.1)).Perm ds) :
        ∃ t head, ((e.run user (oneByOne order)).arena user).slots.find? field = some t ∧
          t.head = some head ∧ Prevails old ds head ∧
          (head :: losers (e.history user (oneByOne order))).Perm (old :: ds) := by
      obtain ⟨t, head, ht, hhead, hprevails, hlosers⟩ :=
        Arena.run_oneByOne order hsound hs hold (horder hperm)
      rw [arena_run, history_eq, hpolicy]
      exact ⟨t, head, ht, hhead, hprevails.perm hperm, hlosers.trans (hperm.cons old)⟩
    have hsome : ((ds.map fun d ↦ (d, Instant.epoch)).map (·.1)).Perm ds := by
      rw [List.map_map]
      exact .of_eq (List.map_id ds)
    obtain ⟨-, head, -, -, hprevails, -⟩ := hrun hsome
    refine ⟨head, hprevails, fun order hperm ↦ ?_⟩
    obtain ⟨t, head', ht, hhead, hprevails', hlosers⟩ := hrun hperm
    obtain rfl := hprevails.unique hkeys' hprevails'
    refine ⟨⟨t, ht, hhead, ?_⟩, hlosers⟩
    have hreaches : (new fields .lastWriterWins).Reaches (e.run user (oneByOne order)) :=
      he.trans (Reaches.run e user _)
    have hslot : t.Sound field := (sound_of_reaches_new hreaches user).slot ht
    rw [field?, ht, Option.map_some, Slot.view, hhead, hslot.head_value hhead]
    rfl
  · rintro rfl order hperm
    rw [arena_run, history_eq, hpolicy]
    exact Arena.run_oneByOne_appliedWins order hsound hs hold (horder hperm)

/-- Two late diffs in both orders: the same head, under different versions. -/
theorem arrival_order_irrelevant_two :
    let e := (new ["dns"] .lastWriterWins).run "u"
      [⟨"a", [⟨"dns", 0, .text "X", "", ⟨1, 0, by decide⟩⟩], .epoch⟩]
    let y : Diff := ⟨"dns", 0, .text "Y", "b", ⟨20, 0, by decide⟩⟩
    let z : Diff := ⟨"dns", 0, .text "Z", "c", ⟨50, 0, by decide⟩⟩
    let yz := oneByOne [(y, .epoch), (z, .epoch)]
    let zy := oneByOne [(z, .epoch), (y, .epoch)]
    (new ["dns"] .lastWriterWins).Reaches e ∧
      (∃ s, (e.arena "u").slots.find? "dns" = some s ∧ 0 < s.version ∧
        ∀ d ∈ [y, z], d.field = "dns" ∧ d.base < s.version) ∧
      ([y, z].map fun d ↦ (d.base, d.time, d.device)).Nodup ∧
      (∃ old head, (head :: losers (e.history "u" yz)).Perm [old, y, z] ∧
        (head :: losers (e.history "u" zy)).Perm [old, y, z]) ∧
      ((e.run "u" yz).field? "u" "dns").map (·.version) = some 3 ∧
      ((e.run "u" zy).field? "u" "dns").map (·.version) = some 2 := by
  intro e y z yz zy
  have hreaches : (new ["dns"] .lastWriterWins).Reaches e := Reaches.run _ _ _
  have hversion : ((e.arena "u").slots.find? "dns").map (·.version) = some 1 := by decide
  obtain ⟨s, hs, hone⟩ := Option.map_eq_some_iff.1 hversion
  have hpositive : 0 < s.version := hone ▸ Nat.one_pos
  have hlate : ∀ d ∈ [y, z], d.field = "dns" ∧ d.base < s.version := by
    rw [hone]
    decide
  have hkeys : ([y, z].map fun d ↦ (d.base, d.time, d.device)).Nodup := by decide
  obtain ⟨old, -, hlww, -⟩ := arrival_order_irrelevant hreaches hs hpositive hlate hkeys
  obtain ⟨head, -, horders⟩ := hlww rfl
  refine ⟨hreaches, ⟨s, hs, hpositive, hlate⟩, hkeys, ⟨old, head, ?_, ?_⟩, by decide, by decide⟩
  · exact (horders [(y, .epoch), (z, .epoch)] (.refl _)).2
  · exact (horders [(z, .epoch), (y, .epoch)] (.swap y z [])).2

end Engine

end DeviceSync.Profile
