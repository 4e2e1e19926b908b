import DeviceSync.Manifest.Store
import DeviceSync.Proofs.Table
import Mathlib.Algebra.BigOperators.Group.Finset.Basic
import Mathlib.Data.List.DropRight

/-!
# Logs Hold the Latest Arrivals

A log counts its bytes as it goes: it adds what arrives and subtracts what it drops. The main
statement compares a store with the envelopes that were put into it, from which everything can be
computed afresh. The log of a device is the end of what was accepted for the device, and every
number that the store tells is that of its logs.

An envelope that was refused leaves no trace, and what an envelope says about its time has no
influence on what is dropped.
-/

namespace DeviceSync.Manifest

/-! ## The end of a list -/

section LatestOf

variable {α : Type} (n : Nat)

theorem rtake_cons (x : α) (xs : List α) :
    (x :: xs).rtake n = if xs.length < n then x :: xs else xs.rtake n := by
  simp only [List.rtake, List.length_cons]
  split
  next h => simp [Nat.sub_eq_zero_of_le (show xs.length + 1 ≤ n from h)]
  next h => simp [Nat.succ_sub (Nat.le_of_not_lt h)]

theorem length_rtake (xs : List α) : (xs.rtake n).length = min xs.length n := by
  simp only [List.rtake, List.length_drop]
  omega

/-- What is no longer at the end of a list is not at the end of a longer one. -/
theorem rtake_rtake_append (xs ys : List α) : (xs.rtake n ++ ys).rtake n = (xs ++ ys).rtake n := by
  have hle : xs.length - n ≤ xs.length := Nat.sub_le ..
  simp only [List.rtake]
  rw [← List.drop_append_of_le_length hle, List.drop_drop]
  congr 1
  simp only [List.length_drop, List.length_append]
  omega

theorem rtake_suffix (xs : List α) : xs.rtake n <:+ xs :=
  List.drop_suffix ..

end LatestOf

/-! ## Logs -/

/-- The size of some envelopes together. -/
def totalSize (es : List Envelope) : Nat :=
  (es.map (·.size)).sum

@[simp]
theorem totalSize_cons (e : Envelope) (es : List Envelope) :
    totalSize (e :: es) = e.size + totalSize es := rfl

theorem totalSize_append (es fs : List Envelope) :
    totalSize (es ++ fs) = totalSize es + totalSize fs := by
  simp [totalSize]

theorem totalSize_le {bound : Nat} {es : List Envelope} (h : ∀ e ∈ es, e.size ≤ bound) :
    totalSize es ≤ es.length * bound := by
  induction es with
  | nil => simp [totalSize]
  | cons e es ih =>
    obtain ⟨he, hes⟩ := List.forall_mem_cons.1 h
    rw [totalSize_cons, List.length_cons, Nat.add_mul, Nat.one_mul, Nat.add_comm]
    exact Nat.add_le_add (ih hes) he

namespace Log

/-- The log that has received some envelopes. -/
def ofArrivals (retention : Nat) (es : List Envelope) : Log :=
  ⟨es.rtake retention, totalSize (es.rtake retention)⟩

theorem evict_totalSize (retention : Nat) (es : List Envelope) :
    evict retention (totalSize es) es = ofArrivals retention es := by
  induction es with
  | nil => simp [evict, ofArrivals, totalSize]
  | cons oldest others ih =>
    rw [evict, ofArrivals, rtake_cons]
    split
    · rfl
    · rw [totalSize_cons, Nat.add_sub_cancel_left, ih]
      rfl

theorem ofArrivals_nil (retention : Nat) : ofArrivals retention [] = empty := by
  simp [ofArrivals, empty, totalSize]

theorem bytes_ofArrivals_add (retention : Nat) (es : List Envelope) (e : Envelope) :
    (ofArrivals retention es).bytes + e.size =
      totalSize ((ofArrivals retention es).entries ++ [e]) := by
  simp [ofArrivals, totalSize]

/-- A log needs to know no more of what it has received than what it still holds. -/
theorem push_ofArrivals (retention : Nat) (es : List Envelope) (e : Envelope) :
    (ofArrivals retention es).push retention e = ofArrivals retention (es ++ [e]) := by
  rw [push, bytes_ofArrivals_add, evict_totalSize]
  simp only [ofArrivals, rtake_rtake_append]

/-- Dropping the oldest entries never subtracts more bytes than are counted. -/
def Affords (retention bytes : Nat) : List Envelope → Prop
  | [] => True
  | oldest :: others =>
    others.length < retention ∨
      oldest.size ≤ bytes ∧ Affords retention (bytes - oldest.size) others

theorem affords_totalSize (retention : Nat) (es : List Envelope) :
    Affords retention (totalSize es) es := by
  induction es with
  | nil => trivial
  | cons oldest others ih =>
    refine .inr ⟨?_, ?_⟩
    · simp
    · simpa using ih

/-! ### What logs drop -/

/-- The entries that are dropped until no more than `retention` are left. -/
def evicted (retention : Nat) : List Envelope → List Envelope
  | [] => []
  | oldest :: others =>
    if others.length < retention then [] else oldest :: evicted retention others

/-- What a log drops while it receives some envelopes, one after another. -/
def dropped (retention : Nat) : Log → List Envelope → List Envelope
  | _, [] => []
  | l, e :: es => evicted retention (l.entries ++ [e]) ++ dropped retention (l.push retention e) es

theorem evicted_append_evict (retention bytes : Nat) (es : List Envelope) :
    evicted retention es ++ (evict retention bytes es).entries = es := by
  induction es generalizing bytes with
  | nil => rfl
  | cons oldest others ih =>
    rw [evicted, evict]
    split
    · rfl
    · rw [List.cons_append, ih]

/-- Whatever comes into a log is dropped at some time or still there. -/
theorem dropped_append_foldl_push (retention : Nat) (l : Log) (es : List Envelope) :
    dropped retention l es ++ (es.foldl (push retention) l).entries = l.entries ++ es := by
  induction es generalizing l with
  | nil => simp [dropped]
  | cons e es ih =>
    calc
      _ = evicted retention (l.entries ++ [e]) ++
          (dropped retention (l.push retention e) es ++
            (es.foldl (push retention) (l.push retention e)).entries) := List.append_assoc ..
      _ = evicted retention (l.entries ++ [e]) ++ (l.push retention e).entries ++ es := by
        rw [ih, List.append_assoc]
      _ = l.entries ++ e :: es := by
        rw [push, evicted_append_evict, List.append_assoc]
        rfl

theorem foldl_push_ofArrivals (retention : Nat) (past es : List Envelope) :
    es.foldl (push retention) (ofArrivals retention past) = ofArrivals retention (past ++ es) := by
  induction es generalizing past with
  | nil => rw [List.append_nil, List.foldl_nil]
  | cons e es ih => rw [List.foldl_cons, push_ofArrivals, ih, List.append_assoc, List.singleton_append]

/-- The bytes that arrived are the bytes that were dropped and those that are counted. -/
theorem totalSize_dropped_add (retention : Nat) (es : List Envelope) :
    totalSize (dropped retention empty es) + (ofArrivals retention es).bytes = totalSize es := by
  have hfold : es.foldl (push retention) empty = ofArrivals retention es := by
    rw [← ofArrivals_nil retention, foldl_push_ofArrivals, List.nil_append]
  have hparts := dropped_append_foldl_push retention empty es
  rw [hfold] at hparts
  calc
    _ = totalSize (dropped retention empty es ++ (ofArrivals retention es).entries) :=
      (totalSize_append ..).symm
    _ = totalSize es := by
      rw [hparts]
      rfl

end Log

/-! ## Stores -/

namespace Store

variable (s : Store) (device : String) (e : Envelope)

/-- The store with one more envelope in the log of a device. -/
def append : Store :=
  { s with logs := s.logs.insert device ((s.log device).push s.retention e) }

/-- An envelope is refused only for its size. -/
theorem put_eq :
    s.put device e =
      if ∀ limit ∈ s.limit, e.size ≤ limit then .ok (s.append device e)
      else .error (.capacityExceeded device e.size (s.limit.getD 0)) := by
  unfold put append
  cases s.limit with
  | none => exact (if_pos fun _ hmem ↦ nomatch hmem).symm
  | some limit =>
    by_cases hsize : limit < e.size
    · rw [if_neg fun h ↦ Nat.not_le_of_lt hsize (h limit rfl)]
      exact if_pos hsize
    · rw [if_pos fun _ hmem ↦ Option.some.inj hmem ▸ Nat.le_of_not_lt hsize]
      exact if_neg hsize

theorem log_append (other : String) :
    (s.append device e).log other =
      if device = other then (s.log device).push s.retention e else s.log other := by
  simp only [log, append, Table.find?_insert]
  split <;> rfl

theorem log_new (retention : Nat) (limit : Option Nat) :
    (new retention limit).log device = .empty := rfl

/-- Put envelopes into the logs of devices, one after another. One that is refused changes
nothing. -/
def putAll (puts : List (String × Envelope)) : Store :=
  puts.foldl (fun s (device, e) ↦ (s.put device e).toOption.getD s) s

/-- The envelopes that a store with a limit accepts for a device, in order. -/
def accepted (limit : Option Nat) (device : String) (puts : List (String × Envelope)) :
    List Envelope :=
  (puts.filter fun (name, e) ↦ name = device ∧ ∀ bound ∈ limit, e.size ≤ bound).map (·.2)

variable (puts : List (String × Envelope))

theorem putAll_concat :
    s.putAll (puts ++ [(device, e)]) =
      if ∀ bound ∈ (s.putAll puts).limit, e.size ≤ bound then (s.putAll puts).append device e
      else s.putAll puts := by
  have hfold : s.putAll (puts ++ [(device, e)]) =
      ((s.putAll puts).put device e).toOption.getD (s.putAll puts) := by
    simp [putAll]
  rw [hfold, put_eq]
  split <;> rfl

theorem setup_putAll : (s.putAll puts).retention = s.retention ∧ (s.putAll puts).limit = s.limit := by
  induction puts using List.reverseRecOn with
  | nil => exact ⟨rfl, rfl⟩
  | append_singleton puts put ih =>
    rw [putAll_concat]
    split
    · exact ih
    · exact ih

theorem accepted_concat (limit : Option Nat) (name : String) :
    accepted limit name (puts ++ [(device, e)]) =
      if device = name ∧ ∀ bound ∈ limit, e.size ≤ bound then accepted limit name puts ++ [e]
      else accepted limit name puts := by
  rw [accepted, List.filter_append, List.map_append, ← accepted]
  by_cases h : device = name ∧ ∀ bound ∈ limit, e.size ≤ bound
  · rw [if_pos h, List.filter_cons_of_pos (by simpa using h)]
    rfl
  · rw [if_neg h, List.filter_cons_of_neg (by simpa using h)]
    exact List.append_nil _

theorem accepted_eq_nil (limit : Option Nat) {name : String} (h : name ∉ puts.map (·.1)) :
    accepted limit name puts = [] := by
  rw [accepted, List.map_eq_nil_iff, List.filter_eq_nil_iff]
  rintro ⟨other, e⟩ hmem hother
  apply h
  simp only [decide_eq_true_eq] at hother
  exact List.mem_map.2 ⟨(other, e), hmem, hother.1⟩

theorem size_le_of_mem_accepted {limit : Option Nat} {bound : Nat} (hbound : bound ∈ limit)
    {name : String} {e : Envelope} (h : e ∈ accepted limit name puts) : e.size ≤ bound := by
  simp only [accepted, List.mem_map, List.mem_filter, decide_eq_true_eq] at h
  obtain ⟨⟨_, _⟩, ⟨-, -, hsize⟩, rfl⟩ := h
  exact hsize bound hbound

/-- The log of a device has received what was accepted for the device. -/
theorem log_putAll (retention : Nat) (limit : Option Nat) (name : String) :
    ((new retention limit).putAll puts).log name =
      .ofArrivals (max retention 1) (accepted limit name puts) := by
  induction puts using List.reverseRecOn with
  | nil => exact (log_new ..).trans (Log.ofArrivals_nil _).symm
  | append_singleton puts put ih =>
    obtain ⟨device, e⟩ := put
    obtain ⟨hretention, hlimit⟩ := setup_putAll (new retention limit) puts
    rw [putAll_concat, accepted_concat, hlimit]
    change (if ∀ bound ∈ limit, e.size ≤ bound then _ else _ : Store).log name = _
    by_cases hsize : ∀ bound ∈ limit, e.size ≤ bound
    · rw [if_pos hsize, log_append]
      by_cases hname : device = name
      · subst hname
        rw [if_pos rfl, if_pos ⟨rfl, hsize⟩, ih, hretention]
        exact Log.push_ofArrivals ..
      · rw [if_neg hname, if_neg fun h ↦ hname h.1, ih]
    · rw [if_neg hsize, if_neg fun h ↦ hsize h.2, ih]

theorem totalBytes_eq (logs : List Log) : Log.totalBytes logs = (logs.map (·.bytes)).sum := by
  induction logs with
  | nil => rfl
  | cons l logs ih => rw [Log.totalBytes, ih, List.map_cons, List.sum_cons]

theorem used_eq_zero {name : String} (h : name ∉ s.logs.keys) : s.used name = 0 := by
  rw [Table.mem_keys_iff, Option.not_isSome_iff_eq_none] at h
  rw [used, log, h]
  rfl

/-- The total is that of the devices which have a log. -/
theorem total_eq_sum_keys : s.total = ∑ name ∈ s.logs.keys.toFinset, s.used name := by
  rw [List.sum_toFinset _ s.logs.nodup_keys, total, totalBytes_eq, Table.values, Table.keys,
    List.map_map, List.map_map]
  congr 1
  apply List.map_congr_left
  rintro ⟨name, l⟩ hmem
  have hlog : s.log name = l := by rw [log, (Table.mem_entries_iff ..).1 hmem, Option.getD_some]
  simp [used, hlog]

/-- The total is that of any devices beyond which nothing is stored. -/
theorem total_eq_sum {names : Finset String} (h : ∀ name ∉ names, s.used name = 0) :
    s.total = ∑ name ∈ names, s.used name := by
  rw [total_eq_sum_keys]
  calc ∑ name ∈ s.logs.keys.toFinset, s.used name
      = ∑ name ∈ s.logs.keys.toFinset ∪ names, s.used name :=
        Finset.sum_subset Finset.subset_union_left fun name _ hname ↦
          s.used_eq_zero (by simpa using hname)
    _ = ∑ name ∈ names, s.used name :=
        (Finset.sum_subset Finset.subset_union_right fun name _ hname ↦ h name hname).symm

/-- After any envelopes were put into a new store, the log of a device holds the latest of those
that were accepted for it, as many as the retention allows, in the order of their arrival. What the
store tells of the device is told of just these, and the total is that of all devices. An envelope
is accepted exactly if it is within the limit, and making room for it never takes the count of bytes
below zero. -/
theorem putAll_holds_latest (retention : Nat) (limit : Option Nat)
    (puts : List (String × Envelope)) (device : String) :
    let s := (new retention limit).putAll puts
    let arrivals := accepted limit device puts
    let kept := arrivals.rtake (max retention 1)
    kept.length = min arrivals.length (max retention 1) ∧
      (s.log device).entries = kept ∧
      (∀ since, s.manifests device since = kept.filter (since < ·.createdAt)) ∧
      s.used device = (kept.map (·.size)).sum ∧
      (∀ bound ∈ limit, s.used device ≤ max retention 1 * bound) ∧
      s.count device = kept.length ∧
      s.total = ∑ name ∈ (puts.map (·.1)).toFinset, s.used name ∧
      (∀ e, s.put device e =
        if ∀ bound ∈ limit, e.size ≤ bound then
          .ok ((new retention limit).putAll (puts ++ [(device, e)]))
        else .error (.capacityExceeded device e.size (limit.getD 0))) ∧
      ∀ e, Log.Affords s.retention ((s.log device).bytes + e.size)
        ((s.log device).entries ++ [e]) := by
  intro s arrivals kept
  have hlog : s.log device = .ofArrivals (max retention 1) arrivals := log_putAll ..
  have hlimit : s.limit = limit := (setup_putAll ..).2
  have hlength : kept.length = min arrivals.length (max retention 1) := length_rtake ..
  have hused : s.used device = totalSize kept := congrArg Log.bytes hlog
  refine ⟨hlength, congrArg Log.entries hlog, ?_, hused, ?_, ?_, ?_, ?_, ?_⟩
  · intro since
    rw [manifests, Log.after, hlog]
    rfl
  · intro bound hbound
    have hsizes : ∀ e ∈ kept, e.size ≤ bound := fun e hmem ↦
      size_le_of_mem_accepted puts hbound ((rtake_suffix _ _).subset hmem)
    calc s.used device
        = totalSize kept := hused
      _ ≤ kept.length * bound := totalSize_le hsizes
      _ ≤ max retention 1 * bound := Nat.mul_le_mul_right _ (hlength ▸ Nat.min_le_right ..)
  · rw [count, hlog]
    rfl
  · apply total_eq_sum
    intro name hname
    rw [List.mem_toFinset] at hname
    rw [used, log_putAll, accepted_eq_nil puts limit hname, Log.ofArrivals_nil]
    rfl
  · intro e
    rw [put_eq, putAll_concat]
    change (if ∀ bound ∈ s.limit, e.size ≤ bound then _ else _) = _
    rw [hlimit]
    by_cases hsize : ∀ bound ∈ limit, e.size ≤ bound
    · rw [if_pos hsize, if_pos hsize, if_pos hsize]
    · rw [if_neg hsize, if_neg hsize]
  · intro e
    rw [hlog, Log.bytes_ofArrivals_add]
    exact Log.affords_totalSize ..

end Store

end DeviceSync.Manifest
