import DeviceSync.Table
import Mathlib.Algebra.Ring.Nat

/-!
# Tables and Their Keys

What a table made from a list of keys holds, and what listing a table shows: exactly its look-ups.
-/

namespace DeviceSync.Table

universe u

variable {α : Type u}

theorem mem_entries_iff (t : Table α) (key : String) (x : α) :
    (key, x) ∈ t.entries ↔ t.find? key = some x := by
  constructor
  · exact Entries.find?_of_mem t.ordered
  · exact Entries.mem_of_find?

theorem mem_keys_iff (t : Table α) (key : String) : key ∈ t.keys ↔ (t.find? key).isSome := by
  rw [keys, List.mem_map, Option.isSome_iff_exists]
  constructor
  · rintro ⟨⟨_, x⟩, hmem, rfl⟩
    exact ⟨x, (mem_entries_iff t _ x).1 hmem⟩
  · rintro ⟨x, hx⟩
    exact ⟨(key, x), (mem_entries_iff t key x).2 hx, rfl⟩

/-- Keys are listed in ascending order. -/
theorem pairwise_keys (t : Table α) : t.keys.Pairwise (· < ·) :=
  List.pairwise_map.2 t.ordered

/-- A key is listed once. -/
theorem nodup_keys (t : Table α) : t.keys.Nodup := by
  apply t.pairwise_keys.imp
  rintro key _ h rfl
  exact String.lt_irrefl key h

theorem find?_foldl_insert (keys : List String) (t : Table α) (x : α) (key : String) :
    (keys.foldl (fun t key ↦ t.insert key x) t).find? key =
      if key ∈ keys then some x else t.find? key := by
  induction keys generalizing t with
  | nil => simp
  | cons first rest ih =>
    rw [List.foldl_cons, ih, find?_insert]
    by_cases hrest : key ∈ rest
    · simp [hrest]
    · by_cases hfirst : first = key
      · simp [hfirst]
      · simp [hrest, hfirst, Ne.symm hfirst]

theorem find?_ofKeys (keys : List String) (x : α) (key : String) :
    (ofKeys keys x).find? key = if key ∈ keys then some x else none := by
  rw [ofKeys, find?_foldl_insert, find?_empty]

theorem mem_keys_ofKeys (keys : List String) (x : α) (key : String) :
    key ∈ (ofKeys keys x).keys ↔ key ∈ keys := by
  rw [mem_keys_iff, find?_ofKeys]
  by_cases h : key ∈ keys <;> simp [h]

theorem forall_mem_values {t : Table α} {P : α → Prop}
    (h : ∀ key x, t.find? key = some x → P x) : ∀ x ∈ t.values, P x := by
  intro x hx
  obtain ⟨⟨key, _⟩, hmem, rfl⟩ := List.mem_map.1 hx
  exact h key _ ((mem_entries_iff t key _).1 hmem)

/-! ## The same key again -/

theorem insert_insert (t : Table α) (key : String) (x y : α) :
    (t.insert key x).insert key y = t.insert key y := by
  ext1 other
  simp only [find?_insert]
  split <;> rfl

theorem erase_erase (t : Table α) (key : String) : (t.erase key).erase key = t.erase key := by
  ext1 other
  simp only [find?_erase]
  split <;> rfl

theorem erase_insert_of_ne (t : Table α) {key other : String} (hne : key ≠ other) (x : α) :
    (t.erase key).insert other x = (t.insert other x).erase key := by
  ext1 third
  simp only [find?_insert, find?_erase]
  by_cases hthird : key = third
  · rw [if_pos hthird, if_pos hthird, if_neg fun h ↦ hne (hthird.trans h.symm)]
  · rw [if_neg hthird, if_neg hthird]

/-! ## Sums -/

/-- Putting another value under a key that is there changes a sum over all values by the difference
of the two. -/
theorem sum_values_insert (t : Table α) {key : String} {x : α} (y : α) (f : α → Nat)
    (h : t.find? key = some x) :
    ((t.insert key y).values.map f).sum + f x = (t.values.map f).sum + f y := by
  obtain ⟨entries, ho⟩ := t
  change Entries.find? key entries = some x at h
  change (((Entries.insert key y entries).map (·.2)).map f).sum + f x =
    ((entries.map (·.2)).map f).sum + f y
  induction entries with
  | nil => cases h
  | cons entry rest ih =>
    obtain ⟨k, z⟩ := entry
    obtain ⟨hfirst, hrest⟩ := List.pairwise_cons.1 ho
    by_cases hk : k = key
    · subst hk
      rw [Entries.find?, if_pos rfl] at h
      obtain rfl := Option.some.inj h
      rw [Entries.insert, if_neg (String.lt_irrefl k), if_pos rfl]
      simp only [List.map_cons, List.sum_cons]
      omega
    · rw [Entries.find?, if_neg hk] at h
      have hlt : ¬key < k := by
        intro hlt
        have hnone : Entries.find? key rest = none :=
          Entries.find?_eq_none_of_lt fun entry hmem ↦ String.lt_trans hlt (hfirst entry hmem)
        rw [hnone] at h
        contradiction
      rw [Entries.insert, if_neg hlt, if_neg (Ne.symm hk)]
      simp only [List.map_cons, List.sum_cons]
      have hsum := ih hrest h
      omega

end DeviceSync.Table
