/-!
# Tables

Finite maps from text, kept as lists of entries in ascending order of their keys. The order is part
of the type, so two tables with the same look-ups are equal, and listing a table always lists it in
key order.

Every operation has one lemma that says what it does to look-ups.
-/

namespace DeviceSync

universe u v

/-! ## Lists of entries -/

namespace Entries

variable {α : Type u} {β : Type v}

/-- The value under a key. -/
def find? (key : String) : List (String × α) → Option α
  | [] => none
  | (k, x) :: rest => if k = key then some x else find? key rest

/-- Put a value under a key, in place of the one that is there; in an ordered list the key goes
where the order wants it. -/
def insert (key : String) (x : α) : List (String × α) → List (String × α)
  | [] => [(key, x)]
  | (k, y) :: rest =>
    if key < k then (key, x) :: (k, y) :: rest
    else if key = k then (key, x) :: rest
    else (k, y) :: insert key x rest

/-- Remove a key. -/
def erase (key : String) (entries : List (String × α)) : List (String × α) :=
  entries.filter fun entry ↦ entry.1 ≠ key

/-- Whether the keys ascend. -/
def Ordered (entries : List (String × α)) : Prop :=
  entries.Pairwise fun x y ↦ x.1 < y.1

theorem lt_of_not_lt_of_ne {s t : String} (h : ¬s < t) (hne : s ≠ t) : t < s :=
  Std.lt_of_le_of_ne (String.not_lt.1 h) hne.symm

theorem find?_insert (key other : String) (x : α) (entries : List (String × α)) :
    find? other (insert key x entries) = if key = other then some x else find? other entries := by
  induction entries with
  | nil => simp [insert, find?]
  | cons entry rest ih =>
    obtain ⟨k, y⟩ := entry
    simp only [insert]
    split
    · simp [find?]
    · split
      · subst k
        by_cases h : key = other <;> simp [find?, h]
      · by_cases h : k = other
        · grind [find?]
        · simp [find?, h, ih]

theorem mem_insert {key : String} {x : α} {entry : String × α} {entries : List (String × α)}
    (h : entry ∈ insert key x entries) : entry = (key, x) ∨ entry ∈ entries := by
  induction entries with
  | nil => simpa [insert] using h
  | cons first rest ih =>
    obtain ⟨k, y⟩ := first
    simp only [insert] at h
    split at h
    · simpa using h
    · split at h <;> grind

theorem ordered_insert (key : String) (x : α) {entries : List (String × α)}
    (h : Ordered entries) : Ordered (insert key x entries) := by
  induction entries with
  | nil => simp [insert, Ordered]
  | cons first rest ih =>
    obtain ⟨k, y⟩ := first
    obtain ⟨hfirst, hrest⟩ := List.pairwise_cons.1 h
    simp only [insert]
    split
    next hlt =>
      refine List.pairwise_cons.2 ⟨fun entry hmem ↦ ?_, h⟩
      rcases List.mem_cons.1 hmem with rfl | hmem
      · exact hlt
      · exact String.lt_trans hlt (hfirst entry hmem)
    next hnot =>
      split
      next heq => exact List.pairwise_cons.2 ⟨heq ▸ hfirst, hrest⟩
      next hne =>
        refine List.pairwise_cons.2 ⟨fun entry hmem ↦ ?_, ih hrest⟩
        rcases mem_insert hmem with rfl | hmem
        · exact lt_of_not_lt_of_ne hnot hne
        · exact hfirst entry hmem

theorem find?_erase (key other : String) (entries : List (String × α)) :
    find? other (erase key entries) = if key = other then none else find? other entries := by
  induction entries with
  | nil => simp [erase, find?]
  | cons entry rest ih =>
    obtain ⟨k, y⟩ := entry
    simp only [erase] at ih
    by_cases hk : k = key
    · subst k
      by_cases h : key = other <;> simp_all [erase, find?]
    · by_cases h : key = other
      · subst other
        simp_all [erase, find?]
      · simp_all [erase, find?]

theorem find?_map (f : α → β) (key : String) (entries : List (String × α)) :
    find? key (entries.map fun entry ↦ (entry.1, f entry.2)) = (find? key entries).map f := by
  induction entries with
  | nil => rfl
  | cons entry rest ih =>
    obtain ⟨k, y⟩ := entry
    by_cases h : k = key <;> simp_all [find?]

theorem mem_of_find? {key : String} {x : α} {entries : List (String × α)}
    (h : find? key entries = some x) : (key, x) ∈ entries := by
  induction entries with
  | nil => simp [find?] at h
  | cons entry rest ih =>
    obtain ⟨k, y⟩ := entry
    by_cases hk : k = key <;> simp_all [find?]

theorem find?_eq_none_of_lt {key : String} {entries : List (String × α)}
    (h : ∀ entry ∈ entries, key < entry.1) : find? key entries = none := by
  cases hfind : find? key entries with
  | none => rfl
  | some x => exact absurd (h _ (mem_of_find? hfind)) (String.lt_irrefl key)

theorem find?_of_mem {key : String} {x : α} {entries : List (String × α)} (ho : Ordered entries)
    (h : (key, x) ∈ entries) : find? key entries = some x := by
  induction entries with
  | nil => simp at h
  | cons entry rest ih =>
    obtain ⟨k, y⟩ := entry
    obtain ⟨hfirst, hrest⟩ := List.pairwise_cons.1 ho
    rcases List.mem_cons.1 h with heq | hmem
    · simp_all [find?]
    · have hne : k ≠ key := fun e ↦ String.lt_irrefl key (e ▸ hfirst _ hmem)
      simp [find?, hne, ih hrest hmem]

theorem eq_of_find?_eq {s t : List (String × α)} (hs : Ordered s) (ht : Ordered t)
    (h : ∀ key, find? key s = find? key t) : s = t := by
  induction s generalizing t with
  | nil =>
    cases t with
    | nil => rfl
    | cons entry rest => have := h entry.1; simp [find?] at this
  | cons x s ih =>
    obtain ⟨hx, hs'⟩ := List.pairwise_cons.1 hs
    cases t with
    | nil => have := h x.1; simp [find?] at this
    | cons y t =>
      obtain ⟨hy, ht'⟩ := List.pairwise_cons.1 ht
      have hkey : x.1 = y.1 := by
        have hxy := h x.1
        have hyx := h y.1
        by_cases hne : x.1 = y.1
        · exact hne
        · by_cases hlt : x.1 < y.1
          · have : find? x.1 (y :: t) = none := find?_eq_none_of_lt fun entry hmem ↦ by
              rcases List.mem_cons.1 hmem with rfl | hmem
              · exact hlt
              · exact String.lt_trans hlt (hy entry hmem)
            rw [this] at hxy
            simp [find?] at hxy
          · have hlt := lt_of_not_lt_of_ne hlt hne
            have : find? y.1 (x :: s) = none := find?_eq_none_of_lt fun entry hmem ↦ by
              rcases List.mem_cons.1 hmem with rfl | hmem
              · exact hlt
              · exact String.lt_trans hlt (hx entry hmem)
            rw [this] at hyx
            simp [find?] at hyx
      have hval : x.2 = y.2 := by simpa [find?, hkey] using h x.1
      have hxy : x = y := Prod.ext hkey hval
      subst y
      refine congrArg (x :: ·) (ih hs' ht' fun key ↦ ?_)
      have hkey := h key
      by_cases hk : x.1 = key
      · subst hk
        rw [find?_eq_none_of_lt hx, find?_eq_none_of_lt hy]
      · simpa [find?, hk] using hkey

end Entries

/-! ## Tables -/

/-- A finite map from text. -/
structure Table (α : Type u) where
  entries : List (String × α)
  ordered : Entries.Ordered entries

namespace Table

variable {α : Type u} {β : Type v}

def empty : Table α := ⟨[], List.Pairwise.nil⟩

instance : Inhabited (Table α) := ⟨empty⟩

def find? (t : Table α) (key : String) : Option α :=
  Entries.find? key t.entries

def contains (t : Table α) (key : String) : Bool :=
  (t.find? key).isSome

def insert (t : Table α) (key : String) (x : α) : Table α :=
  ⟨Entries.insert key x t.entries, Entries.ordered_insert key x t.ordered⟩

def erase (t : Table α) (key : String) : Table α :=
  ⟨Entries.erase key t.entries, t.ordered.filter _⟩

/-- Apply a function to the values. -/
def map (f : α → β) (t : Table α) : Table β :=
  ⟨t.entries.map fun entry ↦ (entry.1, f entry.2), by
    simpa [Entries.Ordered, List.pairwise_map] using t.ordered⟩

def keys (t : Table α) : List String :=
  t.entries.map (·.1)

def values (t : Table α) : List α :=
  t.entries.map (·.2)

def size (t : Table α) : Nat :=
  t.entries.length

/-- The table with the given value under each of the given keys. -/
def ofKeys (keys : List String) (x : α) : Table α :=
  keys.foldl (fun t key ↦ t.insert key x) empty

@[simp]
theorem find?_empty (key : String) : (empty : Table α).find? key = none := rfl

theorem find?_insert (t : Table α) (key other : String) (x : α) :
    (t.insert key x).find? other = if key = other then some x else t.find? other :=
  Entries.find?_insert key other x t.entries

theorem find?_erase (t : Table α) (key other : String) :
    (t.erase key).find? other = if key = other then none else t.find? other :=
  Entries.find?_erase key other t.entries

theorem find?_map (f : α → β) (t : Table α) (key : String) :
    (t.map f).find? key = (t.find? key).map f :=
  Entries.find?_map f key t.entries

/-- Tables with the same look-ups are equal. -/
@[ext]
theorem ext {s t : Table α} (h : ∀ key, s.find? key = t.find? key) : s = t := by
  obtain ⟨entries, hs⟩ := s
  obtain ⟨entries', ht⟩ := t
  obtain rfl := Entries.eq_of_find?_eq hs ht h
  rfl

end Table

end DeviceSync
