import DeviceSync.Json.Document

/-!
# Opaque Values Read Back

A value that nobody looks into is read from its document if there is room for all of its arrays and
objects. A reader keeps the members of an object in the order of their keys: whatever it reads is
kept like that, and what is kept like that is read back as it was.
-/

namespace DeviceSync

/-- Of two steps that may fail both have succeeded. -/
theorem bind_eq_ok_iff {ε α β : Type} {x : Except ε α} {f : α → Except ε β} {r : β} :
    x >>= f = .ok r ↔ ∃ a, x = .ok a ∧ f a = .ok r := by
  cases x with
  | error e => exact iff_of_false nofun fun ⟨_, h, _⟩ ↦ nomatch h
  | ok a =>
    constructor
    · exact fun h ↦ ⟨a, rfl, h⟩
    · rintro ⟨_, h, hf⟩
      cases h
      exact hf

theorem map_eq_ok_iff {ε α β : Type} {x : Except ε α} {f : α → β} {r : β} :
    x.map f = .ok r ↔ ∃ a, x = .ok a ∧ f a = r := by
  cases x with
  | error e => exact iff_of_false nofun fun ⟨_, h, _⟩ ↦ nomatch h
  | ok a =>
    constructor
    · exact fun h ↦ ⟨a, rfl, Except.ok.inj h⟩
    · rintro ⟨_, h, rfl⟩
      cases h
      rfl

/-- In an ordered list a key that comes after all others goes to the end. -/
theorem Entries.insert_of_forall_lt {α : Type} {key : String} (x : α)
    {entries : List (String × α)} (h : ∀ entry ∈ entries, entry.1 < key) :
    insert key x entries = entries ++ [(key, x)] := by
  induction entries with
  | nil => rfl
  | cons entry rest ih =>
    obtain ⟨hentry, hrest⟩ := List.forall_mem_cons.1 h
    have hlt : ¬key < entry.1 := String.lt_asymm hentry
    have hne : key ≠ entry.1 := fun heq ↦ String.lt_irrefl key (heq ▸ hentry)
    rw [insert, if_neg hlt, if_neg hne, ih hrest, List.cons_append]

namespace Json

mutual

/-- How many arrays and objects of a value lie inside each other. -/
def depth : Json → Nat
  | array items => depthOfItems items + 1
  | object members => depthOfMembers members + 1
  | _ => 0

def depthOfItems : List Json → Nat
  | [] => 0
  | item :: items => max (depth item) (depthOfItems items)

def depthOfMembers : List (String × Json) → Nat
  | [] => 0
  | (_, value) :: members => max (depth value) (depthOfMembers members)

end

/-- Where there is room for an array or object, what is inside it has the rest of the room. -/
theorem exists_room_inside {depth room : Nat} (h : depth + 1 ≤ room) :
    ∃ inner, room = inner + 1 ∧ depth ≤ inner := by
  cases room with
  | zero => exact absurd h (Nat.not_succ_le_zero depth)
  | succ inner => exact ⟨inner, rfl, Nat.le_of_succ_le_succ h⟩

mutual

/-- Whether the keys of every object ascend, so that none stands there twice. -/
def Canonical : Json → Prop
  | array items => CanonicalItems items
  | object members => Entries.Ordered members ∧ CanonicalMembers members
  | _ => True

def CanonicalItems : List Json → Prop
  | [] => True
  | item :: items => Canonical item ∧ CanonicalItems items

def CanonicalMembers : List (String × Json) → Prop
  | [] => True
  | (_, value) :: members => Canonical value ∧ CanonicalMembers members

end

theorem canonicalMembers_iff {members : List (String × Json)} :
    CanonicalMembers members ↔ ∀ m ∈ members, m.2.Canonical := by
  induction members with
  | nil => simp [CanonicalMembers]
  | cons m members ih => rw [CanonicalMembers, ih, List.forall_mem_cons]

theorem canonicalMembers_insert {v : Json} (key : String) (hv : v.Canonical)
    {members : List (String × Json)} (h : CanonicalMembers members) :
    CanonicalMembers (Entries.insert key v members) := by
  rw [canonicalMembers_iff] at h ⊢
  intro m hm
  rcases Entries.mem_insert hm with rfl | hm
  · exact hv
  · exact h m hm

namespace Document

/-! ## What is read -/

mutual

/-- Whatever is read is kept with ascending keys. -/
theorem canonical_of_toJson (d : Document) {room : Nat} {v : Json} (h : d.toJson room = .ok v) :
    v.Canonical :=
  match d, room, h with
  | .null, _, rfl => trivial
  | .bool _, _, rfl => trivial
  | .number (.ok _), _, rfl => trivial
  | .text (.ok _), _, rfl => trivial
  | .array items closing, room + 1, h => by
    rw [toJson] at h
    obtain ⟨values, hvalues, h⟩ := bind_eq_ok_iff.1 h
    obtain ⟨-, -, h⟩ := bind_eq_ok_iff.1 h
    exact Except.ok.inj h ▸ canonical_of_toItems items hvalues
  | .object members closing, room + 1, h => by
    rw [toJson] at h
    obtain ⟨entries, hentries, h⟩ := bind_eq_ok_iff.1 h
    obtain ⟨-, -, h⟩ := bind_eq_ok_iff.1 h
    exact Except.ok.inj h ▸ canonical_of_toMembers members List.Pairwise.nil trivial hentries

theorem canonical_of_toItems (items : List Document) {room : Nat} {values : List Json}
    (h : toItems room items = .ok values) : CanonicalItems values :=
  match items, h with
  | [], rfl => trivial
  | item :: items, h => by
    rw [toItems] at h
    obtain ⟨value, hvalue, h⟩ := bind_eq_ok_iff.1 h
    obtain ⟨others, hothers, h⟩ := bind_eq_ok_iff.1 h
    exact Except.ok.inj h ▸ ⟨canonical_of_toJson item hvalue, canonical_of_toItems items hothers⟩

theorem canonical_of_toMembers (members : List (Option String × Document)) {room : Nat}
    {done entries : List (String × Json)} (hordered : Entries.Ordered done)
    (hdone : CanonicalMembers done) (h : toMembers room done members = .ok entries) :
    Entries.Ordered entries ∧ CanonicalMembers entries :=
  match members, h with
  | [], rfl => ⟨hordered, hdone⟩
  | (some key, value) :: members, h => by
    rw [toMembers] at h
    obtain ⟨v, hv, h⟩ := bind_eq_ok_iff.1 h
    exact canonical_of_toMembers members (Entries.ordered_insert key v hordered)
      (canonicalMembers_insert key (canonical_of_toJson value hv) hdone) h

end

/-! ## What is written -/

mutual

/-- Some value is read from the document of any value. -/
theorem exists_toJson_ofJson (v : Json) {room : Nat} (hroom : v.depth ≤ room) :
    ∃ w, (ofJson v).toJson room = .ok w :=
  match v, hroom with
  | .null, _ => ⟨_, rfl⟩
  | .bool _, _ => ⟨_, rfl⟩
  | .number _, _ => ⟨_, rfl⟩
  | .text _, _ => ⟨_, rfl⟩
  | .array items, hroom => by
    obtain ⟨inner, rfl, hinner⟩ := exists_room_inside hroom
    obtain ⟨values, hvalues⟩ := exists_toItems_ofItems items hinner
    rw [ofJson, toJson, hvalues]
    exact ⟨_, rfl⟩
  | .object members, hroom => by
    obtain ⟨inner, rfl, hinner⟩ := exists_room_inside hroom
    obtain ⟨entries, hentries⟩ := exists_toMembers_ofMembers members hinner []
    rw [ofJson, toJson, hentries]
    exact ⟨_, rfl⟩

theorem exists_toItems_ofItems (items : List Json) {room : Nat}
    (hroom : depthOfItems items ≤ room) : ∃ values, toItems room (ofItems items) = .ok values :=
  match items, hroom with
  | [], _ => ⟨_, rfl⟩
  | item :: items, hroom => by
    obtain ⟨hfirst, hothers⟩ := Nat.max_le.1 hroom
    obtain ⟨value, hvalue⟩ := exists_toJson_ofJson item hfirst
    obtain ⟨values, hvalues⟩ := exists_toItems_ofItems items hothers
    rw [ofItems, toItems, hvalue, hvalues]
    exact ⟨_, rfl⟩

theorem exists_toMembers_ofMembers (members : List (String × Json)) {room : Nat}
    (hroom : depthOfMembers members ≤ room) (done : List (String × Json)) :
    ∃ entries, toMembers room done (ofMembers members) = .ok entries :=
  match members, hroom with
  | [], _ => ⟨_, rfl⟩
  | (key, value) :: members, hroom => by
    obtain ⟨hfirst, hothers⟩ := Nat.max_le.1 hroom
    obtain ⟨w, hw⟩ := exists_toJson_ofJson value hfirst
    rw [ofMembers, toMembers, hw]
    exact exists_toMembers_ofMembers members hothers (Entries.insert key w done)

end

mutual

/-- A value is read back from its document if it is kept as a reader keeps it. -/
theorem toJson_ofJson (v : Json) (hv : v.Canonical) {room : Nat} (hroom : v.depth ≤ room) :
    (ofJson v).toJson room = .ok v :=
  match v, hv, hroom with
  | .null, _, _ => rfl
  | .bool _, _, _ => rfl
  | .number _, _, _ => rfl
  | .text _, _, _ => rfl
  | .array items, hv, hroom => by
    obtain ⟨inner, rfl, hinner⟩ := exists_room_inside hroom
    rw [ofJson, toJson, toItems_ofItems items hv hinner]
    rfl
  | .object members, hv, hroom => by
    obtain ⟨inner, rfl, hinner⟩ := exists_room_inside hroom
    rw [ofJson, toJson, toMembers_ofMembers members hv.2 hinner [] hv.1]
    rfl

theorem toItems_ofItems (items : List Json) (hitems : CanonicalItems items) {room : Nat}
    (hroom : depthOfItems items ≤ room) : toItems room (ofItems items) = .ok items :=
  match items, hitems, hroom with
  | [], _, _ => rfl
  | item :: items, hitems, hroom => by
    obtain ⟨hfirst, hothers⟩ := Nat.max_le.1 hroom
    rw [ofItems, toItems, toJson_ofJson item hitems.1 hfirst,
      toItems_ofItems items hitems.2 hothers]
    rfl

/-- Members with ascending keys are kept in the order in which they come. -/
theorem toMembers_ofMembers (members : List (String × Json)) (hmembers : CanonicalMembers members)
    {room : Nat} (hroom : depthOfMembers members ≤ room) (done : List (String × Json))
    (hordered : Entries.Ordered (done ++ members)) :
    toMembers room done (ofMembers members) = .ok (done ++ members) :=
  match members, hmembers, hroom with
  | [], _, _ => by
    rw [ofMembers, toMembers, List.append_nil]
  | (key, value) :: members, hmembers, hroom => by
    obtain ⟨hfirst, hothers⟩ := Nat.max_le.1 hroom
    have hlast : ∀ entry ∈ done, entry.1 < key := fun entry hmem ↦
      (List.pairwise_append.1 hordered).2.2 entry hmem (key, value) List.mem_cons_self
    have happend : done ++ (key, value) :: members = done ++ [(key, value)] ++ members :=
      List.append_cons ..
    rw [happend] at hordered ⊢
    rw [ofMembers, toMembers, toJson_ofJson value hmembers.1 hfirst]
    change toMembers room (Entries.insert key value done) (ofMembers members) = _
    rw [Entries.insert_of_forall_lt value hlast]
    exact toMembers_ofMembers members hmembers.2 hothers _ hordered

end

end Document

end Json

end DeviceSync
