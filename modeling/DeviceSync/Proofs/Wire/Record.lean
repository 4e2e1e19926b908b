import DeviceSync.Proofs.Json.Opaque
import DeviceSync.Proofs.Json.Printer
import DeviceSync.Wire.Record

/-!
# Records Read Back

A value is read back from the JSON that it is written as, if its codec says so part by part. For a
record this needs that no two of its fields share a key.
-/

namespace DeviceSync

open Json (Document Fault Closing)

namespace Codec

/-- Whether a value is read back from its own JSON, with `room` for nested arrays and objects. -/
def ReadsBack {α : Type} (c : Codec α) (room : Nat) (x : α) : Prop :=
  c.decode room (.ofJson (c.encode x)) = .ok x

theorem text_readsBack (room : Nat) (s : String) : text.ReadsBack room s := by
  simp [ReadsBack, text, Document.ofJson]

theorem integerIn_readsBack (room : Nat) {least limit i : Int} (h : least ≤ i ∧ i < limit) :
    (integerIn least limit).ReadsBack room i := by
  simp [ReadsBack, integerIn, Document.ofJson, h]

theorem named_readsBack {α : Type} {name : α → String} {readName? : String → Option α}
    (room : Nat) {x : α} (h : readName? (name x) = some x) :
    (named name readName?).ReadsBack room x := by
  simp [ReadsBack, named, Document.ofJson, ofName?, h]

end Codec

namespace Fields

variable {τ : Type}

/-- Whether all parts of the content of a record are read back. -/
def ReadsBack (room : Nat) {τ : Type} : Fields τ → τ → Prop
  | nil, () => True
  | cons field others, (x, xs) => field.codec.ReadsBack room x ∧ others.ReadsBack room xs

/-- The slots when the value of every field has been found. -/
def filledSlots {τ : Type} : (fields : Fields τ) → τ → fields.Slots
  | nil, () => ()
  | cons _ others, (x, xs) => (some x, others.filledSlots xs)

theorem finish_filledSlots {τ : Type} (fields : Fields τ) (t : τ) :
    fields.finish (fields.filledSlots t) = .ok t := by
  induction fields with
  | nil => rfl
  | cons field others ih =>
    obtain ⟨x, xs⟩ := t
    have hxs := ih xs
    simp only [finish, filledSlots]
    rw [hxs]
    rfl

section Place

variable {α β : Type} {room : Nat} {key : String} {value : Document}

theorem placeAll_of_ok {fields : Fields τ} {slots : fields.Slots} {found : Option fields.Slots}
    (h : fields.place room key value slots = .ok found)
    (members : List (Option String × Document)) :
    fields.placeAll room slots ((some key, value) :: members) =
      found.elim (if value.intact then fields.placeAll room slots members else .error .malformed)
        fun slots ↦ fields.placeAll room slots members := by
  rw [placeAll, h]
  cases found <;> rfl

theorem placeAll_of_error {fields : Fields τ} {slots : fields.Slots} {fault : Fault}
    (h : fields.place room key value slots = .error fault)
    (members : List (Option String × Document)) :
    fields.placeAll room slots ((some key, value) :: members) = .error fault := by
  rw [placeAll, h]
  rfl

theorem place_cons_of_ne {field : Field α} {others : Fields β} (h : field.name ≠ key)
    (x : Option α) (slots : others.Slots) :
    (cons field others).place room key value (x, slots) =
      (others.place room key value slots).map (Option.map fun slots ↦ (x, slots)) := by
  simp only [place, if_neg h]
  rfl

/-- The first field takes no part in an object whose members all have other keys. -/
theorem placeAll_cons_of_ne {field : Field α} {others : Fields β} (x : Option α)
    (slots : others.Slots) (members : List (Option String × Document))
    (h : ∀ m ∈ members, m.1 ≠ some field.name) :
    (cons field others).placeAll room (x, slots) members =
      (others.placeAll room slots members).map fun slots ↦ (x, slots) := by
  induction members generalizing slots with
  | nil => rfl
  | cons m members ih =>
    obtain ⟨key, value⟩ := m
    have hrest := fun slots ↦ ih slots fun m hm ↦ h m (List.mem_cons_of_mem _ hm)
    cases key with
    | none => rfl
    | some key =>
      have hne : field.name ≠ key := fun heq ↦ h _ List.mem_cons_self (heq ▸ rfl)
      have hplace : (cons field others).place room key value (x, slots) = _ :=
        place_cons_of_ne hne x slots
      cases hfound : others.place room key value slots with
      | error fault =>
        rw [hfound] at hplace
        rw [placeAll_of_error hplace, placeAll_of_error hfound]
        rfl
      | ok found =>
        rw [hfound] at hplace
        rw [placeAll_of_ok hplace, placeAll_of_ok hfound]
        cases found with
        | some slots => exact hrest slots
        | none =>
          cases hintact : value.intact with
          | true => exact hrest slots
          | false => rfl

end Place

/-- The members of a record that was written, as a reader finds them. -/
def members {τ : Type} (fields : Fields τ) (t : τ) : List (Option String × Document) :=
  Document.ofMembers (fields.encode t)

theorem exists_name_of_mem_members {τ : Type} (fields : Fields τ) (t : τ)
    {m : Option String × Document} (h : m ∈ fields.members t) :
    ∃ name ∈ fields.names, m.1 = some name := by
  induction fields with
  | nil => exact nomatch h
  | cons field others ih =>
    obtain ⟨x, xs⟩ := t
    rcases List.mem_cons.1 h with rfl | h
    · exact ⟨field.name, List.mem_cons_self, rfl⟩
    · obtain ⟨name, hname, hm⟩ := ih xs h
      exact ⟨name, List.mem_cons_of_mem _ hname, hm⟩

/-- Whether the members of an object are the fields of a record in order, each with a document that
its part is read from. -/
def Finds (room : Nat) {τ : Type} : Fields τ → List (Option String × Document) → τ → Prop
  | nil, members, () => members = []
  | cons field others, members, (x, xs) => ∃ d rest,
      members = (some field.name, d) :: rest ∧ field.codec.decode room d = .ok x ∧
        others.Finds room rest xs

theorem Finds.exists_name {τ : Type} {room : Nat} {fields : Fields τ}
    {members : List (Option String × Document)} {t : τ} (h : fields.Finds room members t)
    {m : Option String × Document} (hm : m ∈ members) : ∃ name ∈ fields.names, m.1 = some name := by
  induction fields generalizing members with
  | nil =>
    obtain rfl : members = [] := h
    exact nomatch hm
  | cons field others ih =>
    obtain ⟨x, xs⟩ := t
    obtain ⟨d, rest, rfl, -, hrest⟩ := h
    rcases List.mem_cons.1 hm with rfl | hm
    · exact ⟨field.name, List.mem_cons_self, rfl⟩
    · obtain ⟨name, hname, hkey⟩ := ih hrest hm
      exact ⟨name, List.mem_cons_of_mem _ hname, hkey⟩

/-- The first member of an object goes to the first field, if it has its key and no other one. -/
theorem placeAll_first {α β : Type} {room : Nat} {field : Field α} {others : Fields β}
    (d : Document) {rest : List (Option String × Document)}
    (hrest : ∀ m ∈ rest, m.1 ≠ some field.name) :
    (cons field others).placeAll room (emptySlots (cons field others))
        ((some field.name, d) :: rest) =
      (field.codec.decode room d).bind fun x ↦
        (others.placeAll room others.emptySlots rest).map fun slots ↦ (some x, slots) := by
  have hplace : (cons field others).place room field.name d (emptySlots (cons field others)) =
      (field.codec.decode room d).bind fun x ↦ .ok (some (some x, others.emptySlots)) := by
    simp only [place, emptySlots, if_pos]
    rfl
  cases hx : field.codec.decode room d with
  | error fault =>
    rw [hx] at hplace
    exact placeAll_of_error hplace _
  | ok x =>
    rw [hx] at hplace
    exact (placeAll_of_ok hplace _).trans (placeAll_cons_of_ne _ _ _ hrest)

/-- If no two fields share a key, every field finds its value. -/
theorem placeAll_of_finds {τ : Type} {room : Nat} {fields : Fields τ} (hnames : fields.names.Nodup)
    {members : List (Option String × Document)} {t : τ} (h : fields.Finds room members t) :
    fields.placeAll room fields.emptySlots members = .ok (fields.filledSlots t) := by
  induction fields generalizing members with
  | nil =>
    obtain rfl : members = [] := h
    rfl
  | cons field others ih =>
    obtain ⟨x, xs⟩ := t
    obtain ⟨d, rest, rfl, hx, hrest⟩ := h
    obtain ⟨hname, hnames⟩ := List.nodup_cons.1 hnames
    have hne : ∀ m ∈ rest, m.1 ≠ some field.name := by
      intro m hm heq
      obtain ⟨name, hmem, hkey⟩ := hrest.exists_name hm
      exact hname (Option.some.inj (heq.symm.trans hkey) ▸ hmem)
    rw [placeAll_first d hne, hx, ih hnames hrest]
    rfl

/-- In turn, members that have the keys of the fields are what the parts are read from. -/
theorem exists_finds_of_placeAll {τ : Type} {room : Nat} {fields : Fields τ}
    (hnames : fields.names.Nodup) {members : List (Option String × Document)}
    (hkeys : members.map (·.1) = fields.names.map some) {slots : fields.Slots}
    (h : fields.placeAll room fields.emptySlots members = .ok slots) :
    ∃ t, fields.Finds room members t := by
  induction fields generalizing members with
  | nil => exact ⟨(), List.map_eq_nil_iff.1 hkeys⟩
  | cons field others ih =>
    obtain ⟨m, rest, rfl, hkey, hothers⟩ := List.map_eq_cons_iff.1 hkeys
    obtain ⟨key, d⟩ := m
    obtain rfl : key = some field.name := hkey
    obtain ⟨hname, hnames⟩ := List.nodup_cons.1 hnames
    have hne : ∀ m ∈ rest, m.1 ≠ some field.name := by
      intro m hm heq
      have hmem : m.1 ∈ others.names.map some := hothers ▸ List.mem_map_of_mem hm
      obtain ⟨name, hname', hsome⟩ := List.mem_map.1 hmem
      exact hname (Option.some.inj (hsome.trans heq) ▸ hname')
    rw [placeAll_first d hne] at h
    obtain ⟨x, hx, h⟩ := bind_eq_ok_iff.1 h
    obtain ⟨slots, hslots, -⟩ := map_eq_ok_iff.1 h
    obtain ⟨xs, hxs⟩ := ih hnames hothers hslots
    exact ⟨(x, xs), d, rest, rfl, hx, hxs⟩

theorem decodeMembers_of_finds {τ : Type} {room : Nat} {fields : Fields τ}
    (hnames : fields.names.Nodup) {members : List (Option String × Document)} {t : τ}
    (h : fields.Finds room members t) : fields.decodeMembers room members .closed = .ok t := by
  rw [decodeMembers, placeAll_of_finds hnames h]
  exact fields.finish_filledSlots t

theorem exists_finds_of_decodeMembers {τ : Type} {room : Nat} {fields : Fields τ}
    (hnames : fields.names.Nodup) {members : List (Option String × Document)}
    (hkeys : members.map (·.1) = fields.names.map some) {closing : Closing} {t : τ}
    (h : fields.decodeMembers room members closing = .ok t) :
    ∃ t', fields.Finds room members t' := by
  obtain ⟨slots, hslots, -⟩ := bind_eq_ok_iff.1 h
  exact exists_finds_of_placeAll hnames hkeys hslots

theorem ReadsBack.finds {τ : Type} {room : Nat} {fields : Fields τ} {t : τ}
    (h : fields.ReadsBack room t) : fields.Finds room (fields.members t) t := by
  induction fields with
  | nil => rfl
  | cons field others ih =>
    obtain ⟨x, xs⟩ := t
    exact ⟨_, _, rfl, h.1, ih h.2⟩

theorem decodeMembers_members {τ : Type} {room : Nat} {fields : Fields τ} {t : τ}
    (hnames : fields.names.Nodup) (h : fields.ReadsBack room t) :
    fields.decodeMembers room (fields.members t) .closed = .ok t :=
  decodeMembers_of_finds hnames h.finds

end Fields

namespace Codec

theorem record_readsBack {α τ : Type} {fields : Fields τ} {make : τ → α} {parts : α → τ}
    (room : Nat) {x : α} (hnames : fields.names.Nodup) (hparts : fields.ReadsBack room (parts x))
    (hmake : make (parts x) = x) : (record fields make parts).ReadsBack (room + 1) x := by
  change (fields.decodeMembers room (fields.members (parts x)) .closed).map make = .ok x
  rw [Fields.decodeMembers_members hnames hparts, Except.map, hmake]

/-- The octets of the text of a value are read as its document, with nothing behind it. -/
theorem ofOctets_toText {α : Type} (c : Codec α) {x : α} (h : (c.encode x).Integral) :
    Document.ofOctets (Text.octets (c.toText x)) = (.ofJson (c.encode x), true) := by
  rw [Document.ofOctets_octets, toText, Document.ofText_compact h]

end Codec

end DeviceSync
