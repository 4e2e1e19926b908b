import DeviceSync.Proofs.Json.Drawn
import DeviceSync.Wire.Record

/-!
# What Codecs Yield

What is known of a value that a codec has read from a text: of an integer its range, of an opaque
value that it nests no deeper than the room it was read with. For a list and a record it is known
part by part; the parts that a record was read without have to be good by themselves.
-/

namespace DeviceSync

open Json (Document Closing)

namespace Codec

variable {α : Type}

/-- Whether all that is read from a text, with so much room, has a property. -/
def Yields (limit room : Nat) (c : Codec α) (P : α → Prop) : Prop :=
  ∀ d x, d.Drawn limit → c.decode room d = .ok x → P x

variable {limit room : Nat} {c : Codec α} {P : α → Prop}

theorem yields_trivial : c.Yields limit room fun _ ↦ True :=
  fun _ _ _ _ ↦ trivial

theorem opaqueValue_yields : opaqueValue.Yields limit room (·.Within room) :=
  fun d _ hd h ↦ d.within_of_toJson hd h

theorem integerIn_yields (least greatest : Int) :
    (integerIn least greatest).Yields limit room fun i ↦ least ≤ i ∧ i < greatest := by
  intro d i _ h
  unfold integerIn at h
  dsimp only at h
  split at h
  next =>
    split at h
    next hrange => exact Except.ok.inj h ▸ hrange
    next => cases h
  next => cases h

theorem unsigned_yields (bits : Nat) : (unsigned bits).Yields limit room (· < twoTo bits) := by
  intro d n hd h
  change ((integerIn 0 (twoTo bits)).decode room d).map Int.toNat = .ok n at h
  obtain ⟨i, hi, rfl⟩ := map_eq_ok_iff.1 h
  have hrange := integerIn_yields _ _ d i hd hi
  omega

theorem forall_of_decodeItems (hc : c.Yields limit room P) {items : List Document} {xs : List α}
    (hitems : Document.DrawnItems limit items) (h : c.decodeItems room items = .ok xs) :
    xs.length = items.length ∧ ∀ x ∈ xs, P x := by
  induction items generalizing xs with
  | nil =>
    obtain rfl := Except.ok.inj h
    exact ⟨rfl, nofun⟩
  | cons item items ih =>
    obtain ⟨x, hx, h⟩ := bind_eq_ok_iff.1 h
    obtain ⟨others, hothers, h⟩ := bind_eq_ok_iff.1 h
    obtain rfl := Except.ok.inj h
    obtain ⟨hlength, hall⟩ := ih hitems.2 hothers
    exact ⟨congrArg (· + 1) hlength, List.forall_mem_cons.2 ⟨hc item x hitems.1 hx, hall⟩⟩

theorem list_yields (hc : c.Yields limit room P) :
    (list c).Yields limit (room + 1) fun xs ↦ xs.length ≤ limit ∧ ∀ x ∈ xs, P x := by
  intro d xs hd h
  cases d with
  | array items closing =>
    obtain ⟨ys, hys, h⟩ := bind_eq_ok_iff.1 h
    obtain ⟨-, -, h⟩ := bind_eq_ok_iff.1 h
    obtain rfl := Except.ok.inj h
    obtain ⟨hlength, hall⟩ := forall_of_decodeItems hc hd.2 hys
    exact ⟨hlength ▸ hd.1, hall⟩
  | _ => exact nomatch h

end Codec

namespace Field

variable {α : Type} {limit room : Nat} {c : Codec α} {P : α → Prop}

/-- Whether a field yields values with a property, also where it was left out. -/
structure Yields (limit room : Nat) (field : Field α) (P : α → Prop) : Prop where
  codec : field.codec.Yields limit room P
  ifAbsent : ∀ x, field.ifAbsent = some x → P x
  ifShort : ∀ x, field.ifShort = some x → P x

theorem required_yields (name : String) (h : c.Yields limit room P) :
    (required name c).Yields limit room P :=
  ⟨h, (fun _ hx ↦ nomatch hx), fun _ hx ↦ nomatch hx⟩

theorem defaulted_yields (name : String) (h : c.Yields limit room P) {x : α} (hx : P x) :
    (defaulted name c x).Yields limit room P :=
  ⟨h, fun _ hy ↦ Option.some.inj hy ▸ hx, fun _ hy ↦ Option.some.inj hy ▸ hx⟩

end Field

namespace Fields

/-- A property for each part of the content of a record. -/
def Claims {τ : Type} : Fields τ → Type
  | nil => Unit
  | @cons α _ _ others => (α → Prop) × Claims others

/-- Whether every part of the content of a record has its property. -/
def Holds {τ : Type} : (fields : Fields τ) → fields.Claims → τ → Prop
  | nil, _, _ => True
  | @cons α _ _ others, claims, (x, xs) =>
    let claims : (α → Prop) × others.Claims := claims
    claims.1 x ∧ others.Holds claims.2 xs

/-- Whether every part that has been found so far has its property. -/
def HoldsSoFar {τ : Type} : (fields : Fields τ) → fields.Claims → fields.Slots → Prop
  | nil, _, _ => True
  | @cons α _ _ others, claims, slots =>
    let claims : (α → Prop) × others.Claims := claims
    let slots : Option α × others.Slots := slots
    (∀ x ∈ slots.1, claims.1 x) ∧ others.HoldsSoFar claims.2 slots.2

/-- Whether all fields yield what is claimed of them. -/
def Yields (limit room : Nat) {τ : Type} : (fields : Fields τ) → fields.Claims → Prop
  | nil, _ => True
  | @cons α _ field others, claims =>
    let claims : (α → Prop) × others.Claims := claims
    field.Yields limit room claims.1 ∧ others.Yields limit room claims.2

variable {limit room : Nat} {τ : Type}

theorem holds_of_decodeItems {fields : Fields τ} {claims : fields.Claims}
    (hfields : fields.Yields limit room claims) {closing : Closing} {items : List Document} {t : τ}
    (hitems : Document.DrawnItems limit items)
    (h : fields.decodeItems room closing items = .ok t) : fields.Holds claims t := by
  induction fields generalizing items with
  | nil => trivial
  | cons field others ih =>
    obtain ⟨hfield, hothers⟩ := hfields
    cases items with
    | nil =>
      unfold decodeItems at h
      split at h
      · cases h
      · cases h
      next x hx =>
        obtain ⟨xs, hxs, h⟩ := bind_eq_ok_iff.1 h
        obtain rfl := Except.ok.inj h
        have hnone : Document.DrawnItems limit [] := trivial
        exact ⟨hfield.ifShort x hx, ih hothers hnone hxs⟩
    | cons item items =>
      obtain ⟨x, hx, h⟩ := bind_eq_ok_iff.1 h
      obtain ⟨xs, hxs, h⟩ := bind_eq_ok_iff.1 h
      obtain rfl := Except.ok.inj h
      exact ⟨hfield.codec item x hitems.1 hx, ih hothers hitems.2 hxs⟩

theorem holdsSoFar_emptySlots (fields : Fields τ) (claims : fields.Claims) :
    fields.HoldsSoFar claims fields.emptySlots := by
  induction fields with
  | nil => trivial
  | cons field others ih => exact ⟨nofun, ih _⟩

theorem holdsSoFar_place {fields : Fields τ} {claims : fields.Claims}
    (hfields : fields.Yields limit room claims) {key : String} {value : Document}
    {slots slots' : fields.Slots} (hvalue : value.Drawn limit)
    (hslots : fields.HoldsSoFar claims slots)
    (h : fields.place room key value slots = .ok (some slots')) :
    fields.HoldsSoFar claims slots' := by
  induction fields with
  | nil => cases h
  | cons field others ih =>
    obtain ⟨hfield, hothers⟩ := hfields
    unfold place at h
    dsimp only at h
    split at h
    next =>
      split at h
      next => cases h
      next =>
        obtain ⟨x, hx, h⟩ := bind_eq_ok_iff.1 h
        obtain rfl := Option.some.inj (Except.ok.inj h)
        exact ⟨fun y hy ↦ Option.some.inj hy ▸ hfield.codec value x hvalue hx, hslots.2⟩
    next =>
      obtain ⟨found, hfound, h⟩ := bind_eq_ok_iff.1 h
      obtain ⟨rest, rfl, rfl⟩ := Option.map_eq_some_iff.1 (Except.ok.inj h)
      exact ⟨hslots.1, ih hothers hslots.2 hfound⟩

theorem holdsSoFar_placeAll {fields : Fields τ} {claims : fields.Claims}
    (hfields : fields.Yields limit room claims) {members : List (Option String × Document)}
    {slots slots' : fields.Slots} (hmembers : Document.DrawnMembers limit members)
    (hslots : fields.HoldsSoFar claims slots)
    (h : fields.placeAll room slots members = .ok slots') : fields.HoldsSoFar claims slots' := by
  induction members generalizing slots with
  | nil => exact Except.ok.inj h ▸ hslots
  | cons m members ih =>
    obtain ⟨key, value⟩ := m
    cases key with
    | none => cases h
    | some key =>
      obtain ⟨found, hfound, h⟩ := bind_eq_ok_iff.1 h
      cases found with
      | some slots => exact ih hmembers.2 (holdsSoFar_place hfields hmembers.1 hslots hfound) h
      | none =>
        dsimp only at h
        split at h
        next => exact ih hmembers.2 hslots h
        next => cases h

theorem holds_of_finish {fields : Fields τ} {claims : fields.Claims}
    (hfields : fields.Yields limit room claims) {slots : fields.Slots} {t : τ}
    (hslots : fields.HoldsSoFar claims slots) (h : fields.finish slots = .ok t) :
    fields.Holds claims t := by
  induction fields with
  | nil => trivial
  | cons field others ih =>
    obtain ⟨hfield, hothers⟩ := hfields
    obtain ⟨found, slots⟩ := slots
    simp only [finish] at h
    split at h
    next x hx =>
      change (do let xs ← others.finish slots; return (x, xs)) = .ok t at h
      obtain ⟨xs, hxs, h⟩ := bind_eq_ok_iff.1 h
      obtain rfl := Except.ok.inj h
      refine ⟨?_, ih hothers hslots.2 hxs⟩
      cases found with
      | some y => exact Option.some.inj hx ▸ hslots.1 y rfl
      | none => exact hfield.ifAbsent x hx
    next => cases h

theorem holds_of_decodeMembers {fields : Fields τ} {claims : fields.Claims}
    (hfields : fields.Yields limit room claims) {members : List (Option String × Document)}
    {closing : Closing} {t : τ} (hmembers : Document.DrawnMembers limit members)
    (h : fields.decodeMembers room members closing = .ok t) : fields.Holds claims t := by
  obtain ⟨slots, hslots, h⟩ := bind_eq_ok_iff.1 h
  obtain ⟨-, -, h⟩ := bind_eq_ok_iff.1 h
  have hfound := holdsSoFar_placeAll hfields hmembers (fields.holdsSoFar_emptySlots claims) hslots
  exact holds_of_finish hfields hfound h

end Fields

theorem Codec.record_yields {α τ : Type} {limit room : Nat} {fields : Fields τ} {make : τ → α}
    {parts : α → τ} (claims : fields.Claims) (hfields : fields.Yields limit room claims)
    {P : α → Prop} (hmake : ∀ t, fields.Holds claims t → P (make t)) :
    (record fields make parts).Yields limit (room + 1) P := by
  intro d x hd h
  cases d with
  | array items closing =>
    change (fields.decodeItems room closing items).map make = .ok x at h
    obtain ⟨t, ht, rfl⟩ := map_eq_ok_iff.1 h
    exact hmake t (Fields.holds_of_decodeItems hfields hd.2 ht)
  | object members closing =>
    change (fields.decodeMembers room members closing).map make = .ok x at h
    obtain ⟨t, ht, rfl⟩ := map_eq_ok_iff.1 h
    exact hmake t (Fields.holds_of_decodeMembers hfields hd ht)
  | _ => exact nomatch h

end DeviceSync
