import DeviceSync.Proofs.Json.Drawn
import DeviceSync.Proofs.Wire.Carries

/-!
# Values That Are Conveyed

A codec conveys a value if some value is read from its text exactly where there is room for the
arrays and objects in it. Unlike a value that is carried, it need not be the same one: a number may
come back as one nearby, and of members with one key only the last comes back. But where there is
no room, nothing comes back at all.

Scalars that are carried are conveyed; so is any opaque value with bounded numbers, and so are lists
and records of what is conveyed.
-/

namespace DeviceSync

open Json (Document)

namespace Codec

variable {α : Type} {c : Codec α}

/-- Whether some value is read from the text of a value exactly where there is room for it. -/
def Conveys (c : Codec α) (x : α) : Prop :=
  ∀ room, (∃ y, c.decode room (.ofPrinted (c.encode x)) = .ok y) ↔ (c.encode x).depth ≤ room

theorem Conveys.exists_ofText_iff {x : α} (h : c.Conveys x) :
    (∃ y, c.ofText (c.toText x) = .ok y) ↔ (c.encode x).depth ≤ Document.maxDepth := by
  rw [← h, ofText, toText, Document.ofText_compact_eq]
  dsimp only
  constructor
  · rintro ⟨y, hy⟩
    obtain ⟨z, hz, -⟩ := bind_eq_ok_iff.1 hy
    exact ⟨z, hz⟩
  · rintro ⟨y, hy⟩
    rw [ofDocument, hy]
    exact ⟨y, rfl⟩

/-- A scalar always finds room. -/
theorem Carries.conveys {x : α} (h : c.Carries x) (hdepth : (c.encode x).depth = 0) :
    c.Conveys x := by
  intro room
  rw [Document.ofPrinted_eq _ h.integral]
  exact iff_of_true ⟨x, h.readsBack room (hdepth ▸ Nat.zero_le room)⟩ (hdepth ▸ Nat.zero_le room)

theorem opaqueValue_conveys {v : Json} (h : v.Bounded) : opaqueValue.Conveys v :=
  fun _ ↦ Document.exists_toJson_ofPrinted_iff v h

theorem exists_decodeItems_iff {xs : List α} (h : ∀ x ∈ xs, c.Conveys x) (room : Nat) :
    (∃ ys, c.decodeItems room (Document.ofPrintedItems (xs.map c.encode)) = .ok ys) ↔
      Json.depthOfItems (xs.map c.encode) ≤ room := by
  induction xs with
  | nil => exact iff_of_true ⟨[], rfl⟩ (Nat.zero_le room)
  | cons x xs ih =>
    obtain ⟨hx, hxs⟩ := List.forall_mem_cons.1 h
    rw [List.map_cons, Json.depthOfItems, Nat.max_le, ← hx, ← ih hxs, Document.ofPrintedItems,
      decodeItems]
    constructor
    · rintro ⟨_, h⟩
      obtain ⟨y, hy, h⟩ := bind_eq_ok_iff.1 h
      obtain ⟨ys, hys, -⟩ := bind_eq_ok_iff.1 h
      exact ⟨⟨y, hy⟩, ys, hys⟩
    · rintro ⟨⟨y, hy⟩, ys, hys⟩
      rw [hy, hys]
      exact ⟨y :: ys, rfl⟩

theorem depthOfItems_map_le_iff {xs : List α} {room : Nat} :
    Json.depthOfItems (xs.map c.encode) ≤ room ↔ ∀ x ∈ xs, (c.encode x).depth ≤ room := by
  induction xs with
  | nil => exact iff_of_true (Nat.zero_le room) nofun
  | cons x xs ih => rw [List.map_cons, Json.depthOfItems, Nat.max_le, ih, List.forall_mem_cons]

theorem depth_list_le_iff {xs : List α} {room : Nat} :
    ((list c).encode xs).depth ≤ room + 1 ↔ ∀ x ∈ xs, (c.encode x).depth ≤ room :=
  Nat.succ_le_succ_iff.trans depthOfItems_map_le_iff

theorem list_conveys {xs : List α} (h : ∀ x ∈ xs, c.Conveys x) : (list c).Conveys xs := by
  intro room
  have hdepth : ((list c).encode xs).depth = Json.depthOfItems (xs.map c.encode) + 1 := rfl
  rw [hdepth]
  cases room with
  | zero => exact iff_of_false nofun (Nat.not_succ_le_zero _)
  | succ inner =>
    rw [Nat.succ_le_succ_iff, ← exists_decodeItems_iff h]
    have hdecode : (list c).decode (inner + 1) (.ofPrinted ((list c).encode xs)) = (do
        let ys ← c.decodeItems inner (Document.ofPrintedItems (xs.map c.encode))
        Json.Closing.check .closed
        return ys) := rfl
    rw [hdecode]
    constructor
    · rintro ⟨_, h⟩
      obtain ⟨ys, hys, -⟩ := bind_eq_ok_iff.1 h
      exact ⟨ys, hys⟩
    · rintro ⟨ys, hys⟩
      rw [hys]
      exact ⟨ys, rfl⟩

end Codec

namespace Fields

/-- Whether all parts of the content of a record are conveyed. -/
def Conveys {τ : Type} : Fields τ → τ → Prop
  | nil, () => True
  | cons field others, (x, xs) => field.codec.Conveys x ∧ others.Conveys xs

theorem Conveys.exists_finds_iff {τ : Type} {fields : Fields τ} {t : τ} (h : fields.Conveys t)
    (room : Nat) : (∃ t', fields.Finds room (Document.ofPrintedMembers (fields.encode t)) t') ↔
      Json.depthOfMembers (fields.encode t) ≤ room := by
  induction fields with
  | nil => exact iff_of_true ⟨(), rfl⟩ (Nat.zero_le room)
  | cons field others ih =>
    obtain ⟨x, xs⟩ := t
    rw [encode, Json.depthOfMembers, Nat.max_le, ← h.1, ← ih h.2, Document.ofPrintedMembers]
    constructor
    · rintro ⟨⟨y, ys⟩, d, rest, heq, hy, hys⟩
      cases heq
      exact ⟨⟨y, hy⟩, ys, hys⟩
    · rintro ⟨⟨y, hy⟩, ys, hys⟩
      exact ⟨(y, ys), _, _, rfl, hy, hys⟩

theorem keys_ofPrinted {τ : Type} (fields : Fields τ) (t : τ) :
    (Document.ofPrintedMembers (fields.encode t)).map (·.1) = fields.names.map some := by
  induction fields with
  | nil => rfl
  | cons field others ih => exact congrArg (some field.name :: ·) (ih t.2)

end Fields

theorem Codec.record_conveys {α τ : Type} {fields : Fields τ} {make : τ → α} {parts : α → τ}
    {x : α} (hnames : fields.names.Nodup) (hparts : fields.Conveys (parts x)) :
    (record fields make parts).Conveys x := by
  intro room
  have hdepth : ((record fields make parts).encode x).depth =
      Json.depthOfMembers (fields.encode (parts x)) + 1 := rfl
  rw [hdepth]
  cases room with
  | zero => exact iff_of_false nofun (Nat.not_succ_le_zero _)
  | succ inner =>
    let members := Document.ofPrintedMembers (fields.encode (parts x))
    have hdecode : (record fields make parts).decode (inner + 1)
        (.ofPrinted ((record fields make parts).encode x)) =
          (fields.decodeMembers inner members .closed).map make := rfl
    rw [Nat.succ_le_succ_iff, ← hparts.exists_finds_iff, hdecode]
    constructor
    · rintro ⟨_, h⟩
      obtain ⟨t, ht, -⟩ := map_eq_ok_iff.1 h
      exact Fields.exists_finds_of_decodeMembers hnames (fields.keys_ofPrinted _) ht
    · rintro ⟨t, ht⟩
      refine ⟨make t, ?_⟩
      rw [Fields.decodeMembers_of_finds hnames ht]
      rfl

end DeviceSync
