import DeviceSync.Proofs.Bytes.Base64
import DeviceSync.Proofs.Json.Opaque
import DeviceSync.Proofs.Time.Text
import DeviceSync.Proofs.Wire.Record

/-!
# Values That Are Carried

A codec carries a value if its text can be read again: its JSON has no numbers but integers, and it
is read back from its JSON wherever there is room for the arrays and objects in it. Scalars are
carried as they are; an optional value, a list and a record are carried if their parts are, so
whatever is put together from these has one rule for each of its parts.
-/

namespace DeviceSync

open Json (Document)

/-- A value without floating point numbers. That the keys of its objects ascend is no condition on
what was read, by `Document.canonical_of_toJson`. -/
structure Json.Plain (v : Json) : Prop where
  integral : v.Integral
  canonical : v.Canonical

namespace Codec

variable {α : Type}

/-- Whether the text of a value is one that the value is read back from. -/
structure Carries (c : Codec α) (x : α) : Prop where
  integral : (c.encode x).Integral
  readsBack : ∀ room, (c.encode x).depth ≤ room → c.ReadsBack room x

namespace Carries

variable {c : Codec α} {x : α} (h : c.Carries x)
include h

/-- What is carried is read back from its text, if that is not nested too deep. -/
theorem ofText_toText (hdepth : (c.encode x).depth ≤ Document.maxDepth) :
    c.ofText (c.toText x) = .ok x := by
  rw [ofText, toText, Document.ofText_compact h.integral]
  dsimp only
  rw [ofDocument, h.readsBack _ hdepth]
  rfl

theorem ofOctets_toText (hdepth : (c.encode x).depth ≤ Document.maxDepth) :
    c.ofOctets (Text.octets (c.toText x)) = .ok x := by
  rw [ofOctets, Document.ofOctets_octets]
  exact h.ofText_toText hdepth

end Carries

/-! ## Scalars -/

theorem text_carries (s : String) : text.Carries s :=
  ⟨trivial, fun room _ ↦ text_readsBack room s⟩

theorem bool_carries (b : Bool) : bool.Carries b :=
  ⟨trivial, fun _ _ ↦ rfl⟩

theorem opaqueValue_carries {v : Json} (h : v.Plain) : opaqueValue.Carries v :=
  ⟨h.integral, fun _ hroom ↦ Document.toJson_ofJson v h.canonical hroom⟩

theorem integerIn_carries {least limit i : Int} (h : least ≤ i ∧ i < limit)
    (hleast : -(twoTo 63 : Int) ≤ least) (hlimit : limit ≤ twoTo 64) :
    (integerIn least limit).Carries i :=
  ⟨⟨Int.le_trans hleast h.1, Int.lt_of_lt_of_le h.2 hlimit⟩,
    fun room _ ↦ integerIn_readsBack room h⟩

theorem signed64_carries {i : Int} (h : -(twoTo 63 : Int) ≤ i ∧ i < twoTo 63) :
    signed64.Carries i :=
  integerIn_carries h (Int.le_refl _) (by decide)

theorem unsigned_carries {bits n : Nat} (hbits : bits ≤ 64) (h : n < twoTo bits) :
    (unsigned bits).Carries n := by
  have hlimit : twoTo bits ≤ twoTo 64 := Nat.pow_le_pow_right (by decide) hbits
  have hinteger : (integerIn 0 (twoTo bits)).Carries (n : Int) :=
    integerIn_carries ⟨Int.natCast_nonneg n, Int.ofNat_lt.2 h⟩ (by decide) (Int.ofNat_le.2 hlimit)
  refine ⟨hinteger.integral, fun room hroom ↦ ?_⟩
  have hread : (integerIn 0 (twoTo bits)).decode room (.ofJson (.natural n)) = .ok (n : Int) :=
    hinteger.readsBack room hroom
  change ((integerIn 0 (twoTo bits)).decode room (.ofJson (.natural n))).map Int.toNat = .ok n
  rw [hread, Except.map, Int.toNat_natCast]

theorem written_carries {write : α → String} {read? : String → Option α} {x : α}
    (h : read? (write x) = some x) : (written write read?).Carries x := by
  refine ⟨trivial, fun room _ ↦ ?_⟩
  have hread : text.decode room (.ofJson (.text (write x))) = .ok (write x) :=
    text_readsBack room (write x)
  simp only [ReadsBack, written]
  rw [hread]
  simp only [bind, Except.bind, h]

theorem instant_carries (t : Instant) : instant.Carries t :=
  written_carries (Timestamp.ofText?_text t)

theorem bytes_carries (bytes : List UInt8) : Codec.bytes.Carries bytes :=
  written_carries (Base64.distinct_standard.ofText?_text bytes)

theorem named_carries {name : α → String} {readName? : String → Option α} {x : α}
    (h : readName? (name x) = some x) : (named name readName?).Carries x :=
  ⟨trivial, fun room _ ↦ named_readsBack room h⟩

/-! ## Combinations -/

/-- A value that may be missing must not be written as one that is. -/
theorem optional_carries {c : Codec α} {x : Option α}
    (h : ∀ y ∈ x, c.Carries y ∧ c.encode y ≠ .null) : c.optional.Carries x := by
  cases x with
  | none => exact ⟨trivial, fun _ _ ↦ rfl⟩
  | some x =>
    obtain ⟨hx, hnull⟩ := h x rfl
    refine ⟨hx.integral, fun room hroom ↦ ?_⟩
    have hread : c.decode room (.ofJson (c.encode x)) = .ok x := hx.readsBack room hroom
    have hsome : c.optional.decode room (.ofJson (c.encode x)) =
        (c.decode room (.ofJson (c.encode x))).map some := by
      generalize c.encode x = v at hnull
      cases v with
      | null => exact absurd rfl hnull
      | _ => rfl
    exact hsome.trans (congrArg (Except.map some) hread)

section List

variable {c : Codec α} {xs : List α}

theorem integral_items (h : ∀ x ∈ xs, c.Carries x) : Json.IntegralItems (xs.map c.encode) := by
  induction xs with
  | nil => trivial
  | cons x xs ih =>
    obtain ⟨hx, hxs⟩ := List.forall_mem_cons.1 h
    exact ⟨hx.integral, ih hxs⟩

theorem decodeItems_items {room : Nat} (h : ∀ x ∈ xs, c.Carries x)
    (hroom : Json.depthOfItems (xs.map c.encode) ≤ room) :
    c.decodeItems room (Document.ofItems (xs.map c.encode)) = .ok xs := by
  induction xs with
  | nil => rfl
  | cons x xs ih =>
    obtain ⟨hx, hxs⟩ := List.forall_mem_cons.1 h
    obtain ⟨hfirst, hothers⟩ := Nat.max_le.1 hroom
    have hread : c.decode room (.ofJson (c.encode x)) = .ok x := hx.readsBack room hfirst
    rw [List.map_cons, Document.ofItems, decodeItems, hread, ih hxs hothers]
    rfl

theorem list_carries (h : ∀ x ∈ xs, c.Carries x) : (list c).Carries xs := by
  refine ⟨integral_items h, fun room hroom ↦ ?_⟩
  obtain ⟨inner, rfl, hinner⟩ := Json.exists_room_inside hroom
  have hitems := decodeItems_items h hinner
  change (do
    let xs ← c.decodeItems inner (Document.ofItems (xs.map c.encode))
    Json.Closing.check .closed
    return xs) = .ok xs
  rw [hitems]
  rfl

end List

end Codec

/-! ## Records -/

namespace Fields

/-- Whether all parts of the content of a record are carried. -/
def Carries {τ : Type} : Fields τ → τ → Prop
  | nil, () => True
  | cons field others, (x, xs) => field.codec.Carries x ∧ others.Carries xs

theorem Carries.integral {τ : Type} {fields : Fields τ} {t : τ} (h : fields.Carries t) :
    Json.IntegralMembers (fields.encode t) := by
  induction fields with
  | nil => trivial
  | cons field others ih =>
    obtain ⟨x, xs⟩ := t
    exact ⟨h.1.integral, ih h.2⟩

theorem Carries.readsBack {τ : Type} {fields : Fields τ} {t : τ} (h : fields.Carries t)
    {room : Nat} (hroom : Json.depthOfMembers (fields.encode t) ≤ room) :
    fields.ReadsBack room t := by
  induction fields with
  | nil => trivial
  | cons field others ih =>
    obtain ⟨x, xs⟩ := t
    obtain ⟨hfirst, hothers⟩ := Nat.max_le.1 hroom
    exact ⟨h.1.readsBack room hfirst, ih h.2 hothers⟩

end Fields

theorem Codec.record_carries {α τ : Type} {fields : Fields τ} {make : τ → α} {parts : α → τ}
    {x : α} (hnames : fields.names.Nodup) (hparts : fields.Carries (parts x))
    (hmake : make (parts x) = x) : (record fields make parts).Carries x := by
  refine ⟨hparts.integral, fun room hroom ↦ ?_⟩
  obtain ⟨inner, rfl, hinner⟩ := Json.exists_room_inside hroom
  exact record_readsBack inner hnames (hparts.readsBack hinner) hmake

end DeviceSync
