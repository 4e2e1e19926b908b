import DeviceSync.Proofs.Profile.Source
import DeviceSync.Proofs.Profile.Wire
import DeviceSync.Proofs.Service.Effect
import DeviceSync.Proofs.Wire.Conveys
import DeviceSync.Proofs.Wire.Yields

/-!
# Responses That Can Be Read

The values in a diff are read with the room that is left inside a request, and written where a
response has more around them: an update stands as deep in a response as a diff does in a request,
but the diffs of a conflict stand one level deeper. So a response can be read, exactly if the values
in its conflicts leave that one level free.
-/

namespace DeviceSync

open Codec (text_carries bool_carries instant_carries unsigned_carries named_carries
  opaqueValue_conveys list_conveys record_conveys)
open Codec (yields_trivial unsigned_yields opaqueValue_yields list_yields)
open Json (Document)

namespace Profile

/-! ## Diffs -/

/-- The room that is left for the value of a diff in a request. -/
def Diff.room : Nat := Document.maxDepth - 3

/-- What is known of a diff that was read from a request. -/
structure Diff.Received (d : Diff) : Prop where
  base : d.base < twoTo 64
  value : d.value.Within room

namespace Diff

theorem Received.stamp (device : String) {d : Diff} (h : d.Received) : (d.stamp device).Received :=
  ⟨h.base, h.value⟩

theorem codec_yields {limit : Nat} :
    Diff.codec.Yields limit (room + 1) Received := by
  refine Codec.record_yields ?claims ?hfields ?hmake
  case claims =>
    exact (fun _ ↦ True, (· < twoTo 64), (·.Within room), fun _ ↦ True, fun _ ↦ True, ())
  case hfields =>
    exact ⟨Field.required_yields _ yields_trivial, Field.required_yields _ (unsigned_yields 64),
      Field.required_yields _ opaqueValue_yields, Field.defaulted_yields _ yields_trivial trivial,
      Field.required_yields _ yields_trivial, trivial⟩
  case hmake =>
    exact fun (_, base, value, _) h ↦ ⟨h.2.1, h.2.2.1⟩

theorem Received.conveys {d : Diff} (h : d.Received) : Diff.codec.Conveys d := by
  refine record_conveys (by decide) ?_
  exact ⟨(text_carries _).conveys rfl, (unsigned_carries (by decide) h.base).conveys rfl,
    opaqueValue_conveys h.value.bounded, (text_carries _).conveys rfl,
    (instant_carries _).conveys rfl, trivial⟩

theorem depth_encode (d : Diff) : (Diff.codec.encode d).depth = d.value.depth + 1 := by
  change max 0 (max 0 (max d.value.depth (max 0 (max 0 0)))) + 1 = _
  omega

end Diff

/-! ## Reports -/

theorem Conflict.codec_conveys {c : Conflict} (h : c.Between Diff.Received) :
    Conflict.codec.Conveys c := by
  refine record_conveys (by decide) ?_
  exact ⟨(text_carries _).conveys rfl, h.1.conveys, h.2.conveys,
    (Policy.codec_carries _).conveys rfl, (Rule.codec_carries _).conveys rfl, trivial⟩

theorem Conflict.depth_encode_le_iff {c : Conflict} {room : Nat} :
    (Conflict.codec.encode c).depth ≤ room + 2 ↔
      c.winner.value.depth ≤ room ∧ c.loser.value.depth ≤ room := by
  change max 0 (max (Diff.codec.encode c.winner).depth (max (Diff.codec.encode c.loser).depth
    (max 0 (max 0 0)))) + 1 ≤ room + 2 ↔ _
  rw [Diff.depth_encode, Diff.depth_encode]
  omega

theorem Update.codec_conveys {u : Update} (hversion : u.version < twoTo 64)
    (hvalue : u.value.Bounded) : Update.codec.Conveys u := by
  refine record_conveys (by decide) ?_
  exact ⟨(text_carries _).conveys rfl, (unsigned_carries (by decide) hversion).conveys rfl,
    opaqueValue_conveys hvalue, (text_carries _).conveys rfl, (instant_carries _).conveys rfl,
    trivial⟩

theorem Update.depth_encode (u : Update) : (Update.codec.encode u).depth = u.value.depth + 1 := by
  change max 0 (max 0 (max u.value.depth (max 0 (max 0 0)))) + 1 = _
  omega

theorem Applied.codec_conveys {a : Applied} (hversion : a.version < twoTo 64) :
    Applied.codec.Conveys a := by
  refine record_conveys (by decide) ?_
  exact ⟨(text_carries _).conveys rfl, (unsigned_carries (by decide) hversion).conveys rfl, trivial⟩

theorem Rejection.codec_conveys {r : Rejection} (hindex : r.index < twoTo 64) :
    Rejection.codec.Conveys r := by
  refine record_conveys (by decide) ?_
  exact ⟨(unsigned_carries (by decide) hindex).conveys rfl, (text_carries _).conveys rfl,
    (text_carries _).conveys rfl, (text_carries _).conveys rfl, trivial⟩

end Profile

/-! ## Requests -/

theorem SyncRequest.codec_yields {limit : Nat} :
    SyncRequest.codec.Yields limit Document.maxDepth fun r ↦
      r.diffs.length ≤ limit ∧ ∀ d ∈ r.diffs, d.Received := by
  refine Codec.record_yields ?claims ?hfields ?hmake
  case claims => exact (fun diffs ↦ diffs.length ≤ limit ∧ ∀ d ∈ diffs, d.Received, ())
  case hfields =>
    exact ⟨Field.defaulted_yields _ (list_yields Profile.Diff.codec_yields)
      ⟨Nat.zero_le _, List.forall_mem_nil _⟩, trivial⟩
  case hmake => exact fun (diffs, ()) h ↦ h.1

/-- What is known of the diffs of a request. -/
theorem SyncRequest.received_of_ofText {s : String} {r : SyncRequest}
    (h : SyncRequest.codec.ofText s = .ok r) :
    r.diffs.length ≤ s.length ∧ ∀ d ∈ r.diffs, d.Received := by
  unfold Codec.ofText Codec.ofDocument at h
  obtain ⟨r', hr, h⟩ := bind_eq_ok_iff.1 h
  have hreceived := codec_yields _ r' (Document.drawn_ofText s) hr
  split at h
  next => exact Except.ok.inj h ▸ hreceived
  next => cases h

theorem SyncRequest.depth_encode_le_iff {r : SyncRequest} {room : Nat} :
    (SyncRequest.codec.encode r).depth ≤ room + 3 ↔ ∀ d ∈ r.diffs, d.value.depth ≤ room := by
  have hdiffs : ((Codec.list Profile.Diff.codec).encode r.diffs).depth ≤ room + 2 ↔
      ∀ d ∈ r.diffs, d.value.depth ≤ room := by
    rw [Codec.depth_list_le_iff]
    simp only [Profile.Diff.depth_encode, Nat.add_le_add_iff_right]
  rw [← hdiffs]
  change max ((Codec.list Profile.Diff.codec).encode r.diffs).depth 0 + 1 ≤ room + 3 ↔ _
  omega

/-! ## Responses -/

namespace SyncResponse

/-- A response to a batch that is told of with good conscience. -/
theorem codec_conveys {o : Profile.Outcome} {size : Nat} (ho : o.TellsOf Profile.Diff.Received size)
    (hsize : size < twoTo 64) (hsyncPoint : o.syncPoint < twoTo 64) :
    SyncResponse.codec.Conveys (Service.syncResponse o) := by
  refine record_conveys (by decide) ?_
  refine ⟨(bool_carries _).conveys rfl, list_conveys fun u hu ↦ ?_, list_conveys fun c hc ↦ ?_,
    list_conveys fun x hx ↦ ?_, list_conveys fun r hr ↦ ?_,
    (unsigned_carries (by decide) hsyncPoint).conveys rfl, (instant_carries _).conveys rfl, trivial⟩
  · obtain ⟨hversion, d, hd, hvalue⟩ := ho.updates u hu
    exact Profile.Update.codec_conveys (Nat.lt_of_le_of_lt hversion hsyncPoint)
      (hvalue ▸ hd.value.bounded)
  · exact Profile.Conflict.codec_conveys (ho.conflicts c hc)
  · exact Profile.Applied.codec_conveys (Nat.lt_of_le_of_lt (ho.applied x hx) hsyncPoint)
  · exact Profile.Rejection.codec_conveys (Nat.lt_trans (ho.rejected r hr) hsize)

/-- How deep a response is, is a matter of its updates and conflicts. -/
theorem depth_encode_le_iff {r : SyncResponse} {room : Nat} :
    (SyncResponse.codec.encode r).depth ≤ room + 4 ↔
      (∀ u ∈ r.updates, u.value.depth ≤ room + 1) ∧
        ∀ c ∈ r.conflicts, c.winner.value.depth ≤ room ∧ c.loser.value.depth ≤ room := by
  have hupdates : ((Codec.list Profile.Update.codec).encode r.updates).depth ≤ room + 3 ↔
      ∀ u ∈ r.updates, u.value.depth ≤ room + 1 := by
    rw [Codec.depth_list_le_iff]
    simp only [Profile.Update.depth_encode, Nat.add_le_add_iff_right]
  have hconflicts : ((Codec.list Profile.Conflict.codec).encode r.conflicts).depth ≤ room + 3 ↔
      ∀ c ∈ r.conflicts, c.winner.value.depth ≤ room ∧ c.loser.value.depth ≤ room := by
    rw [Codec.depth_list_le_iff]
    simp only [Profile.Conflict.depth_encode_le_iff]
  have happlied : ((Codec.list Profile.Applied.codec).encode r.applied).depth ≤ room + 3 :=
    Codec.depth_list_le_iff.2 fun x _ ↦ Nat.le_add_left 1 (room + 1)
  have hrejected : ((Codec.list Profile.Rejection.codec).encode r.rejected).depth ≤ room + 3 :=
    Codec.depth_list_le_iff.2 fun x _ ↦ Nat.le_add_left 1 (room + 1)
  rw [← hupdates, ← hconflicts]
  change max 0 (max ((Codec.list Profile.Update.codec).encode r.updates).depth
    (max ((Codec.list Profile.Conflict.codec).encode r.conflicts).depth
      (max ((Codec.list Profile.Applied.codec).encode r.applied).depth
        (max ((Codec.list Profile.Rejection.codec).encode r.rejected).depth
          (max 0 (max 0 0)))))) + 1 ≤ room + 4 ↔ _
  omega

/-- The values in the conflicts of a response have to leave a level free: there are three levels
around the value of an update, as around that of a diff in a request, but four around that of a diff
in a conflict. -/
theorem exists_ofText_iff {o : Profile.Outcome} {size : Nat}
    (ho : o.TellsOf Profile.Diff.Received size) (hsize : size < twoTo 64)
    (hsyncPoint : o.syncPoint < twoTo 64) :
    (∃ r, SyncResponse.codec.ofText (SyncResponse.codec.toText (Service.syncResponse o)) = .ok r) ↔
      ∀ c ∈ o.conflicts, c.winner.value.depth + 4 ≤ Document.maxDepth ∧
        c.loser.value.depth + 4 ≤ Document.maxDepth := by
  have hupdates : ∀ u ∈ o.updates, u.value.depth ≤ Profile.Diff.room := by
    intro u hu
    obtain ⟨-, d, hd, hvalue⟩ := ho.updates u hu
    exact hvalue ▸ hd.value.depth_le
  have hfree : ∀ n, n + 4 ≤ Document.maxDepth ↔ n ≤ Document.maxDepth - 4 := fun n ↦
    Nat.le_sub_iff_add_le (by decide) |>.symm
  simp only [(codec_conveys ho hsize hsyncPoint).exists_ofText_iff, hfree]
  exact depth_encode_le_iff.trans (and_iff_right hupdates)

end SyncResponse

/-! ## Services -/

namespace Service

theorem sync_eq_ok_iff {s : Service} {token : String} {r : SyncRequest} {now : Instant}
    {response : SyncResponse} :
    (s.sync token r now).2 = .ok response ↔
      ∃ claims, s.issuer.validate token .access now = .ok claims ∧
        foreignDevice? claims.device r.diffs = none ∧
        syncResponse (s.engine.sync claims.user claims.device r.diffs now).2 = response := by
  rw [sync, withAccess_eq]
  cases s.issuer.validate token .access now with
  | error e => simp
  | ok claims =>
    cases hown : foreignDevice? claims.device r.diffs with
    | some other => simp [hown, fail]
    | none => simp [hown]

/-- A service that reaches its store, and whose profiles are made of diffs that were read from
requests. -/
structure Fed (s : Service) : Prop where
  down : s.backend.down = []
  engine : s.engine.MadeOf Profile.Diff.Received

namespace Fed

variable {s : Service}

theorem assemble (settings : Settings) (issuer : Credential.Issuer) :
    (Service.assemble settings issuer (backendOf settings [])).Fed :=
  ⟨rfl, Profile.Engine.madeOf_new _ _⟩

/-- A call with a request that was read keeps the profiles so. -/
theorem step (h : s.Fed) {c : Call}
    (hbatch : ∀ token r, c.request = .sync token r → ∀ d ∈ r.diffs, d.Received) :
    (s.step c).1.Fed := by
  have heffect := effect_step s h.down c
  generalize s.step c = result at heffect ⊢
  cases heffect with
  | idle | registers | stores => exact ⟨h.down, h.engine⟩
  | merges token r claims books hrequest =>
    exact ⟨h.down, (h.engine.sync (fun device _ ↦ .stamp device) _ _ (hbatch token r hrequest) _).1⟩

end Fed

end Service

end DeviceSync
