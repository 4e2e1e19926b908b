import DeviceSync.Proofs.Credential.Token
import DeviceSync.Proofs.Profile.Wire
import DeviceSync.Service.Message

/-!
# Messages Are Carried

Every structure that is both written to the wire and read from it is read back from its own text.
There are two limits to this. The numbers of a structure must fit into the bits that they have on
the wire, and the values that clients store must be plain. And a text may not be nested deeper than
a reader goes.

The members of a snapshot stand beside the success of a status, so there they are read in two
passes: the first one takes the success out and keeps the others, as they are, for the second.
-/

namespace DeviceSync

open Codec (text_carries bool_carries instant_carries bytes_carries unsigned_carries
  optional_carries list_carries record_carries)
open Json (Document)

/-! ## Manifests -/

theorem Manifest.Envelope.codec_carries (e : Manifest.Envelope) :
    Manifest.Envelope.codec.Carries e := by
  refine record_carries (by decide) ?_ rfl
  exact ⟨text_carries _, bytes_carries _, text_carries _, instant_carries _, trivial⟩

/-! ## Snapshots -/

namespace Status

theorem ErrorEntry.codec_carries (e : ErrorEntry) : ErrorEntry.codec.Carries e := by
  refine record_carries (by decide) ?_ rfl
  exact ⟨instant_carries _, text_carries _, text_carries _, trivial⟩

namespace Snapshot

structure Fits (s : Snapshot) : Prop where
  deviceCount : s.deviceCount < twoTo 64
  fieldCount : s.fieldCount < twoTo 64
  usedBytes : s.usedBytes < twoTo 64
  limitBytes : s.limitBytes < twoTo 64

variable {s : Snapshot}

theorem Fits.fields_carries (h : s.Fits) : fields.Carries s.parts :=
  ⟨bool_carries _, optional_carries fun t _ ↦ ⟨instant_carries t, nofun⟩,
    unsigned_carries (by decide) h.deviceCount, unsigned_carries (by decide) h.fieldCount,
    list_carries fun s _ ↦ text_carries s, unsigned_carries (by decide) h.usedBytes,
    unsigned_carries (by decide) h.limitBytes, bool_carries _, bool_carries _,
    list_carries fun e _ ↦ e.codec_carries, trivial⟩

theorem Fits.carries (h : s.Fits) : codec.Carries s :=
  record_carries (by decide) h.fields_carries rfl

end Snapshot

end Status

/-! ## Credentials -/

theorem AuthRequest.codec_carries (r : AuthRequest) : AuthRequest.codec.Carries r := by
  refine record_carries (by decide) ?_ rfl
  exact ⟨text_carries _, text_carries _, trivial⟩

theorem RefreshRequest.codec_carries (r : RefreshRequest) : RefreshRequest.codec.Carries r := by
  refine record_carries (by decide) ?_ rfl
  exact ⟨text_carries _, trivial⟩

def AuthResponse.Fits (r : AuthResponse) : Prop :=
  r.expiresIn < twoTo 64

theorem AuthResponse.Fits.carries {r : AuthResponse} (h : r.Fits) :
    AuthResponse.codec.Carries r := by
  refine record_carries (by decide) ?_ rfl
  exact ⟨bool_carries _, text_carries _, text_carries _, text_carries _, text_carries _,
    unsigned_carries (by decide) h, text_carries _, trivial⟩

/-! ## Uploads and downloads -/

def UploadResponse.Fits (r : UploadResponse) : Prop :=
  r.conflicts < twoTo 32

theorem UploadResponse.Fits.carries {r : UploadResponse} (h : r.Fits) :
    UploadResponse.codec.Carries r := by
  refine record_carries (by decide) ?_ rfl
  exact ⟨bool_carries _, text_carries _, instant_carries _, unsigned_carries (by decide) h, trivial⟩

theorem DownloadQuery.codec_carries (q : DownloadQuery) : DownloadQuery.codec.Carries q := by
  refine record_carries (by decide) ?_ rfl
  exact ⟨optional_carries fun t _ ↦ ⟨instant_carries t, nofun⟩,
    optional_carries fun s _ ↦ ⟨text_carries s, nofun⟩, trivial⟩

theorem DownloadResponse.codec_carries (r : DownloadResponse) :
    DownloadResponse.codec.Carries r := by
  refine record_carries (by decide) ?_ rfl
  exact ⟨bool_carries _, list_carries fun e _ ↦ e.codec_carries, instant_carries _, bool_carries _,
    optional_carries fun s _ ↦ ⟨text_carries s, nofun⟩, trivial⟩

/-! ## Profiles -/

def SyncRequest.Fits (r : SyncRequest) : Prop :=
  ∀ d ∈ r.diffs, d.Fits

theorem SyncRequest.Fits.carries {r : SyncRequest} (h : r.Fits) : SyncRequest.codec.Carries r := by
  refine record_carries (by decide) ?_ rfl
  exact ⟨list_carries fun d hd ↦ (h d hd).carries, trivial⟩

structure SyncResponse.Fits (r : SyncResponse) : Prop where
  updates : ∀ u ∈ r.updates, u.Fits
  conflicts : ∀ c ∈ r.conflicts, c.Fits
  applied : ∀ a ∈ r.applied, a.Fits
  rejected : ∀ e ∈ r.rejected, e.Fits
  syncPoint : r.syncPoint < twoTo 64

theorem SyncResponse.Fits.carries {r : SyncResponse} (h : r.Fits) :
    SyncResponse.codec.Carries r := by
  refine record_carries (by decide) ?_ rfl
  exact ⟨bool_carries _, list_carries fun u hu ↦ (h.updates u hu).carries,
    list_carries fun c hc ↦ (h.conflicts c hc).carries,
    list_carries fun a ha ↦ (h.applied a ha).carries,
    list_carries fun e he ↦ (h.rejected e he).carries, unsigned_carries (by decide) h.syncPoint,
    instant_carries _, trivial⟩

/-! ## Status -/

namespace StatusResponse

/-- The first pass keeps members that have other keys than the success. -/
theorem readMembers_ofMembers {room : Nat} (success : Option Bool) (members : List (String × Json))
    (hkeys : ∀ m ∈ Document.ofMembers members, m.1 ≠ some "success")
    (hroom : Json.depthOfMembers members ≤ room) (others : List (Option String × Document)) :
    readMembers room success others (Document.ofMembers members) =
      .ok (success, others.reverse ++ Document.ofMembers members) := by
  induction members generalizing others with
  | nil => rw [Document.ofMembers, readMembers, List.append_nil]
  | cons m members ih =>
    obtain ⟨key, value⟩ := m
    obtain ⟨hkey, hkeys⟩ := List.forall_mem_cons.1 hkeys
    obtain ⟨hfirst, hothers⟩ := Nat.max_le.1 hroom
    obtain ⟨w, hw⟩ := Document.exists_toJson_ofJson value hfirst
    have hne : key ≠ "success" := fun heq ↦ hkey (congrArg some heq)
    rw [Document.ofMembers, readMembers, if_neg hne, hw]
    refine (ih hkeys hothers _).trans ?_
    rw [List.reverse_cons, List.append_assoc]
    rfl

theorem decode_of_readMembers {room : Nat} {members others : List (Option String × Document)}
    {success : Bool} {snapshot : Status.Snapshot}
    (hmembers : readMembers room none [] members = .ok (some success, others))
    (hsnapshot : readSnapshot room others = .ok snapshot) :
    codec.decode (room + 1) (.object members .closed) = .ok ⟨success, snapshot⟩ := by
  simp only [codec]
  rw [hmembers]
  simp only [bind, Except.bind, Json.Closing.check]
  rw [hsnapshot]
  rfl

theorem carries_of_fits {r : StatusResponse} (h : r.snapshot.Fits) : codec.Carries r := by
  let members := Status.Snapshot.fields.members r.snapshot.parts
  have hfields := h.fields_carries
  refine ⟨⟨trivial, hfields.integral⟩, fun room hroom ↦ ?_⟩
  obtain ⟨inner, rfl, hinner⟩ := Json.exists_room_inside hroom
  have hmembers := (Nat.max_le.1 hinner).2
  have hkeys : ∀ m ∈ members, m.1 ≠ some "success" := by
    intro m hm heq
    obtain ⟨name, hname, hkey⟩ := Fields.exists_name_of_mem_members _ _ hm
    have hnames : "success" ∉ Status.Snapshot.fields.names := by decide
    exact hnames (Option.some.inj (heq.symm.trans hkey) ▸ hname)
  have hfirst : readMembers inner none [] ((some "success", .bool r.success) :: members) =
      .ok (some r.success, members) :=
    readMembers_ofMembers (some r.success) _ hkeys hmembers []
  have hsecond : readSnapshot inner members = .ok r.snapshot := by
    rw [readSnapshot, Fields.decodeMembers_members (by decide) (hfields.readsBack hmembers)]
    rfl
  exact decode_of_readMembers hfirst hsecond

end StatusResponse

/-! ## Monitoring and failures -/

structure Stats.Fits (s : Stats) : Prop where
  devices : s.devices < twoTo 64
  operations : s.operations < twoTo 64
  storedBytes : s.storedBytes < twoTo 64

theorem Stats.Fits.carries {s : Stats} (h : s.Fits) : Stats.codec.Carries s := by
  refine record_carries (by decide) ?_ rfl
  exact ⟨unsigned_carries (by decide) h.devices, unsigned_carries (by decide) h.operations,
    unsigned_carries (by decide) h.storedBytes, trivial⟩

theorem HealthReport.codec_carries (r : HealthReport) : HealthReport.codec.Carries r := by
  refine record_carries (by decide) ?_ rfl
  exact ⟨text_carries _, text_carries _, text_carries _, instant_carries _, trivial⟩

theorem ErrorBody.codec_carries (b : ErrorBody) : ErrorBody.codec.Carries b := by
  refine record_carries (by decide) ?_ rfl
  exact ⟨bool_carries _, text_carries _, text_carries _, trivial⟩

/-! ## All structures -/

/-- The structures that are both written to the wire and read from it. -/
inductive Shape where
  | diff
  | conflict
  | update
  | applied
  | rejection
  | outcome
  | claims
  | envelope
  | errorEntry
  | snapshot
  | authRequest
  | refreshRequest
  | authResponse
  | uploadResponse
  | downloadQuery
  | downloadResponse
  | syncRequest
  | syncResponse
  | statusResponse
  | stats
  | healthReport
  | errorBody

namespace Shape

/-- The values that have a shape. -/
def Value : Shape → Type
  | diff => Profile.Diff
  | conflict => Profile.Conflict
  | update => Profile.Update
  | applied => Profile.Applied
  | rejection => Profile.Rejection
  | outcome => Profile.Outcome
  | claims => Credential.Claims
  | envelope => Manifest.Envelope
  | errorEntry => Status.ErrorEntry
  | snapshot => Status.Snapshot
  | authRequest => AuthRequest
  | refreshRequest => RefreshRequest
  | authResponse => AuthResponse
  | uploadResponse => UploadResponse
  | downloadQuery => DownloadQuery
  | downloadResponse => DownloadResponse
  | syncRequest => SyncRequest
  | syncResponse => SyncResponse
  | statusResponse => StatusResponse
  | stats => Stats
  | healthReport => HealthReport
  | errorBody => ErrorBody

def codec : (shape : Shape) → Codec shape.Value
  | diff => Profile.Diff.codec
  | conflict => Profile.Conflict.codec
  | update => Profile.Update.codec
  | applied => Profile.Applied.codec
  | rejection => Profile.Rejection.codec
  | outcome => Profile.Outcome.codec
  | claims => Credential.Claims.codec
  | envelope => Manifest.Envelope.codec
  | errorEntry => Status.ErrorEntry.codec
  | snapshot => Status.Snapshot.codec
  | authRequest => AuthRequest.codec
  | refreshRequest => RefreshRequest.codec
  | authResponse => AuthResponse.codec
  | uploadResponse => UploadResponse.codec
  | downloadQuery => DownloadQuery.codec
  | downloadResponse => DownloadResponse.codec
  | syncRequest => SyncRequest.codec
  | syncResponse => SyncResponse.codec
  | statusResponse => StatusResponse.codec
  | stats => Stats.codec
  | healthReport => HealthReport.codec
  | errorBody => ErrorBody.codec

/-- Whether the numbers of a value have as many bits as the wire gives them, and all opaque values
in it are plain. Where there are neither, every value fits. -/
def Fits : (shape : Shape) → shape.Value → Prop
  | diff => Profile.Diff.Fits
  | conflict => Profile.Conflict.Fits
  | update => Profile.Update.Fits
  | applied => Profile.Applied.Fits
  | rejection => Profile.Rejection.Fits
  | outcome => Profile.Outcome.Fits
  | claims => Credential.Claims.Bounded
  | snapshot => Status.Snapshot.Fits
  | authResponse => AuthResponse.Fits
  | uploadResponse => UploadResponse.Fits
  | syncRequest => SyncRequest.Fits
  | syncResponse => SyncResponse.Fits
  | statusResponse => fun r ↦ Status.Snapshot.Fits r.snapshot
  | stats => Stats.Fits
  | _ => fun _ ↦ True

theorem carries_of_fits (shape : Shape) (x : shape.Value) (h : shape.Fits x) :
    shape.codec.Carries x := by
  cases shape with
  | diff => exact Profile.Diff.Fits.carries h
  | conflict => exact Profile.Conflict.Fits.carries h
  | update => exact Profile.Update.Fits.carries h
  | applied => exact Profile.Applied.Fits.carries h
  | rejection => exact Profile.Rejection.Fits.carries h
  | outcome => exact Profile.Outcome.Fits.carries h
  | claims => exact Credential.Claims.Bounded.carries h
  | envelope => exact Manifest.Envelope.codec_carries x
  | errorEntry => exact Status.ErrorEntry.codec_carries x
  | snapshot => exact Status.Snapshot.Fits.carries h
  | authRequest => exact AuthRequest.codec_carries x
  | refreshRequest => exact RefreshRequest.codec_carries x
  | authResponse => exact AuthResponse.Fits.carries h
  | uploadResponse => exact UploadResponse.Fits.carries h
  | downloadQuery => exact DownloadQuery.codec_carries x
  | downloadResponse => exact DownloadResponse.codec_carries x
  | syncRequest => exact SyncRequest.Fits.carries h
  | syncResponse => exact SyncResponse.Fits.carries h
  | statusResponse => exact StatusResponse.carries_of_fits h
  | stats => exact Stats.Fits.carries h
  | healthReport => exact HealthReport.codec_carries x
  | errorBody => exact ErrorBody.codec_carries x

/-- Every structure on the wire is read back from its own text, if its numbers fit and the text is
not nested deeper than a reader goes. -/
theorem read_written (shape : Shape) (x : shape.Value) (hfits : shape.Fits x)
    (hdepth : (shape.codec.encode x).depth ≤ Document.maxDepth) :
    shape.codec.ofText (shape.codec.toText x) = .ok x :=
  (shape.carries_of_fits x hfits).ofText_toText hdepth

/-- A diff with the greatest version, made in a leap second of the year -1, whose value has objects
inside each other and a control character. -/
theorem read_written_leapSecond :
    let value : Json := .object
      [("a", .array [.number (.integer (-9223372036854775808)), .null]), ("b", .text "\x00\"")]
    let leap : Instant := ⟨-62167219201, 1999999999, by decide⟩
    let request : SyncRequest := ⟨[⟨"bio", 18446744073709551615, value, "tablet", leap⟩]⟩
    SyncRequest.codec.ofText (SyncRequest.codec.toText request) = .ok request := by
  intro value leap request
  have hintegral : value.Integral :=
    ⟨⟨⟨by decide, by decide⟩, trivial, trivial⟩, trivial, trivial⟩
  have hcanonical : value.Canonical :=
    ⟨List.pairwise_pair.2 (by decide), ⟨trivial, trivial, trivial⟩, trivial, trivial⟩
  have hfits : Fits syncRequest request := by
    intro d hd
    obtain rfl := List.mem_singleton.1 hd
    exact ⟨by decide, hintegral, hcanonical⟩
  have hdepth : (SyncRequest.codec.encode request).depth = 5 := rfl
  exact read_written syncRequest request hfits (hdepth ▸ by decide)

end Shape

end DeviceSync
