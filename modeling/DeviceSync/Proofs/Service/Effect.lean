import DeviceSync.Proofs.Manifest.Log
import DeviceSync.Proofs.Service.Run

/-!
# What a Call Comes To

A call of a service whose store can be reached has four endings, and `Effect` names them with
everything that is known in each. Either nothing but the books changes and perhaps the error ring of
the caller, or a device is registered, an envelope stored, or a batch merged.

Later modules argue by these endings and do not open the calls again.
-/

namespace DeviceSync

open Credential (Claims Issued Issuer)
open Manifest (Envelope)

/-! ## Reaching the store -/

/-- What a snapshot shows when no part of it is refused. -/
def Status.Snapshot.ofStore (store : Manifest.Store) (engine : Profile.Engine)
    (health : Status.Health) (errors : Status.ErrorLog) (limitBytes : Nat) (user device : String) :
    Status.Snapshot where
  enabled := device ∈ store.roster user
  lastSync := engine.lastSync? user device
  deviceCount := (store.roster user).length
  fieldCount := engine.written user
  devices := store.roster user
  usedBytes := ((store.roster user).map store.used).sum
  limitBytes
  encryption := health.encryption
  connectivity := health.connectivity
  recentErrors := errors.recent device

namespace Manifest.Backend

variable {b : Backend} (hup : b.down = [])

include hup

theorem reach_eq_ok (op : Operation) : b.reach op = .ok () := by
  simp [reach, hup]

theorem put_eq (device : String) (e : Envelope) :
    b.put device e = (b.store.put device e).map fun store ↦ { b with store } := by
  rw [put, reach_eq_ok hup]
  cases b.store.put device e <;> rfl

theorem manifests_eq_ok (device : String) (since : Instant) :
    b.manifests device since = .ok (b.store.manifests device since) := by
  rw [manifests, reach_eq_ok hup]
  rfl

theorem register_eq_ok (device : Device) :
    b.register device = .ok { b with store := b.store.register device } := by
  rw [register, reach_eq_ok hup]
  rfl

theorem usedBy_eq_ok (devices : List String) :
    Status.usedBy b devices = .ok (devices.map b.store.used).sum := by
  induction devices with
  | nil => rfl
  | cons device devices ih =>
    rw [Status.usedBy, used, reach_eq_ok hup, ih]
    rfl

theorem snapshot_eq_ok (engine : Profile.Engine) (health : Status.Health)
    (errors : Status.ErrorLog) (limitBytes : Nat) (user device : String) :
    Status.snapshot b engine health errors limitBytes user device =
      .ok (Status.Snapshot.ofStore b.store engine health errors limitBytes user device) := by
  rw [Status.snapshot, roster, reach_eq_ok hup]
  dsimp only [bind, Except.bind, pure, Except.pure]
  rw [usedBy_eq_ok hup]
  rfl

end Manifest.Backend

namespace Service

/-! ## Answers and callers -/

/-- What went wrong, if a call failed. -/
def Answer.error? : Answer → Option ServiceError
  | .credentials (.error e) => some e
  | .upload (.error e) => some e
  | .download (.error e) => some e
  | .sync (.error e) => some e
  | .status (.error e) => some e
  | _ => none

/-- The access credential that a request presents. -/
def Request.access? : Request → Option String
  | .authenticate _ => none
  | .refresh _ => none
  | .upload token _ => some token
  | .download token _ => some token
  | .sync token _ => some token
  | .status token => some token

/-- The device whose access credential a call presents, if the credential is accepted. -/
def Call.bearer? (i : Issuer) (c : Call) : Option String :=
  c.request.access?.bind (i.bearer? · .access c.time)

theorem Call.bearer?_of_access? {c : Call} {token : String} (h : c.request.access? = some token)
    (i : Issuer) : c.bearer? i = i.bearer? token .access c.time := by
  rw [Call.bearer?, h, Option.bind_some]

/-- Whether a request asks for something without handing anything over. -/
def Request.Reads : Request → Prop
  | .refresh _ => True
  | .download _ _ => True
  | .status _ => True
  | .authenticate _ => False
  | .upload _ _ => False
  | .sync _ _ => False

/-- The error log after a call that changes nothing else. A failure is remembered for the device
whose credential was accepted before. -/
def errorsAfter (s : Service) (c : Call) (a : Answer) : Status.ErrorLog :=
  match c.bearer? s.issuer, a.error? with
  | some device, some e => s.errors.record device ⟨c.time, e.code, e.message⟩
  | _, _ => s.errors

/-! ## The endings of a call -/

/-- What a call can come to, and how it is answered. -/
inductive Effect (s : Service) (c : Call) : Service × Answer → Prop where
  | idle (books : Books) (a : Answer) (h : c.request.Reads ∨ a.error?.isSome) :
      Effect s c ({ s with books, errors := s.errorsAfter c a }, a)
  | registers (r : AuthRequest) (issued : Issued) (books : Books)
      (hrequest : c.request = .authenticate r)
      (hissued : s.issuer.authenticate r.device r.publicKey c.time = .ok issued) :
      Effect s c
        ({ s with
            books
            backend := { s.backend with
              store := s.backend.store.register
                ⟨issued.device, issued.user, r.publicKey, c.time, c.time⟩ } },
          .credentials (.ok (s.authResponse issued)))
  | stores (token : String) (e : Envelope) (form : Manifest.DigestForm) (books : Books)
      (response : UploadResponse) (hrequest : c.request = .upload token e)
      (hbearer : c.bearer? s.issuer = some e.device)
      (hdigest : Manifest.DigestForm.ofText e.digest = .ok form)
      (hsize : ∀ limit ∈ s.backend.store.limit, e.size ≤ limit) :
      Effect s c
        ({ s with
            books
            backend := { s.backend with store := s.backend.store.append e.device e } },
          .upload (.ok response))
  | merges (token : String) (r : SyncRequest) (claims : Claims) (books : Books)
      (hrequest : c.request = .sync token r)
      (hclaims : s.issuer.validate token .access c.time = .ok claims)
      (hown : foreignDevice? claims.device r.diffs = none) :
      Effect s c
        ({ s with
            books
            engine := (s.engine.sync claims.user claims.device r.diffs c.time).1
            errors := recordRejections s.errors claims.device c.time
              (s.engine.sync claims.user claims.device r.diffs c.time).2.rejected },
          .sync (.ok (syncResponse (s.engine.sync claims.user claims.device r.diffs c.time).2)))

section Endings

variable {s : Service} {c : Call} {a : Answer} {e : ServiceError}

/-- A call that reads and succeeds. -/
theorem Effect.answered (books : Books) (hreads : c.request.Reads) (ha : a.error? = none) :
    Effect s c ({ s with books }, a) := by
  have herrors : s.errorsAfter c a = s.errors := by
    rw [errorsAfter, ha]
    split <;> simp_all
  have heffect : Effect s c ({ s with books, errors := s.errorsAfter c a }, a) :=
    .idle books a (.inl hreads)
  rwa [herrors] at heffect

/-- A call that fails without a good access credential. -/
theorem Effect.refused (books : Books) (hbearer : c.bearer? s.issuer = none)
    (ha : a.error? = some e) : Effect s c ({ s with books }, a) := by
  have herrors : s.errorsAfter c a = s.errors := by rw [errorsAfter, hbearer]
  have heffect : Effect s c ({ s with books, errors := s.errorsAfter c a }, a) :=
    .idle books a (.inr (by rw [ha]; rfl))
  rwa [herrors] at heffect

/-- A call that fails after its access credential was accepted. -/
theorem Effect.failed (books : Books) {device : String}
    (hbearer : c.bearer? s.issuer = some device) (ha : a.error? = some e) :
    Effect s c
      ({ s with books, errors := s.errors.record device ⟨c.time, e.code, e.message⟩ }, a) := by
  have herrors : s.errorsAfter c a = s.errors.record device ⟨c.time, e.code, e.message⟩ := by
    rw [errorsAfter, hbearer, ha]
  have heffect : Effect s c ({ s with books, errors := s.errorsAfter c a }, a) :=
    .idle books a (.inr (by rw [ha]; rfl))
  rwa [herrors] at heffect

/-- A call under an access credential comes to what it comes to once the credential is accepted. -/
theorem Effect.withAccess {α : Type} {token : String} {call : Claims → Reply α}
    {answer : Except ServiceError α → Answer} (haccess : c.request.access? = some token)
    (hanswer : ∀ e, (answer (.error e)).error? = some e)
    (hcall : ∀ claims, s.issuer.validate token .access c.time = .ok claims →
      c.bearer? s.issuer = some claims.device → Effect s c ((call claims).map id answer)) :
    Effect s c ((s.withAccess token c.time call).map id answer) := by
  have hbearer : c.bearer? s.issuer = s.issuer.bearer? token .access c.time :=
    Call.bearer?_of_access? haccess _
  rw [withAccess_eq]
  cases hclaims : s.issuer.validate token .access c.time with
  | error e =>
    exact .refused _ (hbearer.trans (Issuer.bearer?_of_refused hclaims)) (hanswer _)
  | ok claims =>
    exact hcall claims hclaims (hbearer.trans (Issuer.bearer?_of_validate hclaims))

end Endings

section Calls

variable (s : Service) (hup : s.backend.down = []) (now : Instant)

include hup

theorem effect_authenticate (r : AuthRequest) :
    Effect s ⟨.authenticate r, now⟩ ((s.authenticate r now).map id .credentials) := by
  unfold authenticate
  dsimp only
  cases hissued : s.issuer.authenticate r.device r.publicKey now with
  | error e => exact .refused _ rfl rfl
  | ok issued =>
    dsimp only
    rw [Manifest.Backend.register_eq_ok hup]
    exact .registers r issued _ rfl hissued

omit now in
/-- A device that is issued credentials is registered. -/
theorem step_authenticate_eq_ok {r : AuthRequest} {now : Instant} {issued : Issued}
    (hissued : s.issuer.authenticate r.device r.publicKey now = .ok issued) :
    (s.step ⟨.authenticate r, now⟩).2 = .credentials (.ok (s.authResponse issued)) := by
  change Answer.credentials (s.authenticate r now).2 = _
  rw [authenticate]
  dsimp only
  rw [hissued]
  dsimp only
  rw [Manifest.Backend.register_eq_ok hup]
  rfl

omit hup in
theorem effect_refresh (r : RefreshRequest) :
    Effect s ⟨.refresh r, now⟩ ((s.refresh r now).map id .credentials) := by
  unfold refresh
  cases s.issuer.refresh r.token now with
  | error e => exact .refused _ rfl rfl
  | ok issued => exact .answered _ trivial rfl

theorem effect_upload (token : String) (e : Envelope) :
    Effect s ⟨.upload token e, now⟩ ((s.upload token e now).map id .upload) := by
  apply Effect.withAccess rfl fun _ ↦ rfl
  intro claims hclaims hbearer
  dsimp only
  by_cases hdevice : e.device ≠ claims.device
  · rw [if_pos hdevice]
    exact .failed _ hbearer rfl
  · have hown : claims.device = e.device := (Decidable.not_not.1 hdevice).symm
    rw [if_neg hdevice]
    rw [hown] at hbearer ⊢
    cases hdigest : Manifest.DigestForm.ofText e.digest with
    | error flaw => exact .failed _ hbearer rfl
    | ok form =>
      dsimp only
      rw [Manifest.Backend.put_eq hup, Manifest.Store.put_eq]
      by_cases hsize : ∀ limit ∈ s.backend.store.limit, e.size ≤ limit
      · rw [if_pos hsize]
        exact .stores token e form _ _ rfl hbearer hdigest hsize
      · rw [if_neg hsize]
        exact .failed _ hbearer rfl

omit now in
/-- An envelope that its own device uploads is stored if its digest has the right form and it is not
too large. -/
theorem step_upload_eq_ok {token : String} {e : Envelope} {now : Instant}
    {form : Manifest.DigestForm}
    (hbearer : s.issuer.bearer? token .access now = some e.device)
    (hdigest : Manifest.DigestForm.ofText e.digest = .ok form)
    (hsize : ∀ limit ∈ s.backend.store.limit, e.size ≤ limit) :
    s.step ⟨.upload token e, now⟩ =
      (lookAgain { s with
          backend := { s.backend with store := s.backend.store.append e.device e }
          books := countUpload s.books e.size },
        .upload (.ok ⟨true, "Manifest uploaded successfully", now, 0⟩)) := by
  obtain ⟨claims, hclaims, hdevice, -⟩ := Issuer.exists_validate_of_bearer? hbearer
  change (s.upload token e now).map id Answer.upload = _
  rw [upload, withAccess_of_validate hclaims]
  dsimp only
  rw [hdevice, if_neg (not_not_intro rfl), hdigest]
  dsimp only
  rw [Manifest.Backend.put_eq hup, Manifest.Store.put_eq, if_pos hsize]
  rfl

omit hup now in
/-- An envelope of another device is refused to a device that is let in. -/
theorem error?_step_upload_of_ne {token : String} {e : Envelope} {now : Instant} {device : String}
    (hbearer : s.issuer.bearer? token .access now = some device) (hother : e.device ≠ device) :
    (s.step ⟨.upload token e, now⟩).2.error? = some (.deviceMismatch device e.device) := by
  obtain ⟨claims, hclaims, hdevice, -⟩ := Issuer.exists_validate_of_bearer? hbearer
  change (Answer.upload (s.upload token e now).2).error? = _
  rw [upload, withAccess_of_validate hclaims]
  dsimp only
  rw [hdevice, if_pos hother]
  rfl

theorem effect_download (token : String) (q : DownloadQuery) :
    Effect s ⟨.download token q, now⟩ ((s.download token q now).map id .download) := by
  apply Effect.withAccess rfl fun _ ↦ rfl
  intro claims hclaims hbearer
  dsimp only
  cases offsetOf? q.pageToken with
  | none => exact .failed _ hbearer rfl
  | some offset =>
    dsimp only
    rw [Manifest.Backend.manifests_eq_ok hup]
    exact .answered _ trivial rfl

omit hup in
theorem effect_sync (token : String) (r : SyncRequest) :
    Effect s ⟨.sync token r, now⟩ ((s.sync token r now).map id .sync) := by
  apply Effect.withAccess rfl fun _ ↦ rfl
  intro claims hclaims hbearer
  dsimp only
  cases hown : foreignDevice? claims.device r.diffs with
  | some other => exact .failed _ hbearer rfl
  | none => exact .merges token r claims _ rfl hclaims hown

theorem effect_status (token : String) :
    Effect s ⟨.status token, now⟩ ((s.status token now).map id .status) := by
  apply Effect.withAccess rfl fun _ ↦ rfl
  intro claims hclaims hbearer
  dsimp only
  rw [Manifest.Backend.snapshot_eq_ok hup]
  exact .answered s.books trivial rfl

/-- A call has one of the endings. -/
theorem effect_step (c : Call) : Effect s c (s.step c) := by
  obtain ⟨request, now⟩ := c
  cases request with
  | authenticate r => exact effect_authenticate s hup now r
  | refresh r => exact effect_refresh s now r
  | upload token e => exact effect_upload s hup now token e
  | download token q => exact effect_download s hup now token q
  | sync token r => exact effect_sync s now token r
  | status token => exact effect_status s hup now token

end Calls

end Service

end DeviceSync
