import DeviceSync.Proofs.Profile.Turns
import DeviceSync.Proofs.Service.Status
import Mathlib.Algebra.BigOperators.Group.Finset.Piecewise

/-!
# The Books Balance

The numbers of the books are counted up one by one, each on some endings of some calls. The main
statement says that they belong together and what they stand for: whatever a service has been asked,
its books agree with each other, with its store, and with the history of the calls.

Every call is posted in the same way. What it adds to the books is what its entry in the history
says, and the numbers of devices and bytes either are looked up again or still hold, since nothing
they count has changed.
-/

namespace DeviceSync.Service

open Manifest (Envelope Log totalSize)
open Status (ErrorEntry ErrorLog)

variable {settings : Settings} {history : History} {s : Service}

/-! ## What there is to post -/

namespace Entry

/-- The diffs that a call brought, if they were merged. -/
def submitted (e : Entry) : List Profile.Diff :=
  match e.call.request, e.answer with
  | .sync _ r, .sync (.ok _) => r.diffs
  | _, _ => []

/-- The envelope that a call brought, if it was stored. -/
def stored? (e : Entry) : Option Envelope :=
  match e.call.request, e.answer with
  | .upload _ envelope, .upload (.ok _) => some envelope
  | _, _ => none

/-- The errors that a call made, each with the device that was let in. -/
def recorded (e : Entry) : List (String × ErrorEntry) :=
  match e.bearer with
  | some device => e.errors.map (device, ·)
  | none => []

theorem uploaded?_eq (e : Entry) (device : String) :
    e.uploaded? device = e.stored?.filter (·.device = device) := by
  obtain ⟨⟨request, now⟩, bearer, answer⟩ := e
  cases request with
  | upload token envelope =>
    cases answer with
    | upload result =>
      cases result with
      | ok response =>
        change (if envelope.device = device then some envelope else none) =
          (some envelope).filter (·.device = device)
        by_cases hdevice : envelope.device = device <;> simp [Option.filter, hdevice]
      | error => rfl
    | credentials | download | sync | status => rfl
  | authenticate | refresh | download | sync | status => rfl

end Entry

namespace History

variable (history : History)

/-- The diffs that were merged for anyone. -/
def submitted : List Profile.Diff :=
  history.flatMap Entry.submitted

/-- The envelopes that were stored for anyone. -/
def stored : List Envelope :=
  history.filterMap Entry.stored?

/-- Everything that went wrong for anyone. -/
def recorded : List (String × ErrorEntry) :=
  history.flatMap Entry.recorded

/-- The bytes that the logs of all devices have dropped. -/
def droppedBytes (retention : Nat) : Nat :=
  ∑ device ∈ (history.stored.map (·.device)).toFinset,
    totalSize (Log.dropped retention .empty (history.uploads device))

end History

/-! ## One call -/

/-- What a call adds to the books, by its entry in the history. -/
structure Posts (s : Service) (e : Entry) (s' : Service) : Prop where
  operations :
    s'.books.operations + (s.books.uploads + s.books.downloads + s.books.profileSyncs) =
      s.books.operations + (s'.books.uploads + s'.books.downloads + s'.books.profileSyncs)
  diffs : s'.books.applied + s'.books.conflicts + s'.books.rejections =
    s.books.applied + s.books.conflicts + s.books.rejections + e.submitted.length
  bytes : s'.books.uploadedBytes = s.books.uploadedBytes + totalSize e.stored?.toList
  errors : s'.books.failures + s'.books.rejections =
    s.books.failures + s.books.rejections + e.recorded.length
  /-- What was looked up last still holds, or is looked up again. -/
  gauges :
    (s'.backend.store = s.backend.store ∧ s'.books.devices = s.books.devices ∧
        s'.books.storedBytes = s.books.storedBytes) ∨
      (s'.books.devices = s'.backend.store.deviceCount ∧
        s'.books.storedBytes = s'.backend.store.total)

section Postings

variable {c : Call} {a : Answer} {s' : Service}

/-- What only reads or fails brings neither diffs nor an envelope. -/
theorem submitted_eq_nil (h : c.request.Reads ∨ a.error?.isSome) :
    (s.entryOf c a).submitted = [] := by
  unfold Entry.submitted entryOf
  split
  next token r response hrequest hanswer =>
    dsimp only at hrequest hanswer
    rw [hrequest, hanswer] at h
    exact h.elim False.elim fun herror ↦ nomatch herror
  next => rfl

theorem entry_stored?_eq_none (h : c.request.Reads ∨ a.error?.isSome) :
    (s.entryOf c a).stored? = none := by
  unfold Entry.stored? entryOf
  split
  next token envelope response hrequest hanswer =>
    dsimp only at hrequest hanswer
    rw [hrequest, hanswer] at h
    exact h.elim False.elim fun herror ↦ nomatch herror
  next => rfl

theorem recorded_eq_nil (h : (s.entryOf c a).errors = []) : (s.entryOf c a).recorded = [] := by
  rw [Entry.recorded, h]
  split <;> rfl

/-- A call that leaves the store, and what is counted of successes, errors and diffs. -/
theorem Posts.idle (h : c.request.Reads ∨ a.error?.isSome)
    (hrecorded : (s.entryOf c a).recorded = []) (hstore : s'.backend = s.backend)
    (hbooks : s'.books = { s.books with
      authRequests := s'.books.authRequests
      authFailures := s'.books.authFailures
      refreshes := s'.books.refreshes }) :
    Posts s (s.entryOf c a) s' := by
  refine ⟨?_, ?_, ?_, ?_, .inl ⟨by rw [hstore], by rw [hbooks], by rw [hbooks]⟩⟩
  · rw [hbooks]
  · rw [hbooks, submitted_eq_nil h]
    rfl
  · rw [hbooks, entry_stored?_eq_none h]
    rfl
  · rw [hbooks, hrecorded]
    rfl

/-- A call that fails for a device that was let in. -/
theorem Posts.failed {e : ServiceError} {device : String} (rejections : Nat)
    (hbearer : c.bearer? s.issuer = some device) (hfailure : (s.entryOf c a).failure? = some e)
    (ha : a.error?.isSome) (hstore : s'.backend = s.backend)
    (hbooks : s'.books = { s.books with
      uploadRejections := rejections
      failures := s.books.failures + 1 }) :
    Posts s (s.entryOf c a) s' := by
  have hrecorded : (s.entryOf c a).recorded.length = 1 := by
    have hentry : (s.entryOf c a).bearer = some device := hbearer
    rw [Entry.recorded, hentry, Entry.errors, hfailure]
    rfl
  refine ⟨?_, ?_, ?_, ?_, .inl ⟨by rw [hstore], by rw [hbooks], by rw [hbooks]⟩⟩
  · rw [hbooks]
  · rw [hbooks, submitted_eq_nil (.inr ha)]
    rfl
  · rw [hbooks, entry_stored?_eq_none (.inr ha)]
    rfl
  · rw [hbooks, hrecorded]
    exact Nat.add_right_comm ..

/-- A call under an access credential posts what it posts once the credential is accepted. -/
theorem Posts.withAccess {α : Type} {token : String} {call : Credential.Claims → Reply α}
    {answer : Except ServiceError α → Answer} (haccess : c.request.access? = some token)
    (hanswer : ∀ e, (answer (.error e)).error? = some e)
    (hcall : ∀ claims, s.issuer.validate token .access c.time = .ok claims →
      c.bearer? s.issuer = some claims.device →
      Posts s (s.entryOf c (answer (call claims).2)) (call claims).1) :
    Posts s (s.entryOf c (answer (s.withAccess token c.time call).2))
      (s.withAccess token c.time call).1 := by
  have hbearer : c.bearer? s.issuer = s.issuer.bearer? token .access c.time :=
    Call.bearer?_of_access? haccess _
  rw [withAccess_eq]
  cases hclaims : s.issuer.validate token .access c.time with
  | error e =>
    have hrecorded : (s.entryOf c (answer (.error (.ofCredential e)))).recorded = [] := by
      have hentry : (s.entryOf c (answer (.error (.ofCredential e)))).bearer = none :=
        hbearer.trans (Credential.Issuer.bearer?_of_refused hclaims)
      rw [Entry.recorded, hentry]
    exact .idle (.inr (by rw [hanswer]; rfl)) hrecorded rfl rfl
  | ok claims =>
    exact hcall claims hclaims (hbearer.trans (Credential.Issuer.bearer?_of_validate hclaims))

end Postings

section Calls

variable (s : Service) (hup : s.backend.down = []) (now : Instant)

include hup

theorem lookAgain_eq :
    s.lookAgain = { s with books := { s.books with
      devices := s.backend.store.deviceCount
      storedBytes := s.backend.store.total } } := by
  rw [lookAgain, Manifest.Backend.deviceCount, Manifest.Backend.total,
    Manifest.Backend.reach_eq_ok hup, Manifest.Backend.reach_eq_ok hup]
  rfl

theorem posts_authenticate (r : AuthRequest) :
    Posts s (s.entryOf ⟨.authenticate r, now⟩ (.credentials (s.authenticate r now).2))
      (s.authenticate r now).1 := by
  unfold authenticate
  dsimp only
  cases hissued : s.issuer.authenticate r.device r.publicKey now with
  | error e => exact .idle (.inr rfl) rfl rfl rfl
  | ok issued =>
    dsimp only
    rw [Manifest.Backend.register_eq_ok hup]
    dsimp only
    rw [lookAgain_eq]
    · exact ⟨rfl, rfl, rfl, rfl, .inr ⟨rfl, rfl⟩⟩
    · exact hup

omit hup in
theorem posts_refresh (r : RefreshRequest) :
    Posts s (s.entryOf ⟨.refresh r, now⟩ (.credentials (s.refresh r now).2))
      (s.refresh r now).1 := by
  unfold refresh
  cases s.issuer.refresh r.token now with
  | error e => exact .idle (.inr rfl) rfl rfl rfl
  | ok issued => exact .idle (.inl trivial) rfl rfl rfl

theorem posts_upload (token : String) (e : Envelope) :
    Posts s (s.entryOf ⟨.upload token e, now⟩ (.upload (s.upload token e now).2))
      (s.upload token e now).1 := by
  apply Posts.withAccess rfl fun _ ↦ rfl
  intro claims hclaims hbearer
  dsimp only
  by_cases hdevice : e.device ≠ claims.device
  · rw [if_pos hdevice]
    exact .failed _ hbearer rfl rfl rfl rfl
  · rw [if_neg hdevice]
    cases hdigest : Manifest.DigestForm.ofText e.digest with
    | error flaw => exact .failed _ hbearer rfl rfl rfl rfl
    | ok form =>
      dsimp only
      rw [Manifest.Backend.put_eq hup]
      cases s.backend.store.put claims.device e with
      | error problem => exact .failed _ hbearer rfl rfl rfl rfl
      | ok store =>
        dsimp only [Except.map]
        rw [lookAgain_eq]
        · have hrecorded : (s.entryOf ⟨.upload token e, now⟩ (.upload (.ok ⟨true,
              "Manifest uploaded successfully", now, 0⟩))).recorded = [] :=
            recorded_eq_nil rfl
          refine ⟨?_, rfl, rfl, ?_, .inr ⟨rfl, rfl⟩⟩
          · simp only [countUpload]
            omega
          · rw [hrecorded]
            rfl
        · exact hup

theorem posts_download (token : String) (q : DownloadQuery) :
    Posts s (s.entryOf ⟨.download token q, now⟩ (.download (s.download token q now).2))
      (s.download token q now).1 := by
  apply Posts.withAccess rfl fun _ ↦ rfl
  intro claims hclaims hbearer
  dsimp only
  cases offsetOf? q.pageToken with
  | none => exact .failed _ hbearer rfl rfl rfl rfl
  | some offset =>
    dsimp only
    rw [Manifest.Backend.manifests_eq_ok hup]
    refine ⟨?_, rfl, rfl, ?_, .inl ⟨rfl, rfl, rfl⟩⟩
    · simp only [countDownload]
      omega
    · rw [recorded_eq_nil rfl]
      rfl

omit hup in
theorem posts_sync (token : String) (r : SyncRequest) :
    Posts s (s.entryOf ⟨.sync token r, now⟩ (.sync (s.sync token r now).2))
      (s.sync token r now).1 := by
  apply Posts.withAccess rfl fun _ ↦ rfl
  intro claims hclaims hbearer
  dsimp only
  cases hown : foreignDevice? claims.device r.diffs with
  | some other => exact .failed _ hbearer rfl rfl rfl rfl
  | none =>
    dsimp only
    have hlength : (s.engine.sync claims.user claims.device r.diffs now).2.applied.length +
        (s.engine.sync claims.user claims.device r.diffs now).2.resolved +
        (s.engine.sync claims.user claims.device r.diffs now).2.rejected.length = r.diffs.length :=
      Profile.Arena.length_applied_add ..
    generalize s.engine.sync claims.user claims.device r.diffs now = result at hlength ⊢
    have hrecorded : (s.entryOf ⟨.sync token r, now⟩ (.sync (.ok (syncResponse result.2)))).recorded
        = result.2.rejected.map fun rejection ↦
          (claims.device, ⟨now, rejection.code, rejection.message⟩) := by
      have hentry : (s.entryOf ⟨.sync token r, now⟩ (.sync (.ok (syncResponse result.2)))).bearer =
          some claims.device := hbearer
      rw [Entry.recorded, hentry]
      exact List.map_map
    refine ⟨?_, ?_, rfl, ?_, .inl ⟨rfl, rfl, rfl⟩⟩
    · simp only [countSync]
      omega
    · change _ = _ + r.diffs.length
      simp only [countSync]
      omega
    · rw [hrecorded, List.length_map]
      simp only [countSync]
      omega

theorem posts_status (token : String) :
    Posts s (s.entryOf ⟨.status token, now⟩ (.status (s.status token now).2))
      (s.status token now).1 := by
  apply Posts.withAccess rfl fun _ ↦ rfl
  intro claims hclaims hbearer
  dsimp only
  rw [Manifest.Backend.snapshot_eq_ok hup]
  exact .idle (.inl trivial) (recorded_eq_nil rfl) rfl rfl

/-- Every call posts what its entry says. -/
theorem posts_step (c : Call) : Posts s (s.entryOf c (s.step c).2) (s.step c).1 := by
  obtain ⟨request, now⟩ := c
  cases request with
  | authenticate r => exact posts_authenticate s hup now r
  | refresh r => exact posts_refresh s now r
  | upload token e => exact posts_upload s hup now token e
  | download token q => exact posts_download s hup now token q
  | sync token r => exact posts_sync s now token r
  | status token => exact posts_status s hup now token

end Calls

/-! ## The stores behind the numbers -/

/-- A call adds its errors to the rings in the order in which it made them. -/
theorem errors_step (hup : s.backend.down = []) (c : Call) :
    (s.step c).1.errors =
      (s.entryOf c (s.step c).2).recorded.foldl (fun l (device, e) ↦ l.record device e)
        s.errors := by
  have hbearer : (s.entryOf c (s.step c).2).bearer = c.bearer? s.issuer := rfl
  rw [(effect_step s hup c).errors_eq fun _ ↦ error?_eq_none_of_status hup, Entry.recorded, hbearer]
  cases c.bearer? s.issuer with
  | none => rfl
  | some device =>
    dsimp only
    rw [List.foldl_map]

/-- A device is known to the store from the first time that it registers. -/
theorem Effect.isSome_device_iff {c : Call} {r : Service × Answer} (h : Effect s c r)
    (name : String) :
    (r.1.backend.store.devices.find? name).isSome ↔
      (s.backend.store.devices.find? name).isSome ∨
        (s.entryOf c r.2).registered? = some name := by
  obtain ⟨request, now⟩ := c
  cases h with
  | idle books a h =>
    rw [registered?_eq_none h]
    exact (or_iff_left nofun).symm
  | registers r issued books hrequest hissued =>
    obtain rfl := hrequest
    obtain ⟨hdevice, -⟩ := Credential.Issuer.issued_of_authenticate hissued
    change ((s.backend.store.devices.insert issued.device _).find? name).isSome ↔ _
    rw [Table.find?_insert, hdevice]
    change _ ↔ _ ∨ some r.device = some name
    by_cases hname : r.device = name <;> simp [hname]
  | stores token e form books response hrequest =>
    obtain rfl := hrequest
    exact (or_iff_left nofun).symm
  | merges token r claims books hrequest =>
    obtain rfl := hrequest
    exact (or_iff_left nofun).symm

/-! ## Everything that was posted -/

/-- Books that say what the history comes to, for as long as nothing was dropped. -/
structure Posted (history : History) (s : Service) : Prop where
  operations : s.books.operations = s.books.uploads + s.books.downloads + s.books.profileSyncs
  diffs : s.books.applied + s.books.conflicts + s.books.rejections = history.submitted.length
  uploadedBytes : s.books.uploadedBytes = totalSize history.stored
  errors : s.errors =
    history.recorded.foldl (fun l (device, e) ↦ l.record device e) (.new ErrorLog.defaultCapacity)
  recorded : s.books.failures + s.books.rejections = history.recorded.length
  registered : ∀ name,
    (s.backend.store.devices.find? name).isSome ↔ name ∈ history.registered
  devices : s.books.devices = s.backend.store.deviceCount
  storedBytes : s.books.storedBytes = s.backend.store.total

namespace Posted

theorem start {fresh : Credential.Secret} (h : Service.start settings fresh = .ok s) :
    Posted [] s := by
  obtain ⟨issuer, -, hs⟩ := bind_eq_ok_iff.1 h
  cases hs
  exact ⟨rfl, rfl, rfl, rfl, rfl, fun name ↦ iff_of_false nofun List.not_mem_nil, rfl, rfl⟩

theorem step (h : Posted history s) (hup : s.backend.down = []) (c : Call) :
    Posted (history ++ [s.entryOf c (s.step c).2]) (s.step c).1 := by
  have hposts : Posts s (s.entryOf c (s.step c).2) (s.step c).1 := posts_step s hup c
  refine ⟨?_, ?_, ?_, ?_, ?_, ?_, ?_, ?_⟩
  · have hoperations := h.operations
    have hadded := hposts.operations
    omega
  · rw [hposts.diffs, h.diffs]
    simp [History.submitted]
  · rw [hposts.bytes, h.uploadedBytes, ← Manifest.totalSize_append]
    cases hstored : (s.entryOf c (s.step c).2).stored? <;> simp [History.stored, hstored]
  · rw [errors_step hup, h.errors, ← List.foldl_append]
    simp [History.recorded]
  · rw [hposts.errors, h.recorded]
    simp [History.recorded]
  · intro name
    rw [(effect_step s hup c).isSome_device_iff, h.registered, registered_concat, List.mem_append,
      Option.mem_toList]
  · rcases hposts.gauges with ⟨hstore, hdevices, -⟩ | ⟨hdevices, -⟩
    · rw [hdevices, h.devices, hstore]
    · exact hdevices
  · rcases hposts.gauges with ⟨hstore, -, hbytes⟩ | ⟨-, hbytes⟩
    · rw [hbytes, h.storedBytes, hstore]
    · exact hbytes

end Posted

theorem Records.posted (h : Records settings history s) : Posted history s := by
  induction h with
  | start h => exact .start h
  | step h c ih => exact ih.step h.reflects.sound.down c
  | rotate h secret ih => exact { ih with }

/-! ## The balance -/

theorem uploads_eq_filter (history : History) (device : String) :
    history.uploads device = history.stored.filter (·.device = device) := by
  rw [History.stored, List.filter_filterMap, History.uploads]
  congr 1
  funext e
  exact e.uploaded?_eq device

/-- Envelopes can be weighed device by device. -/
theorem sum_totalSize_filter (es : List Envelope) {names : Finset String}
    (h : ∀ e ∈ es, e.device ∈ names) :
    ∑ name ∈ names, totalSize (es.filter (·.device = name)) = totalSize es := by
  induction es with
  | nil => exact Finset.sum_const_zero
  | cons e es ih =>
    obtain ⟨he, hes⟩ := List.forall_mem_cons.1 h
    have hfirst (name : String) : totalSize ((e :: es).filter (·.device = name)) =
        (if e.device = name then e.size else 0) + totalSize (es.filter (·.device = name)) := by
      by_cases hname : e.device = name <;> simp [hname]
    rw [Finset.sum_congr rfl fun name _ ↦ hfirst name, Finset.sum_add_distrib,
      Finset.sum_ite_eq, if_pos he, ih hes, Manifest.totalSize_cons]

/-- What was stored is still there or was dropped. -/
theorem Reflects.total_add_droppedBytes (h : Reflects settings history s) :
    s.backend.store.total + history.droppedBytes (max settings.retention 1) =
      totalSize history.stored := by
  let names := (history.stored.map (·.device)).toFinset
  have hmem : ∀ e ∈ history.stored, e.device ∈ names := fun e he ↦
    List.mem_toFinset.2 (List.mem_map_of_mem he)
  have hidle : ∀ name ∉ names, s.backend.store.used name = 0 := by
    intro name hname
    have huploads : history.uploads name = [] := by
      rw [uploads_eq_filter, List.filter_eq_nil_iff]
      intro e he hdevice
      exact hname (of_decide_eq_true hdevice ▸ hmem e he)
    rw [Manifest.Store.used, h.log, huploads, Log.ofArrivals_nil]
    rfl
  calc
    _ = ∑ name ∈ names, (s.backend.store.used name +
          totalSize (Log.dropped (max settings.retention 1) .empty (history.uploads name))) := by
      rw [Manifest.Store.total_eq_sum _ hidle, History.droppedBytes, Finset.sum_add_distrib]
    _ = ∑ name ∈ names, totalSize (history.stored.filter (·.device = name)) := by
      apply Finset.sum_congr rfl
      intro name _
      rw [Manifest.Store.used, h.log, Nat.add_comm, Log.totalSize_dropped_add, uploads_eq_filter]
    _ = totalSize history.stored := sum_totalSize_filter _ hmem

theorem Posted.deviceCount_eq_card (h : Posted history s) :
    s.backend.store.deviceCount = history.registered.toFinset.card := by
  have hkeys : s.backend.store.devices.keys.toFinset = history.registered.toFinset := by
    ext name
    rw [List.mem_toFinset, List.mem_toFinset, Table.mem_keys_iff, h.registered]
  calc
    _ = s.backend.store.devices.keys.length := (List.length_map _).symm
    _ = s.backend.store.devices.keys.toFinset.card :=
      (List.toFinset_card_of_nodup s.backend.store.devices.nodup_keys).symm
    _ = history.registered.toFinset.card := by rw [hkeys]

/-- The books of a service balance, whatever it has been asked. The operations are the uploads, the
downloads and the profile syncs. Every diff of every batch that was merged was counted once, as
applied, as a conflict, or as rejected. The bytes that were uploaded are stored or were dropped. The
store is asked for the bytes it holds and the devices it knows and tells the same as the books, and
these devices are those that have registered. What went wrong for devices, to the rings of which it
was added in order, was counted as a failure or as a rejected diff. -/
theorem books_balance (h : Records settings history s) :
    let b := s.books
    b.operations = b.uploads + b.downloads + b.profileSyncs ∧
      b.applied + b.conflicts + b.rejections = history.submitted.length ∧
      b.uploadedBytes =
        s.backend.store.total + history.droppedBytes (max settings.retention 1) ∧
      s.backend.total = .ok b.storedBytes ∧
      s.backend.deviceCount = .ok b.devices ∧
      b.devices = history.registered.toFinset.card ∧
      s.errors = history.recorded.foldl (fun l (device, e) ↦ l.record device e)
        (.new ErrorLog.defaultCapacity) ∧
      history.recorded.length = b.failures + b.rejections := by
  intro b
  have hposted : Posted history s := h.posted
  have hreflects : Reflects settings history s := h.reflects
  have hdown : s.backend.down = [] := hreflects.sound.down
  refine ⟨hposted.operations, hposted.diffs, ?_, ?_, ?_, ?_, hposted.errors,
    hposted.recorded.symm⟩
  · rw [hreflects.total_add_droppedBytes]
    exact hposted.uploadedBytes
  · rw [Manifest.Backend.total, Manifest.Backend.reach_eq_ok hdown, hposted.storedBytes]
    rfl
  · rw [Manifest.Backend.deviceCount, Manifest.Backend.reach_eq_ok hdown, hposted.devices]
    rfl
  · exact hposted.devices.trans hposted.deviceCount_eq_card

theorem books_balance_upload :
    let settings := Settings.standard "localhost"
    ∃ history s, Records settings history s ∧
      history.registered = ["a"] ∧ history.uploads "a" = [⟨"a", [1, 2, 3], "00", .epoch⟩] ∧
      s.books.operations = s.books.uploads + s.books.downloads + s.books.profileSyncs ∧
      s.books.devices = 1 := by
  intro settings
  obtain ⟨history, s, hrecords, -, hregistered, huploads⟩ :=
    exists_records_upload ⟨.replicate 32 0, by decide⟩
  obtain ⟨hoperations, -, -, -, -, hdevices, -⟩ := books_balance hrecords
  rw [hregistered] at hdevices
  exact ⟨history, s, hrecords, hregistered, huploads, hoperations, hdevices⟩

end DeviceSync.Service
