import DeviceSync.Proofs.Profile.Reachable
import DeviceSync.Proofs.Service.Reachable

/-!
# Isolation of Devices

The logs, the rosters, the profiles and the error rings of all devices stand in the same tables. The
main statement is that a device notices nothing of that: if no other device has its user, its calls
are answered as if the calls of all others had never been made.

Two services agree for a device if they do not differ in anything that its answers can depend on.
A call of the device is answered alike by both and leaves them in agreement; a call of another
device leaves a service in agreement with what it was.
-/

namespace DeviceSync

open Credential (userOf Claims)
open Manifest (Envelope Device Backend)

variable {d user : String}

/-! ## Stores -/

namespace Manifest.Backend

/-- Two backends do not differ for the only device of a user. -/
structure Agree (d user : String) (b c : Backend) : Prop where
  down : b.down = c.down
  retention : b.store.retention = c.store.retention
  limit : b.store.limit = c.store.limit
  log : b.store.logs.find? d = c.store.logs.find? d
  roster : b.store.rosters.find? user = c.store.rosters.find? user
  /-- A status sums over the logs of a whole roster, and only one log is known to be the same. -/
  alone : ∀ name ∈ b.store.roster user, name = d

namespace Agree

variable {b c : Backend}

theorem reach (h : b.Agree d user c) (op : Operation) : b.reach op = c.reach op := by
  rw [Backend.reach, Backend.reach, h.down]

theorem log_eq (h : b.Agree d user c) : b.store.log d = c.store.log d :=
  congrArg (·.getD .empty) h.log

theorem roster_eq (h : b.Agree d user c) : b.roster user = c.roster user := by
  rw [Backend.roster, Backend.roster, h.reach, Store.roster, Store.roster, h.roster]

theorem eq_of_mem_roster (h : b.Agree d user c) {names : List String}
    (hnames : b.roster user = .ok names) : ∀ name ∈ names, name = d := by
  unfold Backend.roster at hnames
  obtain ⟨-, -, hnames⟩ := bind_eq_ok_iff.1 hnames
  cases hnames
  exact h.alone

theorem manifests (h : b.Agree d user c) (since : Instant) :
    b.manifests d since = c.manifests d since := by
  rw [Backend.manifests, Backend.manifests, h.reach, Store.manifests, Store.manifests, h.log_eq]

theorem used (h : b.Agree d user c) : b.used d = c.used d := by
  rw [Backend.used, Backend.used, h.reach, Store.used, Store.used, h.log_eq]

theorem append (h : b.Agree d user c) (e : Envelope) :
    Agree d user { b with store := b.store.append d e } { c with store := c.store.append d e } :=
  { h with
    log := by
      rw [Store.append, Store.append, Table.find?_insert, if_pos rfl, Table.find?_insert,
        if_pos rfl, h.log_eq, h.retention] }

/-- A device's own envelope is put into both backends or refused by both for the same reason. -/
theorem put (h : b.Agree d user c) (e : Envelope) :
    (∃ problem, b.put d e = .error problem ∧ c.put d e = .error problem) ∨
      ∃ b' c', b.put d e = .ok b' ∧ c.put d e = .ok c' ∧ b'.Agree d user c' := by
  unfold Backend.put
  rw [h.reach, Store.put_eq, Store.put_eq, h.limit]
  cases c.reach .putManifest with
  | error problem => exact .inl ⟨problem, rfl, rfl⟩
  | ok =>
    by_cases hsize : ∀ limit ∈ c.store.limit, e.size ≤ limit
    · rw [if_pos hsize, if_pos hsize]
      exact .inr ⟨_, _, rfl, rfl, h.append e⟩
    · rw [if_neg hsize, if_neg hsize]
      exact .inl ⟨_, rfl, rfl⟩

/-- An envelope of another device does not show. -/
theorem put_of_ne {b' : Backend} {other : String} {e : Envelope} (h : b.Agree d user c)
    (hother : other ≠ d) (hput : b.put other e = .ok b') : b'.Agree d user c := by
  unfold Backend.put at hput
  obtain ⟨-, -, hput⟩ := bind_eq_ok_iff.1 hput
  obtain ⟨store, hstore, hput⟩ := bind_eq_ok_iff.1 hput
  rw [Store.put_eq] at hstore
  split at hstore
  · cases hstore
    cases hput
    refine { h with log := ?_ }
    rw [Store.append, Table.find?_insert, if_neg hother, h.log]
  · cases hstore

/-- A device registers with both backends or with neither. -/
theorem register (h : b.Agree d user c) (device : Device) (hname : device.name = d)
    (huser : device.user = user) :
    (∃ problem, b.register device = .error problem ∧ c.register device = .error problem) ∨
      ∃ b' c', b.register device = .ok b' ∧ c.register device = .ok c' ∧ b'.Agree d user c' := by
  unfold Backend.register
  rw [h.reach]
  cases c.reach .registerDevice with
  | error problem => exact .inl ⟨problem, rfl, rfl⟩
  | ok =>
    refine .inr ⟨_, _, rfl, rfl, { h with roster := ?_, alone := ?_ }⟩
    · change (b.store.rosters.insert device.user _).find? user =
        (c.store.rosters.insert device.user _).find? user
      rw [huser, Table.find?_insert, if_pos rfl, Table.find?_insert, if_pos rfl, h.roster]
    · intro name hmem
      change name ∈ (((b.store.rosters.insert device.user _).find? user).getD .empty).keys at hmem
      rw [huser, Table.find?_insert, if_pos rfl, Option.getD_some, Table.mem_keys_iff,
        Table.find?_insert] at hmem
      split at hmem
      next heq => rw [← heq, hname]
      next => exact h.alone name ((Table.mem_keys_iff ..).2 hmem)

/-- The registration of another user's device does not show. -/
theorem register_of_ne {b' : Backend} {device : Device} (h : b.Agree d user c)
    (huser : device.user ≠ user) (hregister : b.register device = .ok b') : b'.Agree d user c := by
  unfold Backend.register at hregister
  obtain ⟨-, -, hregister⟩ := bind_eq_ok_iff.1 hregister
  cases hregister
  have hroster : (b.store.register device).rosters.find? user = b.store.rosters.find? user := by
    change (b.store.rosters.insert device.user _).find? user = _
    rw [Table.find?_insert, if_neg huser]
  refine { h with roster := hroster.trans h.roster, alone := ?_ }
  unfold Store.roster
  rw [hroster]
  exact h.alone

end Agree

end Manifest.Backend

/-- The logs of all devices on a roster hold the same if the device is the only one on it. -/
theorem Manifest.Backend.Agree.usedBy {b c : Backend} (h : b.Agree d user c) {names : List String}
    (hnames : ∀ name ∈ names, name = d) : Status.usedBy b names = Status.usedBy c names := by
  induction names with
  | nil => rfl
  | cons name names ih =>
    obtain rfl := hnames name List.mem_cons_self
    rw [Status.usedBy, Status.usedBy, h.used, ih fun other hmem ↦ hnames other (.tail _ hmem)]

/-! ## Error rings -/

namespace Status.ErrorLog

/-- Two error logs do not differ for a device. -/
structure Agree (d : String) (l m : ErrorLog) : Prop where
  capacity : l.capacity = m.capacity
  recent : l.recent d = m.recent d

theorem recent_record (l : ErrorLog) (device other : String) (e : ErrorEntry) :
    (l.record device e).recent other =
      if device = other then lastOf l.capacity (l.recent device ++ [e]) else l.recent other := by
  change ((l.rings.insert device _).find? other).getD [] = _
  rw [Table.find?_insert]
  split <;> rfl

namespace Agree

variable {l m : ErrorLog}

theorem record (h : l.Agree d m) (e : ErrorEntry) : (l.record d e).Agree d (m.record d e) where
  capacity := h.capacity
  recent := by rw [recent_record, if_pos rfl, recent_record, if_pos rfl, h.capacity, h.recent]

theorem record_of_ne (h : l.Agree d m) {other : String} (hother : other ≠ d) (e : ErrorEntry) :
    (l.record other e).Agree d m where
  capacity := h.capacity
  recent := by rw [recent_record, if_neg hother, h.recent]

theorem recordRejections (h : l.Agree d m) {now : Instant} (rejected : List Profile.Rejection) :
    (Service.recordRejections l d now rejected).Agree d
      (Service.recordRejections m d now rejected) := by
  induction rejected generalizing l m with
  | nil => exact h
  | cons r rejected ih => exact ih (h.record _)

theorem recordRejections_of_ne (h : l.Agree d m) {other : String} (hother : other ≠ d)
    {now : Instant} (rejected : List Profile.Rejection) :
    (Service.recordRejections l other now rejected).Agree d m := by
  induction rejected generalizing l with
  | nil => exact h
  | cons r rejected ih => exact ih (h.record_of_ne hother _)

end Agree

end Status.ErrorLog

/-! ## Services -/

namespace Service

/-- Two services do not differ for a device that is the only one of its user. -/
structure Agree (d : String) (s t : Service) : Prop where
  issuer : s.issuer = t.issuer
  backend : s.backend.Agree d (userOf d) t.backend
  policy : s.engine.policy = t.engine.policy
  profile : s.engine.arena (userOf d) = t.engine.arena (userOf d)
  health : s.health = t.health
  errors : s.errors.Agree d t.errors
  endpoint : s.endpoint = t.endpoint
  pageSize : s.pageSize = t.pageSize
  limitBytes : s.limitBytes = t.limitBytes

/-- The same answer, from services that do not differ for a device afterwards. -/
structure Alike {α : Type} (d : String) (r r' : Service × α) : Prop where
  service : r.1.Agree d r'.1
  answer : r.2 = r'.2

theorem Alike.map {α β : Type} {r r' : Service × α} (h : Alike d r r') (f : α → β) :
    Alike d (r.map id f) (r'.map id f) :=
  ⟨h.service, congrArg f h.answer⟩

namespace Agree

variable {s t : Service} {token : String} {now : Instant}

theorem refl (halone : ∀ name ∈ s.backend.store.roster (userOf d), name = d) : s.Agree d s :=
  ⟨rfl, ⟨rfl, rfl, rfl, rfl, rfl, halone⟩, rfl, rfl, rfl, ⟨rfl, rfl⟩, rfl, rfl, rfl⟩

/-- Nothing is answered from the books. -/
theorem books (h : s.Agree d t) (b b' : Books) :
    Agree d { s with books := b } { t with books := b' } :=
  { h with }

/-! ### A call of the device -/

theorem fail {α : Type} (h : s.Agree d t) (e : ServiceError) :
    Alike d (s.fail d e now : Reply α) (t.fail d e now) :=
  ⟨{ h with errors := h.errors.record _ }, rfl⟩

theorem authResponse (h : s.Agree d t) (i : Credential.Issued) :
    s.authResponse i = t.authResponse i := by
  rw [Service.authResponse, Service.authResponse, h.endpoint]

theorem authenticate (h : s.Agree d t) {r : AuthRequest} (hown : r.device = d) :
    Alike d (s.authenticate r now) (t.authenticate r now) := by
  unfold Service.authenticate
  have hissuer : s.issuer.authenticate r.device r.publicKey now =
      t.issuer.authenticate r.device r.publicKey now := by rw [h.issuer]
  dsimp only
  rw [hissuer]
  cases hissued : t.issuer.authenticate r.device r.publicKey now with
  | error e => exact ⟨h.books _ _, rfl⟩
  | ok issued =>
    obtain ⟨hdevice, huser⟩ := Credential.Issuer.issued_of_authenticate hissued
    rw [hown] at hdevice huser
    dsimp only
    rcases h.backend.register ⟨issued.device, issued.user, r.publicKey, now, now⟩ hdevice huser with
      ⟨problem, hs, ht⟩ | ⟨b, c, hs, ht, hagree⟩
    · rw [hs, ht]
      exact ⟨h.books _ _, rfl⟩
    · rw [hs, ht]
      exact ⟨{ h with backend := hagree }, congrArg Except.ok (h.authResponse issued)⟩

theorem refresh (h : s.Agree d t) (r : RefreshRequest) :
    Alike d (s.refresh r now) (t.refresh r now) := by
  have hissuer : s.issuer.refresh r.token now = t.issuer.refresh r.token now := by rw [h.issuer]
  unfold Service.refresh
  rw [hissuer]
  cases t.issuer.refresh r.token now with
  | error e => exact ⟨h.books _ _, rfl⟩
  | ok issued => exact ⟨h.books _ _, congrArg Except.ok (h.authResponse issued)⟩

/-- What a call under a credential of the device comes to is the same if it is the same for a user's
own device. -/
theorem withAccess {α : Type} {call call' : Claims → Reply α} (h : s.Agree d t)
    (hown : t.issuer.bearer? token .access now = some d)
    (hcall : ∀ claims, claims.device = d → claims.user = userOf d →
      Alike d (call claims) (call' claims)) :
    Alike d (s.withAccess token now call) (t.withAccess token now call') := by
  obtain ⟨claims, hclaims, hdevice, huser⟩ :=
    Credential.Issuer.exists_validate_of_bearer? hown
  rw [withAccess_eq, withAccess_eq, h.issuer, hclaims]
  exact hcall claims hdevice huser

theorem upload (h : s.Agree d t) (hown : t.issuer.bearer? token .access now = some d)
    (e : Envelope) : Alike d (s.upload token e now) (t.upload token e now) := by
  apply h.withAccess hown
  intro claims hdevice _
  dsimp only
  rw [hdevice]
  by_cases hname : e.device ≠ d
  · rw [if_pos hname, if_pos hname]
    exact (h.books _ _).fail _
  · rw [if_neg hname, if_neg hname]
    cases Manifest.DigestForm.ofText e.digest with
    | error flaw => exact (h.books _ _).fail _
    | ok form =>
      dsimp only
      rcases h.backend.put e with ⟨problem, hs, ht⟩ | ⟨b, c, hs, ht, hagree⟩
      · rw [hs, ht]
        exact h.fail _
      · rw [hs, ht]
        exact ⟨{ h with backend := hagree }, rfl⟩

theorem download (h : s.Agree d t) (hown : t.issuer.bearer? token .access now = some d)
    (q : DownloadQuery) : Alike d (s.download token q now) (t.download token q now) := by
  apply h.withAccess hown
  intro claims hdevice _
  dsimp only
  rw [hdevice]
  cases offsetOf? q.pageToken with
  | none => exact h.fail _
  | some offset =>
    dsimp only
    rw [h.backend.manifests]
    cases t.backend.manifests d (q.since.getD .epoch) with
    | error problem => exact h.fail _
    | ok manifests =>
      refine ⟨h.books _ _, ?_⟩
      dsimp only
      rw [h.pageSize]

theorem sync (h : s.Agree d t) (hown : t.issuer.bearer? token .access now = some d)
    (r : SyncRequest) : Alike d (s.sync token r now) (t.sync token r now) := by
  apply h.withAccess hown
  intro claims hdevice huser
  dsimp only
  rw [hdevice, huser]
  cases foreignDevice? d r.diffs with
  | some other => exact h.fail _
  | none =>
    have houtcome : (s.engine.sync (userOf d) d r.diffs now).2 =
        (t.engine.sync (userOf d) d r.diffs now).2 := by
      change ((s.engine.arena (userOf d)).sync s.engine.policy d r.diffs now).2 =
        ((t.engine.arena (userOf d)).sync t.engine.policy d r.diffs now).2
      rw [h.profile, h.policy]
    have hprofile : (s.engine.sync (userOf d) d r.diffs now).1.arena (userOf d) =
        (t.engine.sync (userOf d) d r.diffs now).1.arena (userOf d) := by
      rw [Profile.Engine.arena_sync, Profile.Engine.arena_sync, h.profile, h.policy]
    refine ⟨{ h with policy := h.policy, profile := hprofile, errors := ?_ }, ?_⟩
    · dsimp only
      rw [houtcome]
      exact h.errors.recordRejections _
    · dsimp only
      rw [houtcome]

theorem snapshot (h : s.Agree d t) :
    Status.snapshot s.backend s.engine s.health s.errors s.limitBytes (userOf d) d =
      Status.snapshot t.backend t.engine t.health t.errors t.limitBytes (userOf d) d := by
  unfold Status.snapshot Profile.Engine.lastSync? Profile.Engine.written
  rw [h.profile, h.limitBytes, h.health, h.errors.recent]
  cases hroster : s.backend.roster (userOf d) with
  | error problem =>
    rw [← h.backend.roster_eq, hroster]
    rfl
  | ok names =>
    rw [← h.backend.roster_eq, hroster]
    dsimp only [bind, Except.bind]
    rw [h.backend.usedBy (h.backend.eq_of_mem_roster hroster)]

theorem status (h : s.Agree d t) (hown : t.issuer.bearer? token .access now = some d) :
    Alike d (s.status token now) (t.status token now) := by
  apply h.withAccess hown
  intro claims hdevice huser
  dsimp only
  rw [hdevice, huser, h.snapshot]
  cases Status.snapshot t.backend t.engine t.health t.errors t.limitBytes (userOf d) d with
  | ok snapshot => exact ⟨h, rfl⟩
  | error problem => exact ⟨h, rfl⟩

/-- A call of the device is answered alike. -/
theorem step (h : s.Agree d t) {c : Call} (hown : c.device? t.issuer = some d) :
    Alike d (s.step c) (t.step c) := by
  obtain ⟨request, now⟩ := c
  cases request with
  | authenticate r => exact (h.authenticate (Option.some.inj hown)).map Answer.credentials
  | refresh r => exact (h.refresh r).map Answer.credentials
  | upload token e => exact (h.upload hown e).map Answer.upload
  | download token q => exact (h.download hown q).map Answer.download
  | sync token r => exact (h.sync hown r).map Answer.sync
  | status token => exact (h.status hown).map Answer.status

/-! ### A call of another device -/

theorem fail_of_ne {α : Type} (h : s.Agree d t) {other : String} (hother : other ≠ d)
    (e : ServiceError) : (s.fail other e now : Reply α).1.Agree d t :=
  { h with errors := h.errors.record_of_ne hother _ }

theorem rejectUpload_of_ne {α : Type} (h : s.Agree d t) {other : String} (hother : other ≠ d)
    (e : ServiceError) : (s.rejectUpload other e now : Reply α).1.Agree d t :=
  (h.books _ t.books).fail_of_ne hother e

theorem authenticate_of_ne (h : s.Agree d t) {r : AuthRequest}
    (huser : userOf r.device ≠ userOf d) : (s.authenticate r now).1.Agree d t := by
  unfold Service.authenticate
  dsimp only
  cases hissued : s.issuer.authenticate r.device r.publicKey now with
  | error e => exact { h with }
  | ok issued =>
    obtain ⟨-, hissuedUser⟩ := Credential.Issuer.issued_of_authenticate hissued
    dsimp only
    split
    · exact { h with }
    next b hregister =>
      rw [← hissuedUser] at huser
      exact { h with backend := h.backend.register_of_ne huser hregister }

theorem refresh_of_ne (h : s.Agree d t) (r : RefreshRequest) : (s.refresh r now).1.Agree d t := by
  unfold Service.refresh
  split
  · exact { h with }
  · exact { h with }

theorem withAccess_of_ne {α : Type} {call : Claims → Reply α} (h : s.Agree d t)
    (hother : ∀ other, s.issuer.bearer? token .access now = some other →
      userOf other ≠ userOf d)
    (hcall : ∀ claims, claims.device ≠ d → claims.user ≠ userOf d → (call claims).1.Agree d t) :
    (s.withAccess token now call).1.Agree d t := by
  rw [withAccess_eq]
  unfold Credential.Issuer.bearer? at hother
  cases hclaims : s.issuer.validate token .access now with
  | error e => exact { h with }
  | ok claims =>
    rw [hclaims] at hother
    have hne : userOf claims.device ≠ userOf d := hother claims.device rfl
    have huser := (Credential.Issuer.validate_eq_ok_iff.1 hclaims).2.2.2.2
    refine hcall claims (fun hdevice ↦ hne (congrArg userOf hdevice)) ?_
    rw [huser]
    exact hne

section Access

variable (h : s.Agree d t)
  (hother : ∀ other, s.issuer.bearer? token .access now = some other → userOf other ≠ userOf d)

include h hother

theorem upload_of_ne (e : Envelope) : (s.upload token e now).1.Agree d t := by
  apply h.withAccess_of_ne hother
  intro claims hdevice _
  dsimp only
  split
  · exact h.rejectUpload_of_ne hdevice _
  · split
    · exact h.rejectUpload_of_ne hdevice _
    · split
      · exact h.fail_of_ne hdevice _
      next b hput => exact { h with backend := h.backend.put_of_ne hdevice hput }

theorem download_of_ne (q : DownloadQuery) : (s.download token q now).1.Agree d t := by
  apply h.withAccess_of_ne hother
  intro claims hdevice _
  dsimp only
  split
  · exact h.fail_of_ne hdevice _
  · split
    · exact h.fail_of_ne hdevice _
    · exact { h with }

theorem sync_of_ne (r : SyncRequest) : (s.sync token r now).1.Agree d t := by
  apply h.withAccess_of_ne hother
  intro claims hdevice huser
  dsimp only
  split
  · exact h.fail_of_ne hdevice _
  · refine { h with policy := h.policy, profile := ?_, errors := ?_ }
    · rw [← h.profile]
      exact Profile.Engine.arena_sync_of_ne _ _ _ _ _ huser
    · exact h.errors.recordRejections_of_ne hdevice _

theorem status_of_ne : (s.status token now).1.Agree d t := by
  apply h.withAccess_of_ne hother
  intro claims _ _
  dsimp only
  split
  · exact h
  · exact h

end Access

/-- A call of another device, or of none, does not show. -/
theorem step_of_ne (h : s.Agree d t) {c : Call}
    (hother : ∀ other, c.device? s.issuer = some other → userOf other ≠ userOf d) :
    (s.step c).1.Agree d t := by
  obtain ⟨request, now⟩ := c
  cases request with
  | authenticate r => exact h.authenticate_of_ne (hother r.device rfl)
  | refresh r => exact h.refresh_of_ne r
  | upload token e => exact h.upload_of_ne hother e
  | download token q => exact h.download_of_ne hother q
  | sync token r => exact h.sync_of_ne hother r
  | status token => exact h.status_of_ne hother

/-! ### Runs -/

/-- The device's part of one run is the run of its own calls alone. -/
theorem trace (h : s.Agree d t) {i : Credential.Issuer} (hissuer : s.issuer = i)
    {calls : List Call}
    (hdistinct : ∀ c ∈ calls, ∀ other, c.device? i = some other →
      userOf other = userOf d → other = d) :
    (s.trace calls).filter (·.1.device? i = some d) =
      t.trace (calls.filter (·.device? i = some d)) := by
  induction calls generalizing s t with
  | nil => rfl
  | cons c calls ih =>
    have hrest : ∀ c ∈ calls, ∀ other, c.device? i = some other →
        userOf other = userOf d → other = d := fun c hmem ↦ hdistinct c (.tail _ hmem)
    have hissuer' : (s.step c).1.issuer = i := (issuer_step s c).trans hissuer
    by_cases hown : c.device? i = some d
    · -- The call stands in both runs: it is answered alike, and the agreement goes on after it.
      have hstep : Alike d (s.step c) (t.step c) := h.step (by rw [← h.issuer, hissuer, hown])
      rw [Service.trace, List.filter_cons_of_pos (by simpa using hown),
        List.filter_cons_of_pos (by simpa using hown), Service.trace, hstep.answer,
        ih hstep.service hissuer' hrest]
    · -- The call stands in the first run only, which does not show in what the device sees of it.
      have hother : ∀ other, c.device? s.issuer = some other → userOf other ≠ userOf d := by
        intro other hdevice huser
        rw [hissuer] at hdevice
        obtain rfl := hdistinct c List.mem_cons_self other hdevice huser
        exact hown hdevice
      rw [Service.trace, List.filter_cons_of_neg (by simpa using hown),
        List.filter_cons_of_neg (by simpa using hown), ih (h.step_of_ne hother) hissuer' hrest]

end Agree

/-- A device is answered as if all calls but its own were deleted, provided that no other device
with its user is on the roster at the start or calls. -/
theorem trace_filter (s : Service) (d : String) (calls : List Call)
    (halone : ∀ name ∈ s.backend.store.roster (userOf d), name = d)
    (hdistinct : ∀ c ∈ calls, ∀ other, c.device? s.issuer = some other →
      userOf other = userOf d → other = d) :
    (s.trace calls).filter (·.1.device? s.issuer = some d) =
      s.trace (calls.filter (·.device? s.issuer = some d)) := by
  have hstart : s.Agree d s := .refl halone
  exact hstart.trace rfl hdistinct

/-- Two devices register, upload and sync, each under its own credential, and one caller has no
credential. -/
theorem trace_filter_two :
    let key := "AAAAAAAAAAAAAAAAAAAAAAAAAAAAAAAAAAAAAAAAAAA="
    let settings := Settings.standard "localhost"
    let secret : Credential.Secret := ⟨.replicate 32 0, by decide⟩
    let issuer : Credential.Issuer := .new settings.issuer (lifetimeOf settings.accessSeconds)
      (lifetimeOf settings.refreshSeconds) secret
    let s := assemble settings issuer (backendOf settings [])
    let token (name : String) := Credential.Token.sign secret
      ⟨name, name, userOf name, .access, Credential.Issuer.defaultName, 0, 3600⟩
    let register (name : String) : Call := ⟨.authenticate ⟨name, key⟩, .epoch⟩
    let e (name : String) : Envelope := ⟨name, [1], "00", .epoch⟩
    let upload (name : String) : Call := ⟨.upload (token name) (e name), .epoch⟩
    let sync (name : String) : Call :=
      ⟨.sync (token name) ⟨[⟨"dns_settings", 0, .null, name, .epoch⟩]⟩, .epoch⟩
    let download : Call := ⟨.download (token "a") ⟨none, none⟩, .epoch⟩
    let calls : List Call := [register "a", register "b", upload "b", upload "a", sync "b",
      sync "a", ⟨.status "none", .epoch⟩, download]
    (∀ name ∈ s.backend.store.roster (userOf "a"), name = "a") ∧
      (∀ c ∈ calls, ∀ other, c.device? s.issuer = some other →
        userOf other = userOf "a" → other = "a") ∧
      s.arrivals "a" calls = [e "a"] ∧ s.arrivals "b" calls = [e "b"] ∧
      calls.filter (·.device? s.issuer = some "a") =
        [register "a", upload "a", sync "a", download] ∧
      (s.trace calls).filter (·.1.device? s.issuer = some "a") =
        s.trace (calls.filter (·.device? s.issuer = some "a")) := by
  intro key settings secret issuer s token register e upload sync download calls
  have halone : ∀ name ∈ s.backend.store.roster (userOf "a"), name = "a" :=
    fun _ hmem ↦ nomatch hmem
  have hbearer (name : String) : s.issuer.bearer? (token name) .access .epoch = some name :=
    bearer?_sign_epoch List.mem_cons_self rfl name
  have hnone : s.issuer.bearer? "none" .access .epoch = none := by decide +kernel
  have huser : userOf "b" ≠ userOf "a" := by decide +kernel
  have hregister (name : String) : (register name).device? s.issuer = some name := rfl
  have hupload (name : String) : (upload name).device? s.issuer = some name := hbearer name
  have hsync (name : String) : (sync name).device? s.issuer = some name := hbearer name
  have hdownload : download.device? s.issuer = some "a" := hbearer "a"
  have hstatus : (⟨.status "none", .epoch⟩ : Call).device? s.issuer = none := hnone
  have hdistinct : ∀ c ∈ calls, ∀ other, c.device? s.issuer = some other →
      userOf other = userOf "a" → other = "a" := by
    simp [calls, hregister, hupload, hsync, hdownload, hstatus, huser]
  have hdigest : Manifest.DigestForm.ofText "00" = .ok .bare := by decide
  have hsize : ∀ limit ∈ s.backend.store.limit, 1 ≤ limit := by decide
  have hadmits (name : String) : s.Admits (upload name) := ⟨hbearer name, ⟨_, hdigest⟩, hsize⟩
  have hcalls : ∀ c ∈ calls, s.Admits c := by
    simp only [calls, List.forall_mem_cons]
    exact ⟨trivial, trivial, hadmits "b", hadmits "a", trivial, trivial, trivial, trivial,
      List.forall_mem_nil _⟩
  have harrivals (name : String) :
      s.arrivals name calls = calls.filterMap (·.request.envelope? name) :=
    Sound.arrivals_eq_filterMap (.assemble settings issuer) name hcalls
  refine ⟨halone, hdistinct, (harrivals "a").trans rfl, (harrivals "b").trans rfl, ?_,
    trace_filter s "a" calls halone hdistinct⟩
  simp [calls, hregister, hupload, hsync, hdownload, hstatus]

end Service

end DeviceSync
