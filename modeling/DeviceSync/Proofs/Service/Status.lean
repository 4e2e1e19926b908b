import DeviceSync.Proofs.Credential.Provenance
import DeviceSync.Proofs.Service.History
import Mathlib.Algebra.Order.BigOperators.Group.List
import Mathlib.Algebra.Order.Group.Nat

/-!
# Status Tells the History

A snapshot is put together from four stores that different calls update under different keys. The
main statement says that none of this shows: whatever a service has been asked, what it tells a
device of its status can be computed from the history of the calls and their answers.

The invariant compares each of the stores with the history. One call keeps it, since what the call
makes of a store is what its entry adds to the history.

The storage that a device is shown is that of the devices on its user's roster, and only
authenticating puts a device there. So a device that comes with a credential from before a restart
may have a log that its own status does not count.
-/

namespace DeviceSync.Service

open Credential (userOf Issuer)
open Manifest (Envelope Log totalSize)
open Status (ErrorLog)

variable {settings : Settings} {history : History} {s : Service}

/-! ## The invariant -/

/-- A service whose stores are what its history says. -/
structure Reflects (settings : Settings) (history : History) (s : Service) : Prop where
  sound : Sound settings s
  roster : ∀ user name,
    name ∈ s.backend.store.roster user ↔ name ∈ history.registered ∧ userOf name = user
  log : ∀ device,
    s.backend.store.log device = .ofArrivals (max settings.retention 1) (history.uploads device)
  profile : ∀ user, (s.engine.arena user).Sound
  version : ∀ user field,
    0 < (s.engine.arena user).versionOf field ↔ field ∈ history.applied user
  lastSync : ∀ device, s.engine.lastSync? (userOf device) device = history.lastSync? device
  capacity : s.errors.capacity = ErrorLog.defaultCapacity
  errors : ∀ device,
    s.errors.recent device = (history.errors device).rtake ErrorLog.defaultCapacity
  rejected : ∀ e ∈ history, ∀ response ∈ e.synced?,
    response.rejected.Pairwise (·.index < ·.index)

namespace Reflects

theorem start {fresh : Credential.Secret} (h : Service.start settings fresh = .ok s) :
    Reflects settings [] s := by
  have hsound : Sound settings s := .start h
  obtain ⟨issuer, -, hs⟩ := bind_eq_ok_iff.1 h
  cases hs
  have hblank : ∀ user field,
      ((Profile.Engine.new settings.profileFields settings.policy).arena user).versionOf field =
        0 := by
    intro user field
    rw [Profile.Arena.versionOf, Profile.Engine.find?_arena_new]
    split <;> rfl
  exact
    { sound := hsound
      roster := fun user name ↦ iff_of_false List.not_mem_nil fun h ↦ List.not_mem_nil h.1
      log := fun device ↦ (Log.ofArrivals_nil _).symm
      profile := Profile.Engine.sound_arena_new settings.profileFields settings.policy
      version := fun user field ↦
        iff_of_false (Nat.not_lt.2 (Nat.le_of_eq (hblank user field))) List.not_mem_nil
      lastSync := fun device ↦ rfl
      capacity := rfl
      errors := fun device ↦ rfl
      rejected := fun e hmem ↦ absurd hmem List.not_mem_nil }

theorem step (h : Reflects settings history s) (c : Call) :
    Reflects settings (history ++ [s.entryOf c (s.step c).2]) (s.step c).1 := by
  have heffect := effect_step s h.sound.down c
  have hstatus : ∀ token, c.request = .status token → c.bearer? s.issuer ≠ none →
      (s.step c).2.error? = none := fun _ ↦ error?_eq_none_of_status h.sound.down
  refine ⟨h.sound.step c, ?_, ?_, heffect.sound_arena h.profile, ?_, ?_, ?_, ?_, ?_⟩
  · intro user name
    rw [heffect.mem_roster_iff, h.roster, registered_concat, List.mem_append, or_and_right,
      Option.mem_toList]
  · intro device
    rw [heffect.log, h.log, h.sound.retention, uploads_concat]
    change _ = Log.ofArrivals _ (_ ++ (stored? device (c, (s.step c).2)).toList)
    cases stored? device (c, (s.step c).2) with
    | none => simp
    | some e => exact Log.push_ofArrivals ..
  · intro user field
    rw [heffect.versionOf_pos_iff h.profile, h.version, applied_concat, List.mem_append]
    by_cases huser : (s.entryOf c (s.step c).2).user? = some user <;> simp [huser]
  · intro device
    rw [heffect.lastSync?_eq h.profile, h.lastSync, lastSync?_concat]
  · exact (heffect.capacity_errors hstatus).trans h.capacity
  · intro device
    rw [errors_concat, ← h.capacity]
    exact heffect.recent_errors hstatus (by rw [h.errors, h.capacity])
  · exact List.forall_mem_append.2
      ⟨h.rejected, List.forall_mem_singleton.2 heffect.pairwise_rejected⟩

end Reflects

theorem Records.reflects (h : Records settings history s) : Reflects settings history s := by
  induction h with
  | start h => exact .start h
  | step h c ih => exact ih.step c
  | rotate h secret ih => exact { ih with sound := { ih.sound with } }

/-! ## What a status tells -/

/-- A snapshot that shows a device what the history comes to. -/
structure Tells (settings : Settings) (history : History) (device : String)
    (snapshot : Status.Snapshot) : Prop where
  /-- The devices are listed in order and each once. -/
  ascending : snapshot.devices.Pairwise (· < ·)
  /-- They are those of the same user that registered. -/
  mem_devices : ∀ name,
    name ∈ snapshot.devices ↔ name ∈ history.registered ∧ userOf name = userOf device
  deviceCount : snapshot.deviceCount = snapshot.devices.length
  enabled : snapshot.enabled = true ↔ device ∈ snapshot.devices
  /-- Each of them occupies what was accepted for it last, as much as the retention allows. -/
  usedBytes : snapshot.usedBytes =
    (snapshot.devices.map fun name ↦
      totalSize ((history.uploads name).rtake (max settings.retention 1))).sum
  fieldCount : snapshot.fieldCount = (history.applied (userOf device)).toFinset.card
  lastSync : snapshot.lastSync = history.lastSync? device
  recentErrors : snapshot.recentErrors = (history.errors device).rtake 10
  /-- The diffs that a sync refused stand among the errors in the order of their batch. -/
  rejected : ∀ e ∈ history, ∀ response ∈ e.synced?,
    response.rejected.Pairwise (·.index < ·.index)

theorem Reflects.used_eq (h : Reflects settings history s) (device : String) :
    s.backend.store.used device =
      totalSize ((history.uploads device).rtake (max settings.retention 1)) := by
  rw [Manifest.Store.used, h.log]
  rfl

theorem Reflects.tells (h : Reflects settings history s) (device : String) :
    Tells settings history device (s.snapshotFor device) where
  ascending := Table.pairwise_keys _
  mem_devices name := h.roster (userOf device) name
  deviceCount := rfl
  enabled := decide_eq_true_iff
  usedBytes := congrArg List.sum (List.map_congr_left fun name _ ↦ h.used_eq name)
  fieldCount := Profile.Arena.written_eq_card fun field ↦
    (h.version (userOf device) field).trans List.mem_toFinset.symm
  lastSync := h.lastSync device
  recentErrors := h.errors device
  rejected := h.rejected

/-- A device that is let in is always told its status, and that is what the history comes to: the
devices of its user that have registered, the bytes of the latest envelopes that were accepted for
these, the number of fields for which the user had a diff applied, the time of the device's own last
sync, and the last ten of its own errors. A call of the device that fails is one error, each diff
refused in a sync that succeeds is one, and nothing else is. -/
theorem status_tells_history (h : Records settings history s) {token : String} {now : Instant}
    {device : String} (hbearer : s.issuer.bearer? token .access now = some device) :
    ∃ snapshot, (s.status token now).2 = .ok ⟨true, snapshot⟩ ∧
      Tells settings history device snapshot := by
  have hreflects : Reflects settings history s := h.reflects
  refine ⟨s.snapshotFor device, ?_, hreflects.tells device⟩
  rw [status_eq_ok hreflects.sound.down hbearer]

/-- A device registers and stores three bytes under its first credential. -/
theorem exists_records_upload (secret : Credential.Secret) :
    ∃ history s, Records (.standard "localhost") history s ∧
      s.issuer.bearer? (Credential.Token.sign secret firstClaims) .access .epoch = some "a" ∧
      history.registered = ["a"] ∧ history.uploads "a" = [⟨"a", [1, 2, 3], "00", .epoch⟩] := by
  let e : Envelope := ⟨"a", [1, 2, 3], "00", .epoch⟩
  let registers : Call :=
    ⟨.authenticate ⟨"a", "AAAAAAAAAAAAAAAAAAAAAAAAAAAAAAAAAAAAAAAAAAA="⟩, .epoch⟩
  let stores : Call := ⟨.upload (Credential.Token.sign secret firstClaims) e, .epoch⟩
  obtain ⟨s, hs, hissuer, hlimit⟩ : ∃ s, Records (.standard "localhost") [] s ∧
      s.issuer = Issuer.new Issuer.defaultName Issuer.defaultAccessLifetime
        Issuer.defaultRefreshLifetime secret ∧
      s.backend.store.limit = some (Settings.standard "localhost").limitBytes :=
    ⟨_, @Records.start (.standard "localhost") secret _ rfl, rfl, rfl⟩
  have ht : Records _ _ (s.step registers).1 := hs.step registers
  generalize hanswer : (s.step registers).2 = a at ht
  have hissuer' : (s.step registers).1.issuer = s.issuer := issuer_step ..
  have hlimit' : (s.step registers).1.backend.store.limit = s.backend.store.limit :=
    (effect_step s hs.reflects.sound.down registers).limit
  generalize (s.step registers).1 = t at ht hissuer' hlimit'
  rw [step_authenticate_eq_ok s hs.reflects.sound.down (hissuer ▸
    Issuer.authenticate_new_epoch secret)] at hanswer
  have hbearer : t.issuer.bearer? (Credential.Token.sign secret firstClaims) .access .epoch =
      some "a" := by
    rw [hissuer', hissuer]
    exact bearer?_firstClaims List.mem_cons_self rfl
  have hdigest : Manifest.DigestForm.ofText e.digest = .ok .bare := by decide
  refine ⟨_, _, ht.step stores, ?_, ?_, ?_⟩
  · rw [issuer_step]
    exact hbearer
  · rw [registered_concat, registered_concat, ← hanswer]
    rfl
  · rw [uploads_concat, uploads_concat, ← hanswer,
      step_upload_eq_ok t ht.reflects.sound.down hbearer hdigest (by rw [hlimit', hlimit]; decide)]
    rfl

theorem status_tells_history_upload :
    let settings := Settings.standard "localhost"
    let secret : Credential.Secret := ⟨.replicate 32 0, by decide⟩
    let token := Credential.Token.sign secret firstClaims
    ∃ history s, Records settings history s ∧
      s.issuer.bearer? token .access .epoch = some "a" ∧
      history.registered = ["a"] ∧ history.uploads "a" = [⟨"a", [1, 2, 3], "00", .epoch⟩] ∧
      ∃ snapshot, (s.status token .epoch).2 = .ok ⟨true, snapshot⟩ ∧
        Tells settings history "a" snapshot := by
  intro settings secret token
  obtain ⟨history, s, hrecords, hbearer, hregistered, huploads⟩ := exists_records_upload secret
  exact ⟨history, s, hrecords, hbearer, hregistered, huploads,
    status_tells_history hrecords hbearer⟩

/-! ## A device's own log -/

/-- A user without a registered device is shown that nothing is stored, even right after a device of
the user has stored something. -/
theorem exists_snapshot_of_roster_eq_nil (hs : Reachable settings s) {token : String}
    {now : Instant} {e : Envelope} {form : Manifest.DigestForm}
    (hbearer : s.issuer.bearer? token .access now = some e.device)
    (hroster : s.backend.store.roster (userOf e.device) = [])
    (hdigest : Manifest.DigestForm.ofText e.digest = .ok form)
    (hsize : ∀ limit ∈ s.backend.store.limit, e.size ≤ limit) (hpayload : 0 < e.size) :
    let u := (s.step ⟨.upload token e, now⟩).1
    Reachable settings u ∧ u.issuer.bearer? token .access now = some e.device ∧
      ∃ snapshot, (u.status token now).2 = .ok ⟨true, snapshot⟩ ∧
        snapshot.usedBytes < totalSize (u.backend.store.log e.device).entries := by
  intro u
  have hu : u.issuer.bearer? token .access now = some e.device := by rwa [issuer_step]
  have hstep : u = lookAgain { s with
      backend := { s.backend with store := s.backend.store.append e.device e }
      books := countUpload s.books e.size } :=
    congrArg Prod.fst (step_upload_eq_ok s hs.sound.down hbearer hdigest hsize)
  have hroster' : u.backend.store.roster (userOf e.device) = [] := by
    rw [hstep]
    exact hroster
  have hentries : e ∈ (u.backend.store.log e.device).entries := by
    obtain ⟨es, hlog⟩ := hs.sound.log e.device
    obtain ⟨n, hn⟩ : ∃ n, max settings.retention 1 = n + 1 :=
      ⟨max settings.retention 1 - 1, by omega⟩
    have happended : (s.backend.store.append e.device e).log e.device =
        .ofArrivals (n + 1) (es ++ [e]) := by
      rw [Manifest.Store.log_append, if_pos rfl, hlog, hs.sound.retention, Log.push_ofArrivals, hn]
    rw [hstep]
    change e ∈ ((s.backend.store.append e.device e).log e.device).entries
    rw [happended, Log.ofArrivals, List.rtake_concat_succ]
    exact List.mem_append_right _ List.mem_cons_self
  refine ⟨hs.step _, hu, u.snapshotFor e.device, ?_, ?_⟩
  · rw [status_eq_ok (hs.step _).sound.down hu]
  · calc
      (u.snapshotFor e.device).usedBytes
          = ((u.backend.store.roster (userOf e.device)).map u.backend.store.used).sum := rfl
      _ = 0 := by rw [hroster']; rfl
      _ < e.size := hpayload
      _ ≤ totalSize (u.backend.store.log e.device).entries :=
        List.le_sum_of_mem (List.mem_map_of_mem hentries)

/-- A device that comes with a credential from before a restart may store what it likes: the service
keeps it and shows the device that nothing is stored. -/
theorem own_log_uncounted :
    let settings := Settings.standard "localhost"
    let secret : Credential.Secret := ⟨.replicate 32 0, by decide⟩
    let issuer : Issuer := .new settings.issuer (lifetimeOf settings.accessSeconds)
      (lifetimeOf settings.refreshSeconds) secret
    let token := Credential.Token.sign secret firstClaims
    let s := assemble settings issuer (backendOf settings [])
    let e : Envelope := ⟨"a", [1, 2, 3], "00", .epoch⟩
    (∃ issued, issuer.authenticate "a" "AAAAAAAAAAAAAAAAAAAAAAAAAAAAAAAAAAAAAAAAAAA=" .epoch =
        .ok issued ∧ issued.access = token) ∧
      let u := (s.step ⟨.upload token e, .epoch⟩).1
      Reachable settings u ∧ u.issuer.bearer? token .access .epoch = some e.device ∧
        ∃ snapshot, (u.status token .epoch).2 = .ok ⟨true, snapshot⟩ ∧
          snapshot.usedBytes < totalSize (u.backend.store.log e.device).entries := by
  intro settings secret issuer token s e
  have hs : Reachable settings s := @Reachable.start settings secret s rfl
  have hdigest : Manifest.DigestForm.ofText e.digest = .ok .bare := by decide
  exact ⟨⟨_, Issuer.authenticate_new_epoch secret, rfl⟩,
    exists_snapshot_of_roster_eq_nil hs (bearer?_firstClaims List.mem_cons_self rfl) rfl hdigest
      (by decide) (by decide)⟩

/-- The log of a device that has registered since the service was started is counted in what the
device is shown, whoever else has stored something and with whatever credentials. -/
theorem own_log_counted (h : Records settings history s) {token : String} {now : Instant}
    {device : String} (hbearer : s.issuer.bearer? token .access now = some device) :
    ∃ snapshot, (s.status token now).2 = .ok ⟨true, snapshot⟩ ∧
      (snapshot.enabled = true ↔ device ∈ history.registered) ∧
      (device ∈ history.registered →
        totalSize (s.backend.store.log device).entries ≤ snapshot.usedBytes) := by
  have hreflects : Reflects settings history s := h.reflects
  have hmem : device ∈ s.backend.store.roster (userOf device) ↔ device ∈ history.registered :=
    (hreflects.roster _ _).trans (and_iff_left rfl)
  refine ⟨s.snapshotFor device, ?_, decide_eq_true_iff.trans hmem, fun hregistered ↦ ?_⟩
  · rw [status_eq_ok hreflects.sound.down hbearer]
  · have hused : totalSize (s.backend.store.log device).entries = s.backend.store.used device := by
      rw [hreflects.used_eq, hreflects.log]
      rfl
    rw [hused]
    exact List.le_sum_of_mem (List.mem_map_of_mem (hmem.2 hregistered))

theorem own_log_counted_upload :
    let settings := Settings.standard "localhost"
    let secret : Credential.Secret := ⟨.replicate 32 0, by decide⟩
    let token := Credential.Token.sign secret firstClaims
    ∃ history s, Records settings history s ∧
      s.issuer.bearer? token .access .epoch = some "a" ∧ "a" ∈ history.registered ∧
      ∃ snapshot, (s.status token .epoch).2 = .ok ⟨true, snapshot⟩ ∧
        (snapshot.enabled = true ↔ "a" ∈ history.registered) ∧
        ("a" ∈ history.registered →
          totalSize (s.backend.store.log "a").entries ≤ snapshot.usedBytes) := by
  intro settings secret token
  obtain ⟨history, s, hrecords, hbearer, hregistered, -⟩ := exists_records_upload secret
  have hmem : "a" ∈ history.registered := by
    rw [hregistered]
    exact List.mem_cons_self
  exact ⟨history, s, hrecords, hbearer, hmem, own_log_counted hrecords hbearer⟩

end DeviceSync.Service
