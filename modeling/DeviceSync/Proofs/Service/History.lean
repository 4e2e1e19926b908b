import DeviceSync.Proofs.Profile.Reachable
import DeviceSync.Proofs.Profile.Written
import DeviceSync.Proofs.Service.Isolation
import DeviceSync.Proofs.Service.Reachable

/-!
# Histories of a Service

What anyone could write down who watches a service from outside: the calls in order, the device
whose access credential each presented, and the answers. A history says which devices registered,
which envelopes arrived, which fields were written and what went wrong for whom.

For every part of the service there is a lemma that says what a call makes of it, and says it with
the call's entry in the history alone.
-/

namespace DeviceSync

open Credential (userOf)
open Manifest (Envelope)
open Status (ErrorEntry ErrorLog)

namespace Service

/-! ## Entries -/

/-- A call with the device whose access credential was accepted, if one was, and the answer. -/
structure Entry where
  call : Call
  bearer : Option String
  answer : Answer

def entryOf (s : Service) (c : Call) (a : Answer) : Entry :=
  ⟨c, c.bearer? s.issuer, a⟩

namespace Entry

/-- The user under whose name the call was made. -/
def user? (e : Entry) : Option String :=
  e.bearer.map userOf

/-- The device that a call registered. -/
def registered? (e : Entry) : Option String :=
  match e.call.request, e.answer with
  | .authenticate r, .credentials (.ok _) => some r.device
  | _, _ => none

/-- The envelope that a call brought into the log of a device. -/
def uploaded? (device : String) (e : Entry) : Option Envelope :=
  stored? device (e.call, e.answer)

/-- What a device was told when its profile was synced. -/
def synced? (e : Entry) : Option SyncResponse :=
  match e.call.request, e.answer with
  | .sync _ _, .sync (.ok response) => some response
  | _, _ => none

/-- When the profile was synced, if it was synced for a device. -/
def syncTime? (device : String) (e : Entry) : Option Instant :=
  if e.bearer = some device then e.synced?.map (·.time) else none

/-- The fields for which a call reported an applied diff. -/
def applied (e : Entry) : List String :=
  match e.synced? with
  | some response => response.applied.map (·.field)
  | none => []

/-- What went wrong, if the call was an upload, a download or a profile sync and failed. -/
def failure? (e : Entry) : Option ServiceError :=
  match e.call.request with
  | .upload _ _ | .download _ _ | .sync _ _ => e.answer.error?
  | .authenticate _ | .refresh _ | .status _ => none

/-- The errors that a call made for its device: the failure of the call, or if it was a sync that
succeeded one for each diff that was refused, in the order of the batch. -/
def errors (e : Entry) : List ErrorEntry :=
  match e.failure?, e.synced? with
  | some error, _ => [⟨e.call.time, error.code, error.message⟩]
  | none, some response => response.rejected.map fun r ↦ ⟨e.call.time, r.code, r.message⟩
  | none, none => []

end Entry

/-! ## Histories -/

abbrev History := List Entry

namespace History

variable (history : History)

/-- The devices that registered, each as often as it did. -/
def registered : List String :=
  history.filterMap Entry.registered?

/-- The envelopes that were accepted for a device. -/
def uploads (device : String) : List Envelope :=
  history.filterMap (Entry.uploaded? device)

/-- The calls under an access credential of a device. -/
def own (device : String) : History :=
  history.filter (·.bearer = some device)

/-- The fields for which a device of a user had a diff applied, each as often as it had. -/
def applied (user : String) : List String :=
  (history.filter (·.user? = some user)).flatMap Entry.applied

/-- When the profile was last synced for a device. -/
def lastSync? (device : String) : Option Instant :=
  (history.filterMap (Entry.syncTime? device)).getLast?

/-- Everything that went wrong for a device. -/
def errors (device : String) : List ErrorEntry :=
  (history.own device).flatMap Entry.errors

end History

/-- A service that was started with some settings, and the history of what it was asked since. A
change of the secret leaves no entry. -/
inductive Records (settings : Settings) : History → Service → Prop where
  | start {fresh : Credential.Secret} {s : Service} (h : start settings fresh = .ok s) :
      Records settings [] s
  | step {history : History} {s : Service} (h : Records settings history s) (c : Call) :
      Records settings (history ++ [s.entryOf c (s.step c).2]) (s.step c).1
  | rotate {history : History} {s : Service} (h : Records settings history s)
      (secret : Credential.Secret) : Records settings history (s.rotate secret)

/-- Every service that can be reached has a history, so what holds of all recorded services holds of
all that run. -/
theorem Reachable.exists_history {settings : Settings} {s : Service} (h : Reachable settings s) :
    ∃ history, Records settings history s := by
  induction h with
  | start h => exact ⟨[], .start h⟩
  | step _ c ih =>
    obtain ⟨history, hrecords⟩ := ih
    exact ⟨_, hrecords.step c⟩
  | rotate _ secret ih =>
    obtain ⟨history, hrecords⟩ := ih
    exact ⟨history, hrecords.rotate secret⟩

/-! ### One more entry -/

section Concat

variable (history : History) (e : Entry) (device user : String)

theorem registered_concat :
    History.registered (history ++ [e]) = history.registered ++ e.registered?.toList := by
  rw [History.registered, List.filterMap_append]
  cases h : e.registered? <;> simp [History.registered, h]

theorem uploads_concat :
    History.uploads (history ++ [e]) device =
      history.uploads device ++ (e.uploaded? device).toList := by
  rw [History.uploads, List.filterMap_append]
  cases h : e.uploaded? device <;> simp [History.uploads, h]

theorem own_concat :
    History.own (history ++ [e]) device =
      history.own device ++ if e.bearer = some device then [e] else [] := by
  rw [History.own, List.filter_append, ← History.own]
  by_cases h : e.bearer = some device <;> simp [h]

theorem applied_concat :
    History.applied (history ++ [e]) user =
      history.applied user ++ if e.user? = some user then e.applied else [] := by
  rw [History.applied, List.filter_append, List.flatMap_append, ← History.applied]
  by_cases h : e.user? = some user <;> simp [h]

theorem errors_concat :
    History.errors (history ++ [e]) device =
      history.errors device ++ if e.bearer = some device then e.errors else [] := by
  rw [History.errors, own_concat, List.flatMap_append, ← History.errors]
  by_cases h : e.bearer = some device <;> simp [h]

theorem lastSync?_concat :
    History.lastSync? (history ++ [e]) device =
      (e.syncTime? device).or (history.lastSync? device) := by
  rw [History.lastSync?, List.filterMap_append]
  cases h : e.syncTime? device <;> simp [History.lastSync?, h]

end Concat

end Service

/-! ## Parts of a service -/

theorem Manifest.Store.mem_roster_register (s : Store) (d : Device) (user name : String) :
    name ∈ (s.register d).roster user ↔
      name ∈ s.roster user ∨ (name = d.name ∧ user = d.user) := by
  change name ∈ (((s.rosters.insert d.user _).find? user).getD .empty).keys ↔ _
  rw [Table.find?_insert]
  by_cases huser : d.user = user
  · subst huser
    rw [if_pos rfl, Option.getD_some, Table.mem_keys_iff, Table.find?_insert, roster,
      Table.mem_keys_iff]
    by_cases hname : d.name = name
    · simp [hname]
    · simp [hname, Ne.symm hname]
  · rw [if_neg huser, or_iff_left fun h ↦ huser h.2.symm, roster]

namespace Status.ErrorLog

variable {l : ErrorLog} {device : String} {past : List ErrorEntry} (es : List ErrorEntry)

theorem capacity_foldl_record : (es.foldl (·.record device) l).capacity = l.capacity := by
  induction es generalizing l with
  | nil => rfl
  | cons e es ih => exact ih

/-- A ring that holds the end of what went wrong before holds the end of all that goes wrong. -/
theorem recent_foldl_record (h : l.recent device = past.rtake l.capacity) :
    (es.foldl (·.record device) l).recent device = (past ++ es).rtake l.capacity := by
  induction es generalizing l past with
  | nil => simpa using h
  | cons e es ih =>
    have hrecord : (l.record device e).recent device = (past ++ [e]).rtake l.capacity := by
      rw [recent_record, if_pos rfl, h]
      exact Manifest.rtake_rtake_append ..
    rw [List.foldl_cons, List.append_cons]
    exact ih hrecord

theorem recent_foldl_record_of_ne {other : String} (h : other ≠ device) :
    (es.foldl (·.record other) l).recent device = l.recent device := by
  induction es generalizing l with
  | nil => rfl
  | cons e es ih => rw [List.foldl_cons, ih, recent_record, if_neg h]

end Status.ErrorLog

namespace Service

/-! ## What a call makes of them -/

section Idle

variable {s : Service} {c : Call} {a : Answer} (h : c.request.Reads ∨ a.error?.isSome)

include h

theorem registered?_eq_none : (s.entryOf c a).registered? = none := by
  unfold Entry.registered? entryOf
  split
  next r response hrequest hanswer =>
    dsimp only at hrequest hanswer
    rw [hrequest, hanswer] at h
    exact h.elim False.elim fun herror ↦ nomatch herror
  next => rfl

theorem synced?_eq_none : (s.entryOf c a).synced? = none := by
  unfold Entry.synced? entryOf
  split
  next token r response hrequest hanswer =>
    dsimp only at hrequest hanswer
    rw [hrequest, hanswer] at h
    exact h.elim False.elim fun herror ↦ nomatch herror
  next => rfl

end Idle

/-- The status of a device, as the service shows it to the device itself. -/
def snapshotFor (s : Service) (device : String) : Status.Snapshot :=
  .ofStore s.backend.store s.engine s.health s.errors s.limitBytes (userOf device) device

/-- A device that is let in is never refused its status. -/
theorem status_eq_ok {s : Service} (hup : s.backend.down = []) {token : String} {now : Instant}
    {device : String} (hbearer : s.issuer.bearer? token .access now = some device) :
    s.status token now = (s, .ok ⟨true, s.snapshotFor device⟩) := by
  obtain ⟨claims, hclaims, rfl, huser⟩ := Credential.Issuer.exists_validate_of_bearer? hbearer
  rw [status, withAccess_of_validate hclaims]
  dsimp only
  rw [Manifest.Backend.snapshot_eq_ok hup, huser]
  rfl

theorem error?_eq_none_of_status {s : Service} (hup : s.backend.down = []) {c : Call}
    {token : String} (hrequest : c.request = .status token) (hbearer : c.bearer? s.issuer ≠ none) :
    (s.step c).2.error? = none := by
  obtain ⟨request, now⟩ := c
  obtain rfl := hrequest
  obtain ⟨device, hbearer⟩ := Option.ne_none_iff_exists'.1 hbearer
  change (Answer.status (s.status token now).2).error? = none
  rw [status_eq_ok hup hbearer]
  rfl

section Effect

variable {s : Service} {c : Call} {r : Service × Answer}

theorem Effect.mem_roster_iff (h : Effect s c r) (user name : String) :
    name ∈ r.1.backend.store.roster user ↔
      name ∈ s.backend.store.roster user ∨
        ((s.entryOf c r.2).registered? = some name ∧ userOf name = user) := by
  obtain ⟨request, now⟩ := c
  cases h with
  | idle books a h =>
    rw [registered?_eq_none h]
    simp
  | registers r issued books hrequest hissued =>
    obtain rfl := hrequest
    obtain ⟨hdevice, huser⟩ := Credential.Issuer.issued_of_authenticate hissued
    rw [Manifest.Store.mem_roster_register, hdevice, huser]
    refine or_congr_right ?_
    simp only [Entry.registered?, entryOf, Option.some.injEq]
    constructor
    · rintro ⟨rfl, rfl⟩
      exact ⟨rfl, rfl⟩
    · rintro ⟨rfl, rfl⟩
      exact ⟨rfl, rfl⟩
  | stores token e form books response hrequest =>
    obtain rfl := hrequest
    exact (or_iff_left fun h ↦ nomatch h.1).symm
  | merges token r claims books hrequest =>
    obtain rfl := hrequest
    exact (or_iff_left fun h ↦ nomatch h.1).symm

/-- The profiles change only when a device syncs, and then it is told what became of its diffs. -/
theorem Effect.engine (h : Effect s c r) :
    (r.1.engine = s.engine ∧ (s.entryOf c r.2).synced? = none) ∨
      ∃ device batch, c.bearer? s.issuer = some device ∧
        r.1.engine = (s.engine.sync (userOf device) device batch c.time).1 ∧
        (s.entryOf c r.2).synced? =
          some (syncResponse (s.engine.sync (userOf device) device batch c.time).2) := by
  obtain ⟨request, now⟩ := c
  cases h with
  | idle books a h => exact .inl ⟨rfl, synced?_eq_none h⟩
  | registers r issued books hrequest =>
    obtain rfl := hrequest
    exact .inl ⟨rfl, rfl⟩
  | stores token e form books response hrequest =>
    obtain rfl := hrequest
    exact .inl ⟨rfl, rfl⟩
  | merges token r claims books hrequest hclaims =>
    obtain rfl := hrequest
    have huser : claims.user = userOf claims.device :=
      (Credential.Issuer.validate_eq_ok_iff.1 hclaims).2.2.2.2
    have hbearer : s.issuer.bearer? token .access now = some claims.device :=
      Credential.Issuer.bearer?_of_validate hclaims
    refine .inr ⟨claims.device, r.diffs, hbearer, ?_, ?_⟩
    · rw [← huser]
    · rw [← huser]
      rfl

/-- An answer lists the diffs that it refuses in the order of the batch. -/
theorem Effect.pairwise_rejected (h : Effect s c r) :
    ∀ response ∈ (s.entryOf c r.2).synced?, response.rejected.Pairwise (·.index < ·.index) := by
  intro response hresponse
  rcases h.engine with ⟨-, hsynced⟩ | ⟨device, batch, -, -, hsynced⟩
  · exact nomatch hsynced.symm.trans hresponse
  · obtain rfl := Option.some.inj (hsynced.symm.trans hresponse)
    exact Profile.Arena.pairwise_rejected_sync _ _ device batch c.time

section Profiles

variable (h : Effect s c r) (hsound : ∀ user, (s.engine.arena user).Sound)

include h hsound

theorem Effect.sound_arena (user : String) : (r.1.engine.arena user).Sound := by
  rcases h.engine with ⟨hengine, -⟩ | ⟨device, batch, -, hengine, -⟩
  · rw [hengine]
    exact hsound user
  · rw [hengine]
    by_cases huser : userOf device = user
    · subst huser
      rw [Profile.Engine.arena_sync_eq_after _ _ ⟨device, batch, c.time⟩]
      exact (hsound _).after _
    · rw [Profile.Engine.arena_sync_of_ne _ _ _ _ _ huser]
      exact hsound user

/-- A field is written for the first time by a call that reports an applied diff for it. -/
theorem Effect.versionOf_pos_iff (user field : String) :
    0 < (r.1.engine.arena user).versionOf field ↔
      0 < (s.engine.arena user).versionOf field ∨
        ((s.entryOf c r.2).user? = some user ∧ field ∈ (s.entryOf c r.2).applied) := by
  rcases h.engine with ⟨hengine, hsynced⟩ | ⟨device, batch, hbearer, hengine, hsynced⟩
  · rw [hengine, Entry.applied, hsynced]
    simp
  · have huser? : (s.entryOf c r.2).user? = some (userOf device) := by
      rw [Entry.user?, entryOf, hbearer]
      rfl
    rw [hengine, huser?, Entry.applied, hsynced, Option.some.injEq]
    by_cases huser : userOf device = user
    · subst huser
      rw [and_iff_right rfl, Profile.Engine.arena_sync_eq_after _ _ ⟨device, batch, c.time⟩]
      exact Profile.Arena.versionOf_after_pos_iff (hsound _) _ field
    · rw [Profile.Engine.arena_sync_of_ne _ _ _ _ _ huser]
      exact (or_iff_left fun h ↦ huser h.1).symm

theorem Effect.lastSync?_eq (device : String) :
    r.1.engine.lastSync? (userOf device) device =
      ((s.entryOf c r.2).syncTime? device).or (s.engine.lastSync? (userOf device) device) := by
  rw [Entry.syncTime?]
  rcases h.engine with ⟨hengine, hsynced⟩ | ⟨caller, batch, hbearer, hengine, hsynced⟩
  · rw [hengine, hsynced, Option.map_none, ite_self, Option.none_or]
  · have hcaller : (s.entryOf c r.2).bearer = some caller := hbearer
    rw [hengine, hsynced, hcaller, Profile.Engine.lastSync?_sync (hsound _)]
    by_cases hdevice : caller = device
    · subst hdevice
      rw [if_pos ⟨rfl, rfl⟩, if_pos rfl]
      rfl
    · rw [if_neg fun h ↦ hdevice h.2, if_neg fun h ↦ hdevice (Option.some.inj h), Option.none_or]

end Profiles

/-- A failure is remembered for the device that was let in, if that asked for more than its
status. -/
theorem failure?_eq_error? {a : Answer} {device : String}
    (hbearer : c.bearer? s.issuer = some device)
    (hstatus : ∀ token, c.request = .status token → a.error? = none) :
    (s.entryOf c a).failure? = a.error? := by
  obtain ⟨request, now⟩ := c
  cases request with
  | authenticate | refresh => cases hbearer
  | upload | download | sync => rfl
  | status token => exact (hstatus token rfl).symm

section Errors

variable (h : Effect s c r)
  (hstatus : ∀ token, c.request = .status token → c.bearer? s.issuer ≠ none → r.2.error? = none)

include h hstatus

/-- A call adds its errors to the ring of the device that was let in. -/
theorem Effect.errors_eq :
    r.1.errors =
      match c.bearer? s.issuer with
      | some device => (s.entryOf c r.2).errors.foldl (·.record device) s.errors
      | none => s.errors := by
  cases h with
  | idle books a h =>
    change s.errorsAfter c a = _
    rw [errorsAfter]
    cases hbearer : c.bearer? s.issuer with
    | none => rfl
    | some device =>
      have hfailure : (s.entryOf c a).failure? = a.error? :=
        failure?_eq_error? hbearer fun token hrequest ↦
          hstatus token hrequest (by rw [hbearer]; exact Option.some_ne_none _)
      dsimp only
      rw [Entry.errors, hfailure, synced?_eq_none h]
      cases a.error? <;> rfl
  | registers r issued books hrequest =>
    obtain ⟨request, now⟩ := c
    obtain rfl := hrequest
    rfl
  | stores token e form books response hrequest hbearer =>
    obtain ⟨request, now⟩ := c
    obtain rfl := hrequest
    rw [hbearer]
    rfl
  | merges token r claims books hrequest hclaims =>
    obtain ⟨request, now⟩ := c
    obtain rfl := hrequest
    have hbearer : Call.bearer? s.issuer ⟨.sync token r, now⟩ = some claims.device :=
      Credential.Issuer.bearer?_of_validate hclaims
    rw [hbearer]
    exact List.foldl_map.symm

theorem Effect.capacity_errors : r.1.errors.capacity = s.errors.capacity := by
  rw [h.errors_eq hstatus]
  cases c.bearer? s.issuer with
  | none => rfl
  | some device => exact ErrorLog.capacity_foldl_record _

theorem Effect.recent_errors {device : String} {past : List ErrorEntry}
    (hpast : s.errors.recent device = past.rtake s.errors.capacity) :
    r.1.errors.recent device =
      (past ++ if (s.entryOf c r.2).bearer = some device then (s.entryOf c r.2).errors
        else []).rtake s.errors.capacity := by
  change _ = (past ++ if c.bearer? s.issuer = some device then _ else []).rtake _
  rw [h.errors_eq hstatus]
  cases c.bearer? s.issuer with
  | none => simpa using hpast
  | some caller =>
    by_cases hcaller : caller = device
    · subst hcaller
      rw [if_pos rfl]
      exact ErrorLog.recent_foldl_record _ hpast
    · rw [if_neg fun h ↦ hcaller (Option.some.inj h), List.append_nil, ← hpast]
      exact ErrorLog.recent_foldl_record_of_ne _ hcaller

end Errors

end Effect

end Service

end DeviceSync
