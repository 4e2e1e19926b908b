import DeviceSync.Proofs.Service.Effect

/-!
# Reachable Services

What holds of a service at all times after it was started, whatever it is asked and however often
its secret is changed. Its setup stays what the settings say, and the log of every device holds the
latest of what has arrived for the device.
-/

namespace DeviceSync.Service

open Manifest (Envelope Log)

/-- A service that was started with some settings, after any calls and changes of the secret. -/
inductive Reachable (settings : Settings) : Service → Prop where
  | start {fresh : Credential.Secret} {s : Service} (h : start settings fresh = .ok s) :
      Reachable settings s
  | step {s : Service} (h : Reachable settings s) (c : Call) : Reachable settings (s.step c).1
  | rotate {s : Service} (h : Reachable settings s) (secret : Credential.Secret) :
      Reachable settings (s.rotate secret)

/-! ## Arrivals -/

/-- The envelope that a call brought into the log of a device. -/
def stored? (device : String) : Call × Answer → Option Envelope
  | (⟨.upload _ e, _⟩, .upload (.ok _)) => if e.device = device then some e else none
  | _ => none

/-- The service after some calls. -/
def run (s : Service) : List Call → Service
  | [] => s
  | c :: calls => (s.step c).1.run calls

/-- The envelopes that some calls bring into the log of a device, in order. -/
def arrivals (s : Service) (device : String) (calls : List Call) : List Envelope :=
  (s.trace calls).filterMap (stored? device)

/-- Only an upload that succeeds brings something into a log. -/
theorem of_stored?_eq_some {device : String} {c : Call} {a : Answer} {e : Envelope}
    (h : stored? device (c, a) = some e) :
    (∃ token, c.request = .upload token e) ∧ (∃ response, a = .upload (.ok response)) ∧
      e.device = device := by
  unfold stored? at h
  split at h
  next token e' now response heq =>
    obtain ⟨rfl, rfl⟩ := Prod.mk.inj heq
    split at h
    next hdevice =>
      obtain rfl := Option.some.inj h
      exact ⟨⟨token, rfl⟩, ⟨response, rfl⟩, hdevice⟩
    next => cases h
  next => cases h

/-- What only reads or fails brings nothing. -/
theorem stored?_eq_none {device : String} {c : Call} {a : Answer}
    (h : c.request.Reads ∨ a.error?.isSome) : stored? device (c, a) = none := by
  rw [Option.eq_none_iff_forall_ne_some]
  intro e hstored
  obtain ⟨⟨token, hrequest⟩, ⟨response, rfl⟩, -⟩ := of_stored?_eq_some hstored
  rw [hrequest] at h
  exact h.elim False.elim fun herror ↦ nomatch herror

section Effect

variable {s : Service} {c : Call} {r : Service × Answer}

/-- A call changes neither what the store refuses nor what it keeps, nor how it hands it out. -/
theorem Effect.setup (h : Effect s c r) :
    r.1.backend.down = s.backend.down ∧
      r.1.backend.store.retention = s.backend.store.retention ∧ r.1.pageSize = s.pageSize := by
  cases h <;> exact ⟨rfl, rfl, rfl⟩

theorem Effect.limit (h : Effect s c r) : r.1.backend.store.limit = s.backend.store.limit := by
  cases h <;> rfl

/-- The log of a device changes only by what is stored in it. -/
theorem Effect.log (h : Effect s c r) (device : String) :
    r.1.backend.store.log device =
      (stored? device (c, r.2)).elim (s.backend.store.log device)
        ((s.backend.store.log device).push s.backend.store.retention) := by
  cases h with
  | idle books a h =>
    rw [stored?_eq_none h, Option.elim_none]
  | registers r issued books hrequest hissued =>
    obtain ⟨_, now⟩ := c
    obtain rfl := hrequest
    rfl
  | stores token e form books response hrequest hbearer hdigest hsize =>
    obtain ⟨_, now⟩ := c
    obtain rfl := hrequest
    simp only [Manifest.Store.log_append, stored?]
    split
    next hdevice => rw [hdevice, Option.elim_some]
    next => rfl
  | merges token r claims books hrequest hclaims hown =>
    obtain ⟨_, now⟩ := c
    obtain rfl := hrequest
    rfl

end Effect

/-! ## Uploads that are let in -/

/-- The envelope that a request would bring into the log of a device. -/
def Request.envelope? (device : String) : Request → Option Envelope
  | .upload _ e => if e.device = device then some e else none
  | _ => none

/-- What an upload needs to be stored. Other calls need nothing. -/
def Admits (s : Service) : Call → Prop
  | ⟨.upload token e, now⟩ =>
    s.issuer.bearer? token .access now = some e.device ∧
      (∃ form, Manifest.DigestForm.ofText e.digest = .ok form) ∧
      ∀ limit ∈ s.backend.store.limit, e.size ≤ limit
  | _ => True

section Admits

variable {s : Service} {c : Call}

/-- No call changes what uploads need. -/
theorem Admits.step (hup : s.backend.down = []) (h : s.Admits c) (d : Call) :
    (s.step d).1.Admits c := by
  unfold Admits at h ⊢
  rw [issuer_step, (effect_step s hup d).limit]
  exact h

theorem stored?_step (hup : s.backend.down = []) (h : s.Admits c) (device : String) :
    stored? device (c, (s.step c).2) = c.request.envelope? device := by
  obtain ⟨request, now⟩ := c
  cases request with
  | upload token e =>
    obtain ⟨hbearer, ⟨form, hdigest⟩, hsize⟩ := h
    rw [step_upload_eq_ok s hup hbearer hdigest hsize]
    rfl
  | authenticate | refresh | download | sync | status => rfl

end Admits

/-! ## What holds at all times -/

/-- A service as the settings want it: nothing is refused by its store, and every log holds the end
of what has arrived. -/
structure Sound (settings : Settings) (s : Service) : Prop where
  down : s.backend.down = []
  retention : s.backend.store.retention = max settings.retention 1
  pageSize : s.pageSize = max settings.pageSize 1
  log : ∀ device, ∃ es, s.backend.store.log device = .ofArrivals (max settings.retention 1) es

namespace Sound

variable {settings : Settings} {s : Service}

theorem assemble (settings : Settings) (issuer : Credential.Issuer) :
    Sound settings (assemble settings issuer (backendOf settings [])) :=
  ⟨rfl, rfl, rfl, fun _ ↦ ⟨[], (Log.ofArrivals_nil _).symm⟩⟩

theorem start {fresh : Credential.Secret} (h : start settings fresh = .ok s) :
    Sound settings s := by
  obtain ⟨issuer, -, hs⟩ := bind_eq_ok_iff.1 h
  cases hs
  exact assemble settings issuer

theorem step (h : Sound settings s) (c : Call) : Sound settings (s.step c).1 := by
  have heffect := effect_step s h.down c
  obtain ⟨hdown, hretention, hpageSize⟩ := heffect.setup
  refine ⟨hdown.trans h.down, hretention.trans h.retention, hpageSize.trans h.pageSize, ?_⟩
  intro device
  obtain ⟨es, hlog⟩ := h.log device
  rw [heffect.log device, hlog, h.retention]
  cases stored? device (c, (s.step c).2) with
  | none => exact ⟨es, rfl⟩
  | some e => exact ⟨es ++ [e], Log.push_ofArrivals ..⟩

theorem run (h : Sound settings s) (calls : List Call) : Sound settings (s.run calls) := by
  induction calls generalizing s with
  | nil => exact h
  | cons c calls ih => exact ih (h.step c)

/-- A log that is run through some calls has received what they bring. -/
theorem log_run (h : Sound settings s) {device : String} {es : List Envelope}
    (hlog : s.backend.store.log device = .ofArrivals (max settings.retention 1) es)
    (calls : List Call) :
    (s.run calls).backend.store.log device =
      .ofArrivals (max settings.retention 1) (es ++ s.arrivals device calls) := by
  induction calls generalizing s es with
  | nil => simpa [arrivals, trace, Service.run] using hlog
  | cons c calls ih =>
    have hstep := (effect_step s h.down c).log device
    rw [hlog, h.retention] at hstep
    rw [Service.run, arrivals, trace]
    cases hstored : stored? device (c, (s.step c).2) with
    | none =>
      rw [hstored] at hstep
      rw [List.filterMap_cons_none hstored]
      exact ih (h.step c) hstep
    | some e =>
      rw [hstored, Option.elim_some, Log.push_ofArrivals] at hstep
      rw [List.filterMap_cons_some hstored, List.append_cons]
      exact ih (h.step c) hstep

theorem admits_run (h : Sound settings s) {c : Call} (hc : s.Admits c) (calls : List Call) :
    (s.run calls).Admits c := by
  induction calls generalizing s with
  | nil => exact hc
  | cons d calls ih => exact ih (h.step d) (hc.step h.down d)

/-- If every upload is let in, the log of a device receives all that is uploaded for it. -/
theorem arrivals_eq_filterMap (h : Sound settings s) (device : String) {calls : List Call}
    (hcalls : ∀ c ∈ calls, s.Admits c) :
    s.arrivals device calls = calls.filterMap (·.request.envelope? device) := by
  induction calls generalizing s with
  | nil => rfl
  | cons c calls ih =>
    have hrest : (s.step c).1.arrivals device calls =
        calls.filterMap (·.request.envelope? device) :=
      ih (h.step c) fun d hmem ↦ (hcalls d (.tail _ hmem)).step h.down c
    rw [arrivals, trace, List.filterMap_cons, List.filterMap_cons,
      stored?_step h.down (hcalls c List.mem_cons_self), ← hrest]
    rfl

theorem length_log_le (h : Sound settings s) (device : String) :
    (s.backend.store.log device).entries.length ≤ max settings.retention 1 := by
  obtain ⟨es, hlog⟩ := h.log device
  rw [hlog, Log.ofArrivals, Manifest.length_rtake]
  exact Nat.min_le_right ..

end Sound

/-- A service that was just started keeps the end of all that is uploaded, if every upload is let
in. -/
theorem log_run_assemble {settings : Settings} {issuer : Credential.Issuer} {calls : List Call}
    (hcalls : ∀ c ∈ calls, (assemble settings issuer (backendOf settings [])).Admits c)
    (device : String) :
    ((assemble settings issuer (backendOf settings [])).run calls).backend.store.log device =
      .ofArrivals (max settings.retention 1) (calls.filterMap (·.request.envelope? device)) := by
  have hsound : Sound settings (assemble settings issuer (backendOf settings [])) :=
    .assemble settings issuer
  rw [← hsound.arrivals_eq_filterMap device hcalls]
  exact hsound.log_run (Log.ofArrivals_nil _).symm calls

theorem Reachable.sound {settings : Settings} {s : Service} (h : Reachable settings s) :
    Sound settings s := by
  induction h with
  | start h => exact .start h
  | step h c ih => exact ih.step c
  | rotate h secret ih => exact { ih with }

theorem Reachable.run {settings : Settings} {s : Service} (h : Reachable settings s)
    (calls : List Call) : Reachable settings (s.run calls) := by
  induction calls generalizing s with
  | nil => exact h
  | cons c calls ih => exact ih (h.step c)

theorem issuer_run (s : Service) (calls : List Call) : (s.run calls).issuer = s.issuer := by
  induction calls generalizing s with
  | nil => rfl
  | cons c calls ih => rw [run, ih, issuer_step]

/-! ## Failures and readings -/

/-- A call that fails, and one that only reads whether it fails or not, leaves everything as it was
except for the books and the error log. To the error log it adds what went wrong, for the device
whose access credential was accepted before, and nothing if none was. -/
theorem step_eq_of_idle {settings : Settings} {s : Service} (hs : Reachable settings s) (c : Call)
    (h : c.request.Reads ∨ (s.step c).2.error?.isSome) :
    (s.step c).1 =
        { s with books := (s.step c).1.books, errors := (s.step c).1.errors } ∧
      (s.step c).1.errors =
        match c.bearer? s.issuer, (s.step c).2.error? with
        | some device, some e => s.errors.record device ⟨c.time, e.code, e.message⟩
        | _, _ => s.errors := by
  have heffect := effect_step s hs.sound.down c
  generalize s.step c = r at h heffect
  cases heffect with
  | idle books a _ => exact ⟨rfl, rfl⟩
  | registers r issued books hrequest hissued =>
    rw [hrequest] at h
    exact h.elim False.elim fun h ↦ nomatch h
  | stores token e form books response hrequest hbearer hdigest hsize =>
    rw [hrequest] at h
    exact h.elim False.elim fun h ↦ nomatch h
  | merges token r claims books hrequest hclaims hown =>
    rw [hrequest] at h
    exact h.elim False.elim fun h ↦ nomatch h

/-- A device whose first envelope was stored uploads an envelope of another device. -/
theorem step_eq_of_idle_mismatch :
    let settings := Settings.standard "localhost"
    let secret : Credential.Secret := ⟨.replicate 32 0, by decide⟩
    let issuer : Credential.Issuer := .new settings.issuer (lifetimeOf settings.accessSeconds)
      (lifetimeOf settings.refreshSeconds) secret
    let token := Credential.Token.sign secret firstClaims
    let e : Envelope := ⟨"a", [1], "00", .epoch⟩
    let problem : ServiceError := .deviceMismatch "a" "b"
    let fresh := assemble settings issuer (backendOf settings [])
    let s := (fresh.step ⟨.upload token e, .epoch⟩).1
    let c : Call := ⟨.upload token ⟨"b", [2], "00", .epoch⟩, .epoch⟩
    Reachable settings s ∧ (s.backend.store.log "a").entries = [e] ∧
      c.bearer? s.issuer = some "a" ∧ (s.step c).2.error? = some problem ∧
      (c.request.Reads ∨ (s.step c).2.error?.isSome) ∧
      (s.step c).1 = { s with books := (s.step c).1.books, errors := (s.step c).1.errors } ∧
      (s.step c).1.errors = s.errors.record "a" ⟨.epoch, problem.code, problem.message⟩ := by
  intro settings secret issuer token e problem fresh s c
  have hfresh : Reachable settings fresh := @Reachable.start settings secret fresh rfl
  have hs : Reachable settings s := hfresh.step _
  have haccess : fresh.issuer.bearer? token .access .epoch = some "a" :=
    bearer?_firstClaims List.mem_cons_self rfl
  have hdigest : Manifest.DigestForm.ofText e.digest = .ok .bare := by decide
  have hadmits : fresh.Admits ⟨.upload token e, .epoch⟩ := ⟨haccess, ⟨_, hdigest⟩, by decide⟩
  have hlog : (s.backend.store.log "a").entries = [e] := by
    rw [(effect_step fresh rfl _).log "a", stored?_step rfl hadmits]
    rfl
  have hissuer : s.issuer = fresh.issuer := issuer_step fresh ⟨.upload token e, .epoch⟩
  have hbearer : s.issuer.bearer? token .access .epoch = some "a" := by
    rw [hissuer]
    exact haccess
  have herror : (s.step c).2.error? = some problem :=
    error?_step_upload_of_ne s hbearer (by decide)
  have hfails : c.request.Reads ∨ (s.step c).2.error?.isSome := .inr (by rw [herror]; rfl)
  obtain ⟨hkept, herrors⟩ := step_eq_of_idle hs c hfails
  have hcaller : c.bearer? s.issuer = some "a" :=
    (Call.bearer?_of_access? rfl s.issuer).trans hbearer
  rw [hcaller, herror] at herrors
  exact ⟨hs, hlog, hcaller, herror, hfails, hkept, herrors⟩

end DeviceSync.Service
