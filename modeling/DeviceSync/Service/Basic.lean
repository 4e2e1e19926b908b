import DeviceSync.Credential.Issuer
import DeviceSync.Service.Books
import DeviceSync.Service.Error
import DeviceSync.Service.Message
import DeviceSync.Service.Page
import DeviceSync.Settings.Basic

/-!
# The Service

The issuer of credentials, the store of manifests and the engine of profiles behind one set of
calls. Every call is a step of the service at an instant: it yields the service as it is afterwards
and what the caller is answered.

A call that presents a credential does nothing before the credential is accepted. A failure after
that is counted and remembered for the device; it changes nothing else.
-/

namespace DeviceSync

structure Service where
  issuer : Credential.Issuer
  backend : Manifest.Backend
  engine : Profile.Engine
  health : Status.Health
  errors : Status.ErrorLog
  books : Books
  /-- Where devices are told to sync. -/
  endpoint : String
  pageSize : Nat
  limitBytes : Nat

/-- A service after a call, and the answer. -/
abbrev Reply (α : Type) := Service × Except ServiceError α

namespace Service

/-! ## Starting -/

/-- A lifetime in milliseconds. Lifetimes beyond a year are taken for a year. -/
def lifetimeOf (seconds : Nat) : Int :=
  1000 * (min seconds Settings.maxSeconds : Nat)

/-- The issuer that settings describe; without a secret in them it signs with a fresh one. -/
def issuerOf (s : Settings) (fresh : Credential.Secret) :
    Except Credential.SecretError Credential.Issuer := do
  let secret ← match s.secret with
    | some text => Credential.Secret.ofBase64 text
    | none => .ok fresh
  return .new s.issuer (lifetimeOf s.accessSeconds) (lifetimeOf s.refreshSeconds) secret

/-- The store that settings describe, behind a backend that refuses some operations. -/
def backendOf (s : Settings) (down : List Manifest.Operation) : Manifest.Backend :=
  ⟨.new s.retention (some s.limitBytes), down⟩

/-- A service around an issuer and a backend. -/
def assemble (s : Settings) (issuer : Credential.Issuer) (backend : Manifest.Backend) :
    Service where
  issuer
  backend
  engine := .new s.profileFields s.policy
  health := .good
  errors := .new Status.ErrorLog.defaultCapacity
  books := .empty
  endpoint := s.endpoint.text
  pageSize := max s.pageSize 1
  limitBytes := s.limitBytes

/-- The service that settings describe. -/
def start (s : Settings) (fresh : Credential.Secret) : Except Credential.SecretError Service := do
  return assemble s (← issuerOf s fresh) (backendOf s [])

/-! ## Credentials -/

/-- Put a new secret into use. -/
def rotate (s : Service) (secret : Credential.Secret) : Service :=
  { s with issuer := s.issuer.rotate secret }

def countAuthFailure (s : Service) : Service :=
  { s with books := { s.books with authFailures := s.books.authFailures + 1 } }

/-- Judge the access credential of a call. -/
def authorize (s : Service) (token : String) (now : Instant) : Reply Credential.Claims :=
  match s.issuer.validate token .access now with
  | .ok claims => (s, .ok claims)
  | .error e => (s.countAuthFailure, .error (.ofCredential e))

/-- Make a call under an access credential. -/
def withAccess {α : Type} (s : Service) (token : String) (now : Instant)
    (call : Credential.Claims → Reply α) : Reply α :=
  match s.authorize token now with
  | (_, .ok claims) => call claims
  | (s, .error e) => (s, .error e)

/-- Count a failure and remember it for a device. -/
def fail {α : Type} (s : Service) (device : String) (e : ServiceError) (now : Instant) : Reply α :=
  ({ s with
      books := { s.books with failures := s.books.failures + 1 }
      errors := s.errors.record device ⟨now, e.code, e.message⟩ },
    .error e)

/-- Look at the store again for the numbers that monitoring shows. What cannot be told stays as it
was. -/
def lookAgain (s : Service) : Service :=
  { s with books := { s.books with
      devices := s.backend.deviceCount.toOption.getD s.books.devices
      storedBytes := s.backend.total.toOption.getD s.books.storedBytes } }

def authResponse (s : Service) (i : Credential.Issued) : AuthResponse :=
  ⟨true, i.device, i.user, i.access, i.refresh, i.expiresIn, s.endpoint⟩

/-- Issue credentials to a device and register it. -/
def authenticate (s : Service) (r : AuthRequest) (now : Instant) : Reply AuthResponse :=
  let s := { s with books := { s.books with authRequests := s.books.authRequests + 1 } }
  match s.issuer.authenticate r.device r.publicKey now with
  | .error e => (s.countAuthFailure, .error (.ofCredential e))
  | .ok issued =>
    match s.backend.register ⟨issued.device, issued.user, r.publicKey, now, now⟩ with
    | .error e => (s, .error (.ofStore e))
    | .ok backend => ({ s with backend }.lookAgain, .ok (s.authResponse issued))

/-- Exchange a refresh credential for a new pair. -/
def refresh (s : Service) (r : RefreshRequest) (now : Instant) : Reply AuthResponse :=
  match s.issuer.refresh r.token now with
  | .error e => (s.countAuthFailure, .error (.ofCredential e))
  | .ok issued =>
    ({ s with books := { s.books with refreshes := s.books.refreshes + 1 } },
      .ok (s.authResponse issued))

/-! ## Manifests -/

/-- Fail an upload that never reached the store. -/
def rejectUpload {α : Type} (s : Service) (device : String) (e : ServiceError) (now : Instant) :
    Reply α :=
  fail { s with books := { s.books with uploadRejections := s.books.uploadRejections + 1 } }
    device e now

/-- The books after an upload of some bytes. -/
def countUpload (b : Books) (size : Nat) : Books :=
  { b with
    uploads := b.uploads + 1
    uploadedBytes := b.uploadedBytes + size
    operations := b.operations + 1 }

/-- Store an envelope for the device of the credential. The envelope has to name that device and
declare a digest of the right form. -/
def upload (s : Service) (token : String) (e : Manifest.Envelope) (now : Instant) :
    Reply UploadResponse :=
  s.withAccess token now fun claims ↦
    let device := claims.device
    if e.device ≠ device then s.rejectUpload device (.deviceMismatch device e.device) now
    else
      match Manifest.DigestForm.ofText e.digest with
      | .error flaw => s.rejectUpload device (.ofDigest flaw) now
      | .ok _ =>
        match s.backend.put device e with
        | .error problem => s.fail device (.ofStore problem) now
        | .ok backend =>
          (lookAgain { s with backend, books := countUpload s.books e.size },
            .ok ⟨true, "Manifest uploaded successfully", now, 0⟩)

/-- Where a download starts. -/
def offsetOf? : Option String → Option Nat
  | none => some 0
  | some token => Page.offset? token

/-- The books after a page was handed out. -/
def countDownload (b : Books) : Books :=
  { b with downloads := b.downloads + 1, operations := b.operations + 1 }

def downloadResponse (page : Page Manifest.Envelope) (now : Instant) : DownloadResponse :=
  ⟨true, page.items, now, page.next.isSome, page.next.map Page.token⟩

/-- Hand out one page of the manifests of the device that were created after an instant, by default
after the start of 1970. -/
def download (s : Service) (token : String) (q : DownloadQuery) (now : Instant) :
    Reply DownloadResponse :=
  s.withAccess token now fun claims ↦
    let device := claims.device
    match offsetOf? q.pageToken with
    | none => s.fail device (.badRequest "invalid page token") now
    | some offset =>
      match s.backend.manifests device (q.since.getD .epoch) with
      | .error problem => s.fail device (.ofStore problem) now
      | .ok manifests =>
        ({ s with books := countDownload s.books },
          .ok (downloadResponse (.ofList s.pageSize offset manifests) now))

/-! ## Profiles -/

/-- The first device other than the given one that a diff names. -/
def foreignDevice? (device : String) (diffs : List Profile.Diff) : Option String :=
  (diffs.find? fun d ↦ d.device ≠ "" ∧ d.device ≠ device).map (·.device)

/-- The books after a batch was merged. -/
def countSync (b : Books) (o : Profile.Outcome) : Books :=
  { b with
    profileSyncs := b.profileSyncs + 1
    operations := b.operations + 1
    applied := b.applied + o.applied.length
    conflicts := b.conflicts + o.resolved
    rejections := b.rejections + o.rejected.length }

/-- Remember the refused diffs of a batch for its device. -/
def recordRejections (l : Status.ErrorLog) (device : String) (now : Instant)
    (rejected : List Profile.Rejection) : Status.ErrorLog :=
  rejected.foldl (fun l r ↦ l.record device ⟨now, r.code, r.message⟩) l

def syncResponse (o : Profile.Outcome) : SyncResponse :=
  ⟨true, o.updates, o.conflicts, o.applied, o.rejected, o.syncPoint, o.time⟩

/-- Merge the diffs of a device into the profile of its user. What is wrong with a single diff is
part of the answer and no failure of the call. -/
def sync (s : Service) (token : String) (r : SyncRequest) (now : Instant) : Reply SyncResponse :=
  s.withAccess token now fun claims ↦
    match foreignDevice? claims.device r.diffs with
    | some other => s.fail claims.device (.deviceMismatch claims.device other) now
    | none =>
      let (engine, outcome) := s.engine.sync claims.user claims.device r.diffs now
      ({ s with
          engine
          books := countSync s.books outcome
          errors := recordRejections s.errors claims.device now outcome.rejected },
        .ok (syncResponse outcome))

/-! ## Status and monitoring -/

/-- The status of the device of the credential. -/
def status (s : Service) (token : String) (now : Instant) : Reply StatusResponse :=
  s.withAccess token now fun claims ↦
    let snapshot := Status.snapshot s.backend s.engine s.health s.errors s.limitBytes claims.user
      claims.device
    match snapshot with
    | .ok snapshot => (s, .ok ⟨true, snapshot⟩)
    | .error problem => (s, .error (.ofStore problem))

/-- The numbers of the service as a whole. -/
def stats (s : Service) : Except ServiceError Stats :=
  match s.backend.deviceCount, s.backend.total with
  | .error problem, _ => .error (.ofStore problem)
  | .ok _, .error problem => .error (.ofStore problem)
  | .ok devices, .ok storedBytes => .ok ⟨devices, s.books.operations, storedBytes⟩

def serviceName : String := "bifrost"
def serviceVersion : String := "1.0.0-alpha.1"

/-- Whether the store answers. -/
def isUp (s : Service) : Bool :=
  s.backend.ping.toOption.isSome

def healthReport (s : Service) (now : Instant) : HealthReport :=
  ⟨if s.isUp then "healthy" else "unhealthy", serviceName, serviceVersion, now⟩

end Service

end DeviceSync
