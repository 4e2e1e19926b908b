import DeviceSync.Proofs.Credential.Issuer
import DeviceSync.Service.Basic

/-!
# Runs of the Service

The calls of clients as data, so that a run is a list of them. A call belongs to the device that it
names when it asks for first credentials, and else to the device of the credential that it presents,
if that is good at the time of the call.
-/

namespace DeviceSync

namespace Service

/-- What a client can ask for. -/
inductive Request where
  | authenticate (r : AuthRequest)
  | refresh (r : RefreshRequest)
  | upload (token : String) (e : Manifest.Envelope)
  | download (token : String) (q : DownloadQuery)
  | sync (token : String) (r : SyncRequest)
  | status (token : String)

/-- What a client is answered. -/
inductive Answer where
  | credentials (a : Except ServiceError AuthResponse)
  | upload (a : Except ServiceError UploadResponse)
  | download (a : Except ServiceError DownloadResponse)
  | sync (a : Except ServiceError SyncResponse)
  | status (a : Except ServiceError StatusResponse)

/-- A request, with the clock at which it is answered. -/
structure Call where
  request : Request
  time : Instant

/-- The device that a call belongs to. -/
def Call.device? (i : Credential.Issuer) (c : Call) : Option String :=
  match c.request with
  | .authenticate r => some r.device
  | .refresh r => i.bearer? r.token .refresh c.time
  | .upload token _ | .download token _ | .sync token _ | .status token =>
    i.bearer? token .access c.time

def step (s : Service) (c : Call) : Service × Answer :=
  match c.request with
  | .authenticate r => (s.authenticate r c.time).map id .credentials
  | .refresh r => (s.refresh r c.time).map id .credentials
  | .upload token e => (s.upload token e c.time).map id .upload
  | .download token q => (s.download token q c.time).map id .download
  | .sync token r => (s.sync token r c.time).map id .sync
  | .status token => (s.status token c.time).map id .status

/-- The calls of a run, each with its answer. -/
def trace (s : Service) : List Call → List (Call × Answer)
  | [] => []
  | c :: calls => (c, (s.step c).2) :: (s.step c).1.trace calls

section Issuer

variable {α : Type}

theorem withAccess_eq (s : Service) (token : String) (now : Instant)
    (call : Credential.Claims → Reply α) :
    s.withAccess token now call =
      match s.issuer.validate token .access now with
      | .ok claims => call claims
      | .error e => (s.countAuthFailure, .error (.ofCredential e)) := by
  unfold withAccess authorize
  cases s.issuer.validate token .access now <;> rfl

theorem withAccess_of_validate {s : Service} {token : String} {now : Instant}
    {claims : Credential.Claims} (hclaims : s.issuer.validate token .access now = .ok claims)
    (call : Credential.Claims → Reply α) : s.withAccess token now call = call claims := by
  rw [withAccess_eq, hclaims]

theorem issuer_withAccess {s : Service} {token : String} {now : Instant}
    {call : Credential.Claims → Reply α} (hcall : ∀ claims, (call claims).1.issuer = s.issuer) :
    (s.withAccess token now call).1.issuer = s.issuer := by
  rw [withAccess_eq]
  cases s.issuer.validate token .access now with
  | ok claims => exact hcall claims
  | error e => rfl

/-- No call of a client changes the issuer. -/
theorem issuer_step (s : Service) (c : Call) : (s.step c).1.issuer = s.issuer := by
  obtain ⟨request, now⟩ := c
  cases request with
  | authenticate r =>
    change (s.authenticate r now).1.issuer = s.issuer
    unfold authenticate
    dsimp only
    split
    · rfl
    · split <;> rfl
  | refresh r =>
    change (s.refresh r now).1.issuer = s.issuer
    unfold refresh
    split <;> rfl
  | upload token e =>
    apply issuer_withAccess
    intro claims
    dsimp only
    split
    · rfl
    · split
      · rfl
      · split <;> rfl
  | download token q =>
    apply issuer_withAccess
    intro claims
    dsimp only
    split
    · rfl
    · split <;> rfl
  | sync token r =>
    apply issuer_withAccess
    intro claims
    dsimp only
    split <;> rfl
  | status token =>
    apply issuer_withAccess
    intro claims
    dsimp only
    split <;> rfl

end Issuer

/-! ## A first credential -/

open Credential (Issuer userOf)

/-- What the first access credential of a standard issuer says. -/
def firstClaims : Credential.Claims :=
  ⟨"a", "a", userOf "a", .access, Issuer.defaultName, 0, 3600⟩

section FirstClaims

variable {i : Issuer} {secret : Credential.Secret} (hsecret : secret ∈ i.keys.secrets)
  (hname : i.name = Issuer.defaultName)

include hsecret hname

/-- A device is let in with what a standard issuer signs for it at the epoch. -/
theorem bearer?_sign_epoch (device : String) :
    i.bearer? (Credential.Token.sign secret
      ⟨device, device, userOf device, .access, Issuer.defaultName, 0, 3600⟩) .access .epoch =
        some device := by
  have hissued : -(twoTo 63 : Int) ≤ 0 ∧ (0 : Int) < twoTo 63 := by decide
  have hexpires : -(twoTo 63 : Int) ≤ 3600 ∧ (3600 : Int) < twoTo 63 := by decide
  have hpositive : (0 : Int) ≤ 3600 := by decide
  have hnow : Instant.epoch.seconds < 3600 := by decide
  exact Issuer.bearer?_of_validate (Issuer.validate_sign_of_mem hsecret ⟨hissued, hexpires⟩
    ⟨hpositive, hname.symm⟩ ⟨rfl, rfl⟩ hnow)

theorem bearer?_firstClaims :
    i.bearer? (Credential.Token.sign secret firstClaims) .access .epoch = some "a" :=
  bearer?_sign_epoch hsecret hname "a"

end FirstClaims

end Service

end DeviceSync
