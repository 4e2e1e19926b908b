import DeviceSync.Http.MediaType
import DeviceSync.Http.Query
import DeviceSync.Http.RateLimit
import DeviceSync.Number.Power

/-!
# The API

The calls of the service as routes. A request passes the limit on its length, then the rate limit
if its route has one, then the choice of a method. A route that needs a credential looks for it
first, then at the body or the query, and only then is the credential itself judged.
-/

namespace DeviceSync.Http

/-- The status code of an error. -/
def statusOf : ServiceError → Nat
  | .invalidCredentials _ => 401
  | .expired => 401
  | .invalidSignature => 401
  | .signing _ => 500
  | .deviceMismatch _ _ => 403
  | .missingDigest => 422
  | .malformedDigest _ => 422
  | .capacityExceeded _ _ _ => 507
  | .backend _ => 500
  | .badRequest _ => 400

namespace Response

/-- A response without content. -/
def bare (status : Nat) : Response :=
  ⟨status, none, ""⟩

def json {α : Type} (status : Nat) (c : Codec α) (x : α) : Response :=
  ⟨status, some "application/json", c.toText x⟩

def text (status : Nat) (s : String) : Response :=
  ⟨status, some "text/plain; charset=utf-8", s⟩

def ofError (e : ServiceError) : Response :=
  json (statusOf e) ErrorBody.codec ⟨false, e.code, e.message⟩

/-- The response to a call. -/
def ofResult {α : Type} (c : Codec α) : Except ServiceError α → Response
  | .ok x => json 200 c x
  | .error e => ofError e

def tooLarge : Response := text 413 "length limit exceeded"

def rateLimited : Response :=
  json 429 ErrorBody.codec ⟨false, "rate_limited", "rate limit exceeded"⟩

end Response

/-! ## Bodies -/

/-- The longest body that is read, whatever the settings say. -/
def maxReadable : Nat := 2 * 1024 * 1024

/-- The length that a request declares, if it declares one. -/
def declaredLength? (r : Request) : Option Nat :=
  (r.header? "content-length").bind fun s ↦ Text.unsigned? (twoTo 64) s.toList

/-- How long the body of a request may be: not longer than it declares either. -/
def readableLength (maxBody : Nat) (r : Request) : Nat :=
  min maxReadable (min maxBody ((declaredLength? r).getD maxBody))

/-- What a request is refused with when its body does not read as what the route wants. -/
def bodyFault : Json.Fault → String
  | .malformed => "Failed to parse the request body as JSON"
  | .unexpected => "Failed to deserialize the JSON body into the target type"

/-- Read the body of a request. -/
def readBody {α : Type} (c : Codec α) (maxBody : Nat) (r : Request) : Except ServiceError α :=
  if ¬((r.header? "content-type").any MediaType.isJson) then
    .error (.badRequest "Expected request with `Content-Type: application/json`")
  else if readableLength maxBody r < r.body.utf8ByteSize then
    .error (.badRequest "Failed to buffer the request body")
  else
    match c.ofText r.body with
    | .ok x => .ok x
    | .error fault => .error (.badRequest (bodyFault fault))

def readQuery (r : Request) : Except ServiceError DownloadQuery :=
  match Query.download? r.query with
  | some q => .ok q
  | none => .error (.badRequest "Failed to deserialize query string")

/-! ## Routes -/

inductive Route where
  | auth
  | refresh
  | manifests
  | sync
  | status
  | health
  | metrics
  | stats
deriving DecidableEq

namespace Route

def path : Route → String
  | auth => "/v1/auth"
  | refresh => "/v1/auth/refresh"
  | manifests => "/v1/manifests"
  | sync => "/v1/profiles/sync"
  | status => "/v1/status"
  | health => "/health"
  | metrics => "/metrics"
  | stats => "/stats"

def all : List Route := [auth, refresh, manifests, sync, status, health, metrics, stats]

/-- The route with exactly this path. -/
def ofPath? (s : String) : Option Route :=
  all.find? fun route ↦ route.path = s

/-- Monitoring is not limited. -/
def isLimited : Route → Bool
  | health => false
  | metrics => false
  | stats => false
  | _ => true

end Route

/-- The API around a service. -/
structure Api where
  service : Service
  limiter : RateLimiter
  maxBody : Nat

namespace Api

def new (settings : Settings) (service : Service) : Api :=
  ⟨service, .new settings.burst settings.refillRate, settings.maxBody⟩

/-- The API of the service that settings describe. -/
def start (settings : Settings) (fresh : Credential.Secret) :
    Except Credential.SecretError Api := do
  return .new settings (← Service.start settings fresh)

/-- Make a call whose arguments may not be there. -/
def call {α β : Type} (s : Service) (c : Codec β) (arguments : Except ServiceError α)
    (run : α → Reply β) : Service × Response :=
  match arguments with
  | .error e => (s, .ofError e)
  | .ok x =>
    let (s, result) := run x
    (s, .ofResult c result)

/-- The credential of a request and what else is read from it, in this order. -/
def withBearer {α : Type} (r : Request) (read : Except ServiceError α) :
    Except ServiceError (String × α) := do
  let token ← r.bearer
  return (token, ← read)

/-- The answer of a route to a method, if the route has it. -/
def answer? (s : Service) (maxBody : Nat) (route : Route) (method : String) (r : Request)
    (now : Instant) : Option (Service × Response) :=
  match route, method with
  | .auth, "POST" =>
    some (call s AuthResponse.codec (readBody AuthRequest.codec maxBody r)
      fun request ↦ s.authenticate request now)
  | .refresh, "POST" =>
    some (call s AuthResponse.codec (readBody RefreshRequest.codec maxBody r)
      fun request ↦ s.refresh request now)
  | .manifests, "POST" =>
    some (call s UploadResponse.codec
      (withBearer r (readBody Manifest.Envelope.codec maxBody r))
      fun (token, envelope) ↦ s.upload token envelope now)
  | .manifests, "GET" =>
    some (call s DownloadResponse.codec (withBearer r (readQuery r))
      fun (token, query) ↦ s.download token query now)
  | .sync, "POST" =>
    some (call s SyncResponse.codec (withBearer r (readBody SyncRequest.codec maxBody r))
      fun (token, request) ↦ s.sync token request now)
  | .status, "GET" =>
    some (call s StatusResponse.codec r.bearer fun token ↦ s.status token now)
  | .health, "GET" =>
    some (s, .json (if s.isUp then 200 else 503) HealthReport.codec (s.healthReport now))
  | .metrics, "GET" => some (s, .text 200 s.books.exposition)
  | .stats, "GET" => some (s, .ofResult Stats.codec s.stats)
  | _, _ => none

/-- Answer a request to a route. A request for the head of a response is treated like one for the
whole. -/
def dispatch (a : Api) (route : Route) (r : Request) (now : Instant) : Api × Response :=
  let method := if r.method = "HEAD" then "GET" else r.method
  match answer? a.service a.maxBody route method r now with
  | some (service, response) => ({ a with service }, response)
  | none => (a, .bare 405)

/-- Answer a request whose length is not objected to. -/
def serve (a : Api) (r : Request) (now : Instant) : Api × Response :=
  match Route.ofPath? r.path with
  | none => (a, .bare 404)
  | some route =>
    if route.isLimited then
      let (limiter, admitted) := a.limiter.acquire (rateKey a.service.issuer r now) now
      let a := { a with limiter }
      if admitted then a.dispatch route r now else (a, .rateLimited)
    else a.dispatch route r now

/-- Whether a request declares more than may be sent. -/
def isTooLarge (a : Api) (r : Request) : Bool :=
  (declaredLength? r).any (a.maxBody < ·)

/-- Whether a request asks for the head of a response only. A path below the root that belongs to
no route makes no difference between methods. -/
def wantsHead (r : Request) : Bool :=
  r.method = "HEAD" && ((Route.ofPath? r.path).isSome || r.path.front? ≠ some '/')

/-- Answer a request. -/
def handle (a : Api) (r : Request) (now : Instant) : Api × Response :=
  let (a, response) := if a.isTooLarge r then (a, .tooLarge) else a.serve r now
  (a, if wantsHead r then { response with body := "" } else response)

end Api

end DeviceSync.Http
