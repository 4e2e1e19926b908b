import DeviceSync.Net.Url
import DeviceSync.Profile.Wire

/-!
# Settings

What an operator can choose, what is chosen otherwise, and which choices the service cannot run
with.
-/

namespace DeviceSync

/-- How much is logged. -/
inductive LogLevel where
  | error
  | warn
  | info
  | debug
  | trace
deriving DecidableEq

namespace LogLevel

def name : LogLevel → String
  | error => "ERROR"
  | warn => "WARN"
  | info => "INFO"
  | debug => "DEBUG"
  | trace => "TRACE"

def all : List LogLevel := [error, warn, info, debug, trace]

def ofName? (s : String) : Option LogLevel :=
  all.find? fun l ↦ l.name = s

/-- The level with a name, whatever the case of its ASCII letters. -/
def ofText? (s : String) : Option LogLevel :=
  all.find? fun l ↦ Text.asciiLower l.name = Text.asciiLower s

def codec : Codec LogLevel := .named name ofText?

end LogLevel

structure Settings where
  host : String
  port : Nat
  logLevel : LogLevel
  /-- Where devices are told to sync. -/
  endpoint : Url
  issuer : String
  /-- Lifetimes of credentials in seconds. -/
  accessSeconds : Nat
  refreshSeconds : Nat
  /-- The signing secret in base64; without one a new secret is made at every start. -/
  secret : Option String
  /-- How many manifests the log of a device may hold. -/
  retention : Nat
  /-- How many bytes one manifest may have. -/
  limitBytes : Nat
  /-- How many manifests a page of a download has. -/
  pageSize : Nat
  profileFields : List String
  policy : Profile.Policy
  /-- How many requests a second a caller regains. -/
  refillRate : Nat
  /-- How many requests a caller may make at once. -/
  burst : Nat
  /-- How long the body of a request may be. -/
  maxBody : Nat
deriving DecidableEq

namespace Settings

def defaultEndpoint : Url :=
  ⟨"https".toList, some ⟨[], "sync.vanopticon.net".toList, none⟩, "/v1".toList, none, none⟩

def defaultProfileFields : List String :=
  ["proxy_rules", "dns_settings", "routing_rules", "split_tunnel_apps", "subscriptions",
    "server_profiles", "vpn_engine"]

/-- The settings that hold where nothing else is said, on a machine with the given name. -/
def standard (hostname : String) : Settings where
  host := hostname
  port := 8443
  logLevel := .info
  endpoint := defaultEndpoint
  issuer := "bifrost-sync"
  accessSeconds := 3600
  refreshSeconds := 24 * 3600
  secret := none
  retention := 100
  limitBytes := 10 * 1024 * 1024
  pageSize := 100
  profileFields := defaultProfileFields
  policy := .lastWriterWins
  refillRate := 10
  burst := 100
  maxBody := 1024 * 1024

/-! ## What the service can run with -/

/-- The longest lifetime of a credential: one year. -/
def maxSeconds : Nat := 365 * 24 * 3600

inductive Flaw where
  | noRetention
  | noPage
  | lifetimes
  | lifetimeTooLong
  | noFields
  | endpoint (e : UrlError)
  /-- A policy by no known name, as it was compared. -/
  | policy (other : String)
deriving DecidableEq

namespace Flaw

/-- The setting that a flaw is about. -/
def setting : Flaw → String
  | noRetention => "manifest_retention"
  | noPage => "download_page_size"
  | lifetimes => "refresh_token_ttl_secs"
  | lifetimeTooLong => "refresh_token_ttl_secs"
  | noFields => "profile_fields"
  | endpoint _ => "sync_endpoint"
  | policy _ => "conflict_policy"

def reason : Flaw → String
  | noRetention => "must be at least 1"
  | noPage => "must be at least 1"
  | lifetimes => "token lifetimes must be non-zero and refresh must outlive access"
  | lifetimeTooLong => s!"must not exceed {maxSeconds} seconds"
  | noFields => "at least one profile field is required"
  | endpoint e => e.message
  | policy other => Profile.Policy.unknownMessage other

end Flaw

/-- Settings cannot be put together from their sources, or the service cannot run with them. -/
inductive Error where
  | unreadable
  | invalid (flaw : Flaw)
deriving DecidableEq

def Error.message : Error → String
  | unreadable => "configuration error"
  | invalid flaw => s!"invalid setting {flaw.setting}: {flaw.reason}"

/-- The first flaw of the settings. -/
def flaw? (s : Settings) : Option Flaw :=
  if s.retention = 0 then some .noRetention
  else if s.pageSize = 0 then some .noPage
  else if s.accessSeconds = 0 ∨ s.refreshSeconds < s.accessSeconds then some .lifetimes
  else if maxSeconds < s.refreshSeconds then some .lifetimeTooLong
  else if s.profileFields = [] then some .noFields
  else none

def validate (s : Settings) : Except Error Unit :=
  match s.flaw? with
  | some flaw => .error (.invalid flaw)
  | none => .ok ()

/-! ## Written form -/

open Codec (text unsigned) in
/-- Every field may be left out, and is then as in the standard settings of the machine. -/
def codec (hostname : String) : Codec Settings :=
  let d := standard hostname
  .record
    (.cons (.defaulted "host" text d.host) <| .cons (.defaulted "port" (unsigned 16) d.port) <|
      .cons (.defaulted "log_level" LogLevel.codec d.logLevel) <|
      .cons (.defaulted "sync_endpoint" (.written Url.text Url.ofText?) d.endpoint) <|
      .cons (.defaulted "token_issuer" text d.issuer) <|
      .cons (.defaulted "access_token_ttl_secs" (unsigned 64) d.accessSeconds) <|
      .cons (.defaulted "refresh_token_ttl_secs" (unsigned 64) d.refreshSeconds) <|
      .cons (.defaulted "token_secret" (.optional text) d.secret) <|
      .cons (.defaulted "manifest_retention" (unsigned 64) d.retention) <|
      .cons (.defaulted "storage_limit_bytes" (unsigned 64) d.limitBytes) <|
      .cons (.defaulted "download_page_size" (unsigned 64) d.pageSize) <|
      .cons (.defaulted "profile_fields" (.list text) d.profileFields) <|
      .cons (.defaulted "conflict_policy" Profile.Policy.codec d.policy) <|
      .cons (.defaulted "rate_limit_rps" (unsigned 32) d.refillRate) <|
      .cons (.defaulted "rate_limit_burst" (unsigned 32) d.burst) <|
      .cons (.defaulted "max_body_bytes" (unsigned 64) d.maxBody) .nil)
    (fun (host, port, logLevel, endpoint, issuer, accessSeconds, refreshSeconds, secret, retention,
        limitBytes, pageSize, profileFields, policy, refillRate, burst, maxBody, ()) ↦
      ⟨host, port, logLevel, endpoint, issuer, accessSeconds, refreshSeconds, secret, retention,
        limitBytes, pageSize, profileFields, policy, refillRate, burst, maxBody⟩)
    (fun s ↦ (s.host, s.port, s.logLevel, s.endpoint, s.issuer, s.accessSeconds, s.refreshSeconds,
      s.secret, s.retention, s.limitBytes, s.pageSize, s.profileFields, s.policy, s.refillRate,
      s.burst, s.maxBody, ()))

end Settings

end DeviceSync
