import DeviceSync.Number.Power
import DeviceSync.Number.Shortest
import DeviceSync.Settings.Basic
import DeviceSync.Settings.Layer

/-!
# Loading Settings

Settings are put together from the standard ones, the files, the layered variables and, last of
all, one direct variable for each of some settings. Layered values are coerced to the type of their
setting; direct variables are read as text. What comes out must pass validation.
-/

namespace DeviceSync.Settings

open Text

/-! ## Coercion -/

def numberText : Number → List Char
  | .integer i => integerDigits i
  | .real x => x.plain

/-- Truth values and numbers count as text. -/
def coerceText? : Json → Option String
  | .text s => some s
  | .bool true => some "true"
  | .bool false => some "false"
  | .number n => some (String.ofList (numberText n))
  | _ => none

/-- The natural number of a floating point number: rounded, a half away from zero, and kept within
64 bits. -/
def naturalOf : Binary64 → Nat
  | .finite false m e => min (Binary64.Magnitude.rounded ⟨m, e⟩) (twoTo 64 - 1)
  | .infinite false => twoTo 64 - 1
  | _ => 0

/-- The natural number of a text, which may also be a word of agreement or refusal. -/
def wordNatural? (s : String) : Option Nat :=
  if asciiLower s ∈ ["true", "on", "yes"] then some 1
  else if asciiLower s ∈ ["false", "off", "no"] then some 0
  else unsigned? (twoTo 64) s.toList

/-- A natural number of the given number of bits. -/
def coerceNatural? (bits : Nat) (v : Json) : Option Nat :=
  let n := match v with
    | .bool b => some b.toNat
    | .number (.integer i) => if 0 ≤ i then some i.toNat else none
    | .number (.real x) => some (naturalOf x)
    | .text s => wordNatural? s
    | _ => none
  n.filter (· < twoTo bits)

/-- One of several named values; a table of one member stands for the name of the member. -/
def coerceName? {α : Type} (ofName? : String → Option α) : Json → Option α
  | .text s => ofName? s
  | .object [(key, _)] => ofName? key
  | _ => none

def coerceTexts? : Json → Option (List String)
  | .array items => items.mapM coerceText?
  | _ => none

def coerceOptional? {α : Type} (coerce? : Json → Option α) : Json → Option (Option α)
  | .null => some none
  | v => (coerce? v).map some

/-- The settings of a tree; a setting that it leaves out is as in `base`. -/
def ofTree? (base : Settings) (tree : Json) : Option Settings := do
  let pick {α : Type} (key : String) (coerce? : Json → Option α) (otherwise : α) : Option α :=
    match Entries.find? key (members tree) with
    | some v => coerce? v
    | none => some otherwise
  let host ← pick "host" coerceText? base.host
  let port ← pick "port" (coerceNatural? 16) base.port
  let logLevel ← pick "log_level" (coerceName? LogLevel.ofName?) base.logLevel
  let endpoint ← pick "sync_endpoint" (fun v ↦ (coerceText? v).bind Url.ofText?) base.endpoint
  let issuer ← pick "token_issuer" coerceText? base.issuer
  let accessSeconds ← pick "access_token_ttl_secs" (coerceNatural? 64) base.accessSeconds
  let refreshSeconds ← pick "refresh_token_ttl_secs" (coerceNatural? 64) base.refreshSeconds
  let secret ← pick "token_secret" (coerceOptional? coerceText?) base.secret
  let retention ← pick "manifest_retention" (coerceNatural? 64) base.retention
  let limitBytes ← pick "storage_limit_bytes" (coerceNatural? 64) base.limitBytes
  let pageSize ← pick "download_page_size" (coerceNatural? 64) base.pageSize
  let profileFields ← pick "profile_fields" coerceTexts? base.profileFields
  let policy ← pick "conflict_policy" (coerceName? Profile.Policy.ofName?) base.policy
  let refillRate ← pick "rate_limit_rps" (coerceNatural? 32) base.refillRate
  let burst ← pick "rate_limit_burst" (coerceNatural? 32) base.burst
  let maxBody ← pick "max_body_bytes" (coerceNatural? 64) base.maxBody
  return { host, port, logLevel, endpoint, issuer, accessSeconds, refreshSeconds, secret, retention,
           limitBytes, pageSize, profileFields, policy, refillRate, burst, maxBody }

/-! ## Direct variables -/

/-- The value of the last variable with a name, unless it is empty. -/
def lookUp? (environment : List (String × String)) (name : String) : Option String :=
  (environment.reverse.find? fun entry ↦ entry.1 = name).map (·.2) |>.filter (· ≠ "")

/-- The names between commas, without the blanks around them and without empty ones. -/
def fieldNames (s : String) : List String :=
  ((splitAll ',' s.toList).map fun part ↦ String.ofList (trim part)).filter (· ≠ "")

/-- What a variable holds, if it reads as a natural number of the given number of bits. -/
def readNatural? (bits : Nat) (value : Option String) : Option Nat :=
  value.bind fun s ↦ unsigned? (twoTo bits) s.toList

/-- Settings with the direct variables in place. A variable that is empty counts as not set; one
that does not read as its setting is passed over, or an error where the setting has its own
grammar. -/
def withVariables (s : Settings) (environment : List (String × String)) : Except Error Settings := do
  let value := lookUp? environment
  let endpoint ← match value "BFR_SYNC_ENDPOINT" with
    | some text =>
      match Url.ofText text with
      | .ok url => .ok url
      | .error e => .error (.invalid (.endpoint e))
    | none => .ok s.endpoint
  let policy ← match value "BFR_CONFLICT_POLICY" with
    | some text =>
      match Profile.Policy.ofText text with
      | .ok policy => .ok policy
      | .error other => .error (.invalid (.policy other))
    | none => .ok s.policy
  return { s with
    host := (value "BFR_HOST").getD s.host
    port := (readNatural? 16 (value "BFR_PORT")).getD s.port
    logLevel := ((value "BFR_LOG_LEVEL").bind LogLevel.ofText?).getD s.logLevel
    endpoint
    secret := (value "BFR_TOKEN_SECRET").orElse fun _ ↦ s.secret
    profileFields := ((value "BFR_PROFILE_FIELDS").map fieldNames).getD s.profileFields
    policy
    refillRate := (readNatural? 32 (value "BFR_RATE_LIMIT_RPS")).getD s.refillRate
    burst := (readNatural? 32 (value "BFR_RATE_LIMIT_BURST")).getD s.burst }

/-- Put the settings of a machine together from the texts of its files and its variables. -/
def load (hostname : String) (files : List String) (environment : List (String × String)) :
    Except Error Settings := do
  let tree ← files.foldlM (fun tree text ↦
    match ofFile? text with
    | some source => .ok (layAll tree source)
    | none => .error .unreadable) (.object [])
  match ofTree? (standard hostname) (layAll tree (ofVariables environment)) with
  | none => throw .unreadable
  | some s => do
    let s ← s.withVariables environment
    s.validate
    return s

end DeviceSync.Settings
