import DeviceSync.Proofs.Json.Opaque
import DeviceSync.Settings.Load

/-!
# Settings in the Environment

Every setting has a variable of its own, which is named after it. Nine of these variables are read,
and they are read last: such a variable decides its setting if it reads as a value of it, whatever
the files and all other variables hold.

The variables of the other seven settings are read by nothing. The variables of the layers have two
underscores after the lead-in, so that these are none of them either, and the settings stay what
they are without them.
-/

namespace DeviceSync

/-! ## Settings one by one -/

inductive Setting where
  | host
  | port
  | logLevel
  | endpoint
  | issuer
  | accessSeconds
  | refreshSeconds
  | secret
  | retention
  | limitBytes
  | pageSize
  | profileFields
  | policy
  | refillRate
  | burst
  | maxBody
deriving DecidableEq

namespace Setting

/-- The setting as files name it. -/
def name : Setting → String
  | host => "host"
  | port => "port"
  | logLevel => "log_level"
  | endpoint => "sync_endpoint"
  | issuer => "token_issuer"
  | accessSeconds => "access_token_ttl_secs"
  | refreshSeconds => "refresh_token_ttl_secs"
  | secret => "token_secret"
  | retention => "manifest_retention"
  | limitBytes => "storage_limit_bytes"
  | pageSize => "download_page_size"
  | profileFields => "profile_fields"
  | policy => "conflict_policy"
  | refillRate => "rate_limit_rps"
  | burst => "rate_limit_burst"
  | maxBody => "max_body_bytes"

/-- The variable of a setting: its name in capitals after the lead-in. -/
def variableName (x : Setting) : String :=
  String.ofList ("BFR_".toList ++ x.name.toList.map Char.toUpper)

/-- What a setting is chosen from. -/
def Value : Setting → Type
  | host | issuer => String
  | port | accessSeconds | refreshSeconds | retention | limitBytes | pageSize | refillRate | burst
  | maxBody => Nat
  | logLevel => LogLevel
  | endpoint => Url
  | secret => Option String
  | profileFields => List String
  | policy => Profile.Policy

def get : (x : Setting) → Settings → x.Value
  | host, s => s.host
  | port, s => s.port
  | logLevel, s => s.logLevel
  | endpoint, s => s.endpoint
  | issuer, s => s.issuer
  | accessSeconds, s => s.accessSeconds
  | refreshSeconds, s => s.refreshSeconds
  | secret, s => s.secret
  | retention, s => s.retention
  | limitBytes, s => s.limitBytes
  | pageSize, s => s.pageSize
  | profileFields, s => s.profileFields
  | policy, s => s.policy
  | refillRate, s => s.refillRate
  | burst, s => s.burst
  | maxBody, s => s.maxBody

/-- The value that a text stands for. -/
def read? : (x : Setting) → String → Option x.Value
  | host, text | issuer, text => some text
  | secret, text => some (some text)
  | port, text => Text.unsigned? (twoTo 16) text.toList
  | refillRate, text | burst, text => Text.unsigned? (twoTo 32) text.toList
  | accessSeconds, text | refreshSeconds, text | retention, text | limitBytes, text
  | pageSize, text | maxBody, text => Text.unsigned? (twoTo 64) text.toList
  | logLevel, text => LogLevel.ofText? text
  | endpoint, text => Url.ofText? text
  | profileFields, text => some (Settings.fieldNames text)
  | policy, text => (Profile.Policy.ofText text).toOption

/-- The settings whose variables are read. -/
def direct : List Setting :=
  [host, port, logLevel, endpoint, secret, profileFields, policy, refillRate, burst]

/-- The variable of a setting does not belong to the layers. -/
theorem keyOf?_variableName (x : Setting) : Settings.keyOf? x.variableName = none := by
  cases x <;> decide

theorem variableName_ne {x y : Setting} (hx : x ∉ direct) (hy : y ∈ direct) :
    y.variableName ≠ x.variableName := by
  have hall : ∀ y ∈ direct, y.variableName ≠ x.variableName := by
    cases x with
    | host | port | logLevel | endpoint | secret | profileFields | policy | refillRate | burst =>
      exact absurd (by decide) hx
    | issuer | accessSeconds | refreshSeconds | retention | limitBytes | pageSize | maxBody =>
      decide +kernel
  exact hall y hy

end Setting

namespace Settings

variable {environment : List (String × String)} {name text : String}

/-! ## Looking up -/

/-- The last variable of a name holds a text, and the text is not empty. -/
def Sets (environment : List (String × String)) (name text : String) : Prop :=
  text ≠ "" ∧ ∃ before after, environment = before ++ (name, text) :: after ∧
    name ∉ after.map Prod.fst

theorem lookUp?_of_sets (h : Sets environment name text) :
    lookUp? environment name = some text := by
  obtain ⟨htext, before, after, rfl, hafter⟩ := h
  have hnone : after.reverse.find? (fun entry ↦ entry.1 = name) = none := by
    rw [List.find?_eq_none]
    intro entry hmem hname
    obtain rfl := of_decide_eq_true hname
    exact hafter (List.mem_map_of_mem (List.mem_reverse.1 hmem))
  simp [lookUp?, hnone, htext]

/-- A variable is not in the way of those with other names. -/
theorem lookUp?_filter {other : String} (h : other ≠ name) :
    lookUp? (environment.filter fun entry ↦ entry.1 ≠ name) other = lookUp? environment other := by
  have hfind : (environment.filter fun entry ↦ entry.1 ≠ name).reverse.find?
      (fun entry ↦ entry.1 = other) = environment.reverse.find? fun entry ↦ entry.1 = other := by
    rw [← List.filter_reverse, List.find?_filter]
    congr 1
    funext entry
    by_cases hother : entry.1 = other
    · simp [hother, h]
    · simp [hother]
  rw [lookUp?, lookUp?, hfind]

theorem ofVariables_filter (h : keyOf? name = none) :
    ofVariables (environment.filter fun entry ↦ entry.1 ≠ name) = ofVariables environment := by
  induction environment with
  | nil => rfl
  | cons entry environment ih =>
    by_cases hname : entry.1 = name
    · rw [List.filter_cons_of_neg (by simpa using hname), ih]
      simp [ofVariables, hname, h]
    · rw [List.filter_cons_of_pos (by simpa using hname)]
      simp only [ofVariables, List.filterMap_cons] at ih ⊢
      rw [ih]

/-! ## Loading -/

theorem exists_withVariables_of_load {hostname : String} {files : List String} {s : Settings}
    (h : load hostname files environment = .ok s) :
    ∃ layered : Settings, layered.withVariables environment = .ok s := by
  unfold load at h
  obtain ⟨tree, -, h⟩ := bind_eq_ok_iff.1 h
  split at h
  · cases h
  next layered _ =>
    obtain ⟨s', hs', h⟩ := bind_eq_ok_iff.1 h
    obtain ⟨-, -, h⟩ := bind_eq_ok_iff.1 h
    cases h
    exact ⟨layered, hs'⟩

/-- The value of a setting with its own grammar: what the variable holds has to fit it. -/
def readOr {α ε : Type} (read : String → Except ε α) (flaw : ε → Flaw) (otherwise : α) :
    Option String → Except Error α
  | some text => (read text).mapError fun e ↦ .invalid (flaw e)
  | none => .ok otherwise

theorem eq_ok_of_toOption {ε α : Type} {x : Except ε α} {a : α} (h : x.toOption = some a) :
    x = .ok a := by
  cases x with
  | error e => cases h
  | ok b => exact congrArg Except.ok (Option.some.inj h)

theorem eq_of_readOr {α ε : Type} {read : String → Except ε α} {flaw : ε → Flaw}
    {otherwise a v : α} (h : readOr read flaw otherwise (some text) = .ok a)
    (hv : (read text).toOption = some v) : a = v := by
  have hread : readOr read flaw otherwise (some text) = .ok v :=
    congrArg (Except.mapError _) (eq_ok_of_toOption hv)
  exact Except.ok.inj (h.symm.trans hread)

/-- The settings with what variables hold in place, once the settings with a grammar of their own
are known. -/
def chosen (s : Settings) (value : String → Option String) (endpoint : Url)
    (policy : Profile.Policy) : Settings :=
  { s with
    host := (value "BFR_HOST").getD s.host
    port := (readNatural? 16 (value "BFR_PORT")).getD s.port
    logLevel := ((value "BFR_LOG_LEVEL").bind LogLevel.ofText?).getD s.logLevel
    endpoint
    secret := (value "BFR_TOKEN_SECRET").orElse fun _ ↦ s.secret
    profileFields := ((value "BFR_PROFILE_FIELDS").map fieldNames).getD s.profileFields
    policy
    refillRate := (readNatural? 32 (value "BFR_RATE_LIMIT_RPS")).getD s.refillRate
    burst := (readNatural? 32 (value "BFR_RATE_LIMIT_BURST")).getD s.burst }

theorem withVariables_eq (s : Settings) (environment : List (String × String)) :
    s.withVariables environment = do
      let value := lookUp? environment
      let endpoint ← readOr Url.ofText .endpoint s.endpoint (value "BFR_SYNC_ENDPOINT")
      let policy ← readOr Profile.Policy.ofText .policy s.policy (value "BFR_CONFLICT_POLICY")
      return s.chosen value endpoint policy := by
  unfold withVariables
  dsimp only
  -- Only the endpoint and the policy can be refused, so the two sides part nowhere else.
  cases lookUp? environment "BFR_SYNC_ENDPOINT" with
  | none =>
    cases lookUp? environment "BFR_CONFLICT_POLICY" with
    | none => rfl
    | some text =>
      dsimp only [readOr]
      cases Profile.Policy.ofText text <;> rfl
  | some text =>
    dsimp only [readOr]
    cases Url.ofText text with
    | error e => rfl
    | ok url =>
      cases lookUp? environment "BFR_CONFLICT_POLICY" with
      | none => rfl
      | some text =>
        dsimp only [readOr]
        cases Profile.Policy.ofText text <;> rfl

theorem get_of_withVariables {s s' : Settings} (h : s.withVariables environment = .ok s')
    {x : Setting} (hx : x ∈ Setting.direct)
    (htext : lookUp? environment x.variableName = some text) {v : x.Value}
    (hv : x.read? text = some v) : x.get s' = v := by
  rw [withVariables_eq] at h
  obtain ⟨endpoint, hendpoint, h⟩ := bind_eq_ok_iff.1 h
  obtain ⟨policy, hpolicy, h⟩ := bind_eq_ok_iff.1 h
  cases h
  have hget {α : Type} {o o' : Option α} {otherwise v : α} (ho : o = o') (hv : o' = some v) :
      o.getD otherwise = v := by
    rw [ho, hv, Option.getD_some]
  cases x with
  | host => exact hget htext hv
  | port => exact hget (congrArg (readNatural? 16) htext) hv
  | logLevel => exact hget (congrArg (Option.bind · LogLevel.ofText?) htext) hv
  | endpoint =>
    have hvalue : lookUp? environment "BFR_SYNC_ENDPOINT" = some text := htext
    rw [hvalue] at hendpoint
    exact eq_of_readOr hendpoint hv
  | secret =>
    have hvalue : lookUp? environment "BFR_TOKEN_SECRET" = some text := htext
    have hsecret : some text = v := Option.some.inj hv
    change (lookUp? environment "BFR_TOKEN_SECRET").orElse _ = v
    rw [hvalue, ← hsecret]
    rfl
  | profileFields => exact hget (congrArg (Option.map fieldNames) htext) hv
  | policy =>
    have hvalue : lookUp? environment "BFR_CONFLICT_POLICY" = some text := htext
    rw [hvalue] at hpolicy
    exact eq_of_readOr hpolicy hv
  | refillRate | burst => exact hget (congrArg (readNatural? 32) htext) hv
  | issuer | accessSeconds | refreshSeconds | retention | limitBytes | pageSize | maxBody =>
    exact absurd hx (by decide)

theorem withVariables_congr {environment' : List (String × String)}
    (h : ∀ x ∈ Setting.direct,
      lookUp? environment x.variableName = lookUp? environment' x.variableName) (s : Settings) :
    s.withVariables environment = s.withVariables environment' := by
  have hhost : lookUp? environment "BFR_HOST" = _ := h .host (by decide)
  have hport : lookUp? environment "BFR_PORT" = _ := h .port (by decide)
  have hlogLevel : lookUp? environment "BFR_LOG_LEVEL" = _ := h .logLevel (by decide)
  have hendpoint : lookUp? environment "BFR_SYNC_ENDPOINT" = _ := h .endpoint (by decide)
  have hsecret : lookUp? environment "BFR_TOKEN_SECRET" = _ := h .secret (by decide)
  have hprofileFields : lookUp? environment "BFR_PROFILE_FIELDS" = _ :=
    h .profileFields (by decide)
  have hpolicy : lookUp? environment "BFR_CONFLICT_POLICY" = _ := h .policy (by decide)
  have hrefillRate : lookUp? environment "BFR_RATE_LIMIT_RPS" = _ := h .refillRate (by decide)
  have hburst : lookUp? environment "BFR_RATE_LIMIT_BURST" = _ := h .burst (by decide)
  rw [withVariables_eq, withVariables_eq]
  dsimp only
  rw [hendpoint, hpolicy]
  simp only [chosen]
  rw [hhost, hport, hlogLevel, hsecret, hprofileFields, hrefillRate, hburst]
  rfl

theorem load_filter {x : Setting} (hx : x ∉ Setting.direct) (hostname : String)
    (files : List String) (environment : List (String × String)) :
    load hostname files (environment.filter fun entry ↦ entry.1 ≠ x.variableName) =
      load hostname files environment := by
  have hdirect (s : Settings) :
      s.withVariables (environment.filter fun entry ↦ entry.1 ≠ x.variableName) =
        s.withVariables environment :=
    withVariables_congr (fun y hy ↦ lookUp?_filter (Setting.variableName_ne hx hy)) s
  unfold load
  simp only [ofVariables_filter x.keyOf?_variableName, hdirect]

/-- Where settings can be loaded, a variable that is read and fits decides its setting, and the
settings are the same without a variable that is not read. -/
theorem load_variable {hostname : String} {files : List String}
    {environment : List (String × String)} {s : Settings}
    (h : load hostname files environment = .ok s) (x : Setting) :
    (x ∈ Setting.direct → ∀ text v, Sets environment x.variableName text →
      x.read? text = some v → x.get s = v) ∧
    (x ∉ Setting.direct →
      load hostname files (environment.filter fun entry ↦ entry.1 ≠ x.variableName) = .ok s) := by
  refine ⟨fun hx text v htext hv ↦ ?_, fun hx ↦ ?_⟩
  · obtain ⟨layered, hlayered⟩ := exists_withVariables_of_load h
    exact get_of_withVariables hlayered hx (lookUp?_of_sets htext) hv
  · rw [load_filter hx, h]

/-- A port from a file, from a variable of the layers and from its own variable. -/
theorem load_variable_port :
    let files := ["\x7b\"host\":\"f\",\"port\":1\x7d"]
    let environment := [("BFR__PORT", "2"), ("BFR_PORT", "9090"), ("BFR_TOKEN_ISSUER", "x")]
    ∃ s, load "h" files environment = .ok s ∧ s.port = 9090 ∧
      load "h" files [("BFR__PORT", "2"), ("BFR_PORT", "9090")] = .ok s := by
  intro files environment
  have hload : load "h" files environment =
      .ok { Settings.standard "h" with host := "f", port := 9090 } :=
    eq_ok_of_toOption (by decide +kernel)
  have hport : Sets environment Setting.port.variableName "9090" :=
    ⟨by decide, [("BFR__PORT", "2")], [("BFR_TOKEN_ISSUER", "x")], rfl, by decide⟩
  have hissuer := (load_variable hload .issuer).2 (by decide)
  exact ⟨_, hload, (load_variable hload .port).1 (by decide) "9090" (9090 : Nat) hport rfl, hissuer⟩

/-- The retention has a variable that fits and is not read. -/
theorem load_retention_unread :
    let environment := [("BFR_MANIFEST_RETENTION", "5")]
    Sets environment Setting.retention.variableName "5" ∧
      Setting.retention.read? "5" = some (5 : Nat) ∧
      load "h" [] environment = .ok (standard "h") ∧ (standard "h").retention = 100 := by
  intro environment
  have hsets : Sets environment Setting.retention.variableName "5" :=
    ⟨by decide, [], [], rfl, by decide⟩
  exact ⟨hsets, rfl, rfl, rfl⟩

end Settings

end DeviceSync
