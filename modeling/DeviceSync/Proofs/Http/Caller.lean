import DeviceSync.Http.Api
import DeviceSync.Proofs.Credential.Issuer

/-!
# The Caller behind a Request

Two readers look for the credential of a request: the limit, to find out whom to charge, and the
call itself, to find out for whom it is made. Both take the same blanks off and judge the rest in
the same way, but the call takes one more lead-in than the limit does. A device that writes its
lead-in in small letters is let in as itself and charged to its address.
-/

namespace DeviceSync

namespace Http

namespace Request

/-- The device that a request is made for: the one whose good access credential it presents. -/
def caller? (r : Request) (issuer : Credential.Issuer) (now : Instant) : Option String :=
  match r.bearer with
  | .ok token => issuer.bearer? token .access now
  | .error _ => none

/-- Whether the credential of a request has a certain lead-in. -/
def HasLead (r : Request) (lead : String) : Prop :=
  ∃ value, r.header? "authorization" = some value ∧ lead.toList <+: value.toList

/-- Who is charged for a request that shows no device. -/
def addressKey (r : Request) : RateKey :=
  match r.peer with
  | some a => .peer a
  | none => .anonymous

end Request

variable {r : Request} {issuer : Credential.Issuer} {now : Instant} {value : String}
  {rest : List Char}

theorem Request.hasLead_iff {lead : String} : r.HasLead lead ↔ ∃ value rest,
    r.header? "authorization" = some value ∧
      Text.afterLead lead.toList value.toList = some rest := by
  simp only [HasLead, Text.afterLead_eq_some_iff, exists_and_left]
  constructor
  · rintro ⟨value, hheader, rest, hvalue⟩
    exact ⟨value, hheader, rest, hvalue.symm⟩
  · rintro ⟨value, hheader, rest, hvalue⟩
    exact ⟨value, hheader, rest, hvalue.symm⟩

/-! ## Both readers -/

/-- With the lead-in of the limit both readers judge the same text. -/
theorem caller?_of_afterLead (hheader : r.header? "authorization" = some value)
    (hlead : Text.afterLead "Bearer ".toList value.toList = some rest) :
    r.caller? issuer now = issuer.bearer? (String.ofList (Text.trim rest)) .access now := by
  have hfirst : Request.bearerLeads.findSome? (fun lead ↦ Text.afterLead lead value.toList) =
      some rest := by
    rw [Request.bearerLeads, List.findSome?_cons, hlead]
  unfold Request.caller? Request.bearer
  rw [hheader]
  dsimp only
  rw [hfirst]
  dsimp only
  by_cases hempty : String.ofList (Text.trim rest) = ""
  · rw [if_pos hempty, hempty, Credential.Issuer.bearer?_empty]
  · rw [if_neg hempty]

theorem rateKey_of_afterLead (hheader : r.header? "authorization" = some value)
    (hlead : Text.afterLead "Bearer ".toList value.toList = some rest) :
    rateKey issuer r now =
      match issuer.bearer? (String.ofList (Text.trim rest)) .access now with
      | some device => .device device
      | none => r.addressKey := by
  unfold rateKey Request.addressKey Credential.Issuer.bearer?
  rw [hheader]
  dsimp only [bind, Option.bind]
  rw [hlead]
  dsimp only [Text.trimmed]
  rw [String.toList_ofList]
  cases issuer.validate (String.ofList (Text.trim rest)) .access now with
  | ok c => rfl
  | error e => cases r.peer <;> rfl

theorem rateKey_of_not_hasLead (hlead : ¬r.HasLead "Bearer ") :
    rateKey issuer r now = r.addressKey := by
  unfold rateKey Request.addressKey
  cases hheader : r.header? "authorization" with
  | none => cases r.peer <;> rfl
  | some value =>
    cases hafter : Text.afterLead "Bearer ".toList value.toList with
    | none =>
      dsimp only [bind, Option.bind]
      rw [hafter]
      cases r.peer <;> rfl
    | some rest => exact absurd (Request.hasLead_iff.2 ⟨value, rest, hheader, hafter⟩) hlead

/-- Only a device that the call would be made for is charged, and only behind one lead-in. -/
theorem rateKey_eq_device_iff {device : String} :
    rateKey issuer r now = .device device ↔
      r.caller? issuer now = some device ∧ r.HasLead "Bearer " := by
  by_cases hlead : r.HasLead "Bearer "
  · obtain ⟨value, rest, hheader, hafter⟩ := Request.hasLead_iff.1 hlead
    rw [rateKey_of_afterLead hheader hafter, caller?_of_afterLead hheader hafter]
    cases issuer.bearer? (String.ofList (Text.trim rest)) .access now with
    | some device' => simp [hlead]
    | none => unfold Request.addressKey; cases r.peer <;> simp
  · rw [rateKey_of_not_hasLead hlead]
    unfold Request.addressKey
    cases r.peer <;> simp [hlead]

theorem rateKey_eq_addressKey (hdevice : ∀ device, rateKey issuer r now ≠ .device device) :
    rateKey issuer r now = r.addressKey := by
  by_cases hlead : r.HasLead "Bearer "
  · obtain ⟨value, rest, hheader, hafter⟩ := Request.hasLead_iff.1 hlead
    rw [rateKey_of_afterLead hheader hafter] at hdevice ⊢
    cases hbearer : issuer.bearer? (String.ofList (Text.trim rest)) .access now with
    | some device => exact absurd (by rw [hbearer]) (hdevice device)
    | none => rfl
  · exact rateKey_of_not_hasLead hlead

/-! ## Charging -/

theorem limiter_dispatch (a : Api) (route : Route) :
    (a.dispatch route r now).1.limiter = a.limiter := by
  unfold Api.dispatch
  dsimp only
  cases Api.answer? a.service a.maxBody route (if r.method = "HEAD" then "GET" else r.method) r now
    <;> rfl

/-- A request to a limited route takes a token from the bucket of the device it is made for, as long
as its lead-in has a capital letter, and otherwise from that of its address. -/
theorem limiter_serve (a : Api) {route : Route} (hroute : Route.ofPath? r.path = some route)
    (hlimited : route.isLimited = true) :
    let key := rateKey a.service.issuer r now
    (a.serve r now).1.limiter = (a.limiter.acquire key now).1 ∧
      (∀ device, key = .device device ↔
        r.caller? a.service.issuer now = some device ∧ r.HasLead "Bearer ") ∧
      ((∀ device, key ≠ .device device) → key = r.addressKey) := by
  refine ⟨?_, fun device ↦ rateKey_eq_device_iff, rateKey_eq_addressKey⟩
  unfold Api.serve
  rw [hroute]
  dsimp only
  rw [if_pos hlimited]
  split
  · exact limiter_dispatch _ _
  · rfl

/-! ## One credential behind two lead-ins -/

section Leads

open Credential (Claims Issuer Secret Token.sign Token.forall_mem_sign Token.parts?_sign)

variable {secret : Secret} {c : Claims} {lead device : String} {others : List (String × String)}

theorem header?_of_sign (hlead : lead = "Bearer " ∨ lead = "bearer ")
    (hheaders : r.headers = ("Authorization", lead ++ Token.sign secret c) :: others) :
    r.header? "authorization" = some (lead ++ Token.sign secret c) := by
  have hname : Text.asciiLower "Authorization" = "authorization" := by decide
  have hlead' : lead.toList.all Request.isReadable = true := by
    rcases hlead with rfl | rfl <;> decide
  have htoken : ∀ d ∈ (Token.sign secret c).toList, Request.isReadable d = true :=
    Token.forall_mem_sign (by decide) (by decide) (by decide) _ _
  have hreadable : (lead ++ Token.sign secret c).toList.all Request.isReadable = true := by
    rw [String.toList_append, List.all_append, hlead', List.all_eq_true.2 htoken, Bool.and_self]
  simp only [Request.header?, hheaders, List.find?_cons, hname, decide_true, Option.bind_some,
    if_pos hreadable]

/-- A credential that was given out is found behind both lead-ins. -/
theorem bearer_of_sign (hlead : lead = "Bearer " ∨ lead = "bearer ")
    (hheaders : r.headers = ("Authorization", lead ++ Token.sign secret c) :: others) :
    r.bearer = .ok (Token.sign secret c) := by
  have htrim : Text.trim (Token.sign secret c).toList = (Token.sign secret c).toList :=
    Text.trim_of_forall_not_blank (Token.forall_mem_sign (by decide) (by decide) (by decide) _ _)
  have hfirst : Request.bearerLeads.findSome? (fun l ↦
      Text.afterLead l (lead ++ Token.sign secret c).toList) =
        some (Token.sign secret c).toList := by
    rcases hlead with rfl | rfl <;> rw [String.toList_append] <;> rfl
  have hne : Token.sign secret c ≠ "" := by
    intro hempty
    have hparts := Token.parts?_sign secret c
    rw [hempty] at hparts
    cases hparts
  rw [Request.bearer, header?_of_sign hlead hheaders]
  dsimp only
  rw [hfirst]
  dsimp only
  rw [htrim, String.ofList_toList, if_neg hne]

/-- The device is let in as itself whichever lead-in it writes, and charged itself for one only. -/
theorem rateKey_of_sign (hlead : lead = "Bearer " ∨ lead = "bearer ")
    (hheaders : r.headers = ("Authorization", lead ++ Token.sign secret c) :: others)
    (hbearer : issuer.bearer? (Token.sign secret c) .access now = some device) :
    r.caller? issuer now = some device ∧
      rateKey issuer r now = if lead = "Bearer " then .device device else r.addressKey := by
  have hcaller : r.caller? issuer now = some device := by
    rw [Request.caller?, bearer_of_sign hlead hheaders]
    exact hbearer
  have hheader := header?_of_sign hlead hheaders
  refine ⟨hcaller, ?_⟩
  rcases hlead with rfl | rfl
  · rw [if_pos rfl, rateKey_eq_device_iff]
    refine ⟨hcaller, _, hheader, ?_⟩
    rw [String.toList_append]
    exact List.prefix_append _ _
  · rw [if_neg (by decide)]
    apply rateKey_of_not_hasLead
    rintro ⟨value, hheader', rest, hvalue⟩
    obtain rfl := Option.some.inj (hheader.symm.trans hheader')
    rw [String.toList_append] at hvalue
    exact absurd (List.cons.inj hvalue).1 (by decide)

/-- A device whose credential has the lead-in that the limit knows. -/
theorem limiter_serve_capital :
    let settings := Settings.standard "localhost"
    let secret : Secret := ⟨.replicate 32 0, by decide⟩
    let issuer : Issuer := .new settings.issuer (Service.lifetimeOf settings.accessSeconds)
      (Service.lifetimeOf settings.refreshSeconds) secret
    let c : Claims := ⟨"a", "a", Credential.userOf "a", .access, settings.issuer, 0, 3600⟩
    let a : Api := .new settings (Service.assemble settings issuer (Service.backendOf settings []))
    let r : Request :=
      ⟨"GET", "/v1/status", [("Authorization", "Bearer " ++ Token.sign secret c)], "", none⟩
    (a.serve r .epoch).1.limiter = (a.limiter.acquire (.device "a") .epoch).1 := by
  intro settings secret issuer c a r
  have hvalidate : issuer.validate (Token.sign secret c) .access .epoch = .ok c :=
    Issuer.validate_sign_of_mem (c := c) List.mem_cons_self ⟨by decide, by decide⟩
      ⟨by decide, rfl⟩ ⟨rfl, rfl⟩ (by decide)
  have hkey : rateKey issuer r .epoch = .device "a" :=
    (rateKey_of_sign (.inl rfl) (r := r) rfl (Issuer.bearer?_of_validate hvalidate)).2
  have hserve : Route.ofPath? r.path = some .status ∧ Route.status.isLimited = true := by decide
  have hlimiter : (a.serve r .epoch).1.limiter =
      (a.limiter.acquire (rateKey issuer r .epoch) .epoch).1 :=
    (limiter_serve a hserve.1 hserve.2).1
  exact hlimiter.trans (congrArg (fun key ↦ (a.limiter.acquire key .epoch).1) hkey)

/-- A device whose credential has the other lead-in is let in as itself, and charged to an address
that is not known. -/
theorem rateKey_small :
    let secret : Secret := ⟨.replicate 32 0, by decide⟩
    let issuer : Issuer :=
      .new Issuer.defaultName Issuer.defaultAccessLifetime Issuer.defaultRefreshLifetime secret
    let c : Claims := ⟨"a", "a", Credential.userOf "a", .access, Issuer.defaultName, 0, 3600⟩
    let r : Request :=
      ⟨"GET", "/v1/status", [("Authorization", "bearer " ++ Token.sign secret c)], "", none⟩
    Route.ofPath? r.path = some .status ∧ r.caller? issuer .epoch = some "a" ∧
      rateKey issuer r .epoch = .anonymous := by
  intro secret issuer c r
  have hvalidate : issuer.validate (Token.sign secret c) .access .epoch = .ok c :=
    Issuer.validate_sign_of_mem (c := c) List.mem_cons_self ⟨by decide, by decide⟩
      ⟨by decide, rfl⟩ ⟨rfl, rfl⟩ (by decide)
  have hkey := rateKey_of_sign (.inr rfl) (r := r) rfl (Issuer.bearer?_of_validate hvalidate)
  exact ⟨by decide, hkey.1, hkey.2⟩

end Leads

end Http

end DeviceSync
