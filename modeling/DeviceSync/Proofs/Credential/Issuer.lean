import DeviceSync.Credential.Issuer
import DeviceSync.Proofs.Credential.Token
import DeviceSync.Proofs.Time.Instant

/-!
# Issuing and Judging

What an issuer gives out and what it accepts, said without the order in which it looks at things. A
credential is accepted if one of the secrets of the ring accepts its text, and it is not too late,
of the right kind and for the right user.
-/

namespace DeviceSync.Credential

/-- The text of one of the two credentials of a pair. -/
def Issued.token (issued : Issued) : Kind → String
  | .access => issued.access
  | .refresh => issued.refresh

/-- The secrets under which credentials are accepted. -/
def KeyRing.secrets (keys : KeyRing) : List Secret :=
  keys.current :: keys.previous.toList

namespace Issuer

variable {i : Issuer} {device user publicKey token : String} {kind : Kind} {now : Instant}

/-- The device whose good credential of a kind a token is. -/
def bearer? (i : Issuer) (token : String) (kind : Kind) (now : Instant) : Option String :=
  (i.validate token kind now).toOption.map (·.device)

theorem validate_eq_ok_iff {c : Claims} :
    i.validate token kind now = .ok c ↔
      i.verify token = .ok c ∧ now.seconds < c.expiresAt ∧ c.kind = kind ∧
        c.subject = c.device ∧ c.user = userOf c.device := by
  unfold validate
  cases i.verify token with
  | error e => exact iff_of_false nofun fun h ↦ nomatch h.1
  | ok claims =>
    dsimp only [bind, Except.bind]
    by_cases hexpired : claims.expiresAt ≤ now.seconds
    · rw [if_pos hexpired]
      refine iff_of_false nofun ?_
      rintro ⟨hc, hlt, -⟩
      cases hc
      exact Int.not_le.2 hlt hexpired
    by_cases hkind : claims.kind ≠ kind
    · rw [if_neg hexpired, if_pos hkind]
      refine iff_of_false nofun ?_
      rintro ⟨hc, -, hkind', -⟩
      cases hc
      exact hkind hkind'
    by_cases hbound : claims.subject ≠ claims.device ∨ claims.user ≠ userOf claims.device
    · rw [if_neg hexpired, if_neg hkind, if_pos hbound]
      refine iff_of_false nofun ?_
      rintro ⟨hc, -, -, hsubject, huser⟩
      cases hc
      exact hbound.elim (· hsubject) (· huser)
    · rw [if_neg hexpired, if_neg hkind, if_neg hbound]
      obtain ⟨hsubject, huser⟩ := not_or.1 hbound
      constructor
      · intro h
        obtain rfl : claims = c := Except.ok.inj h
        exact ⟨rfl, Int.lt_of_not_ge hexpired, Decidable.not_not.1 hkind,
          Decidable.not_not.1 hsubject, Decidable.not_not.1 huser⟩
      · exact fun h ↦ h.1

theorem issued_of_issue {issued : Issued} (h : i.issue device user now = .ok issued) :
    issued.device = device ∧ issued.user = user := by
  unfold issue at h
  obtain ⟨access, -, h⟩ := bind_eq_ok_iff.1 h
  obtain ⟨refresh, -, h⟩ := bind_eq_ok_iff.1 h
  cases h
  exact ⟨rfl, rfl⟩

theorem issue_eq_ok_self {issued : Issued} (h : i.issue device user now = .ok issued) :
    i.issue issued.device issued.user now = .ok issued := by
  obtain ⟨hdevice, huser⟩ := issued_of_issue h
  rw [hdevice, huser, h]

theorem issue_of_authenticate {issued : Issued}
    (h : i.authenticate device publicKey now = .ok issued) :
    i.issue device (userOf device) now = .ok issued := by
  unfold authenticate at h
  by_cases hblank : Text.trim device.toList = []
  · rw [if_pos hblank] at h
    cases h
  · rw [if_neg hblank] at h
    cases hkey : PublicKey.decode publicKey with
    | error defect =>
      rw [hkey] at h
      cases h
    | ok key =>
      rw [hkey] at h
      exact h

/-- First credentials are for the device that asked, and for its own user. -/
theorem issued_of_authenticate {issued : Issued}
    (h : i.authenticate device publicKey now = .ok issued) :
    issued.device = device ∧ issued.user = userOf device :=
  issued_of_issue (issue_of_authenticate h)

theorem refresh_eq_ok_iff {issued : Issued} :
    i.refresh token now = .ok issued ↔
      ∃ c, i.validate token .refresh now = .ok c ∧ i.issue c.device c.user now = .ok issued :=
  bind_eq_ok_iff

/-! ## Secrets -/

/-- Stopping at the first fault that is no mismatch loses nothing: such a fault stands under every
secret. -/
theorem verify_eq_ok_iff {c : Claims} :
    i.verify token = .ok c ↔
      ∃ secret ∈ i.keys.secrets, Token.verify i.name secret token = .ok c := by
  constructor
  · intro h
    unfold verify at h
    split at h
    next claims _ hcurrent =>
      cases h
      exact ⟨i.keys.current, List.mem_cons_self, hcurrent⟩
    next previous _ hprevious =>
      split at h
      next claims hclaims =>
        cases h
        exact ⟨previous, by simp [KeyRing.secrets, hprevious], hclaims⟩
      next => cases h
    next => cases h
  · rintro ⟨secret, hmem, hsecret⟩
    unfold verify
    cases hcurrent : Token.verify i.name i.keys.current token with
    | ok claims => rw [Token.eq_of_verify hcurrent hsecret]
    | error refusal =>
      rcases List.mem_cons.1 hmem with rfl | hmem
      · exact nomatch hcurrent.symm.trans hsecret
      cases refusal with
      | unusable => exact absurd hcurrent (Token.verify_ne_unusable hsecret _)
      | mismatch =>
        rw [Option.mem_toList] at hmem
        rw [hmem]
        dsimp only
        rw [hsecret]

theorem verify_eq_badSignature (h : ∀ secret ∈ i.keys.secrets, ∀ c,
    Token.verify i.name secret token ≠ .ok c) : i.verify token = .error .badSignature := by
  cases hverify : i.verify token with
  | ok c =>
    obtain ⟨secret, hmem, hsecret⟩ := verify_eq_ok_iff.1 hverify
    exact absurd hsecret (h secret hmem c)
  | error e =>
    unfold verify at hverify
    split at hverify
    next => cases hverify
    next =>
      split at hverify
      next => cases hverify
      next => exact hverify.symm
    next => exact hverify.symm

theorem verify_sign_of_mem {secret : Secret} {c : Claims} (hsecret : secret ∈ i.keys.secrets)
    (hc : c.Bounded) :
    i.verify (Token.sign secret c) =
      if 0 ≤ c.expiresAt ∧ c.issuer = i.name then .ok c else .error .badSignature := by
  by_cases hgood : 0 ≤ c.expiresAt ∧ c.issuer = i.name
  · rw [if_pos hgood, verify_eq_ok_iff]
    exact ⟨secret, hsecret, by rw [Token.verify_sign _ _ _ hc, if_pos rfl, if_pos hgood]⟩
  · rw [if_neg hgood]
    apply verify_eq_badSignature
    intro other _ d
    rw [Token.verify_sign _ _ _ hc, if_neg hgood]
    split <;> nofun

/-- A credential is judged by its claims alone. -/
theorem validate_congr {j : Issuer} (h : i.verify token = j.verify token) (kind : Kind)
    (now : Instant) : i.validate token kind now = j.validate token kind now := by
  unfold validate
  rw [h]

theorem validate_of_verify_ok {c : Claims} (h : i.verify token = .ok c)
    (hsubject : c.subject = c.device) (huser : c.user = userOf c.device) (expected : Kind)
    (now : Instant) :
    i.validate token expected now =
      if c.expiresAt ≤ now.seconds then .error .expired
      else if c.kind = expected then .ok c else .error (.invalid (.wrongKind expected c.kind)) := by
  have hbound : ¬(c.subject ≠ c.device ∨ c.user ≠ userOf c.device) :=
    not_or.2 ⟨fun hne ↦ hne hsubject, fun hne ↦ hne huser⟩
  unfold validate
  rw [h]
  dsimp only [bind, Except.bind]
  by_cases hexpired : c.expiresAt ≤ now.seconds
  · rw [if_pos hexpired, if_pos hexpired]
    rfl
  by_cases hkind : c.kind = expected
  · rw [if_neg hexpired, if_neg hexpired, if_neg (not_not_intro hkind), if_neg hbound, if_pos hkind]
    rfl
  · rw [if_neg hexpired, if_neg hexpired, if_pos hkind, if_neg hkind]
    rfl

theorem validate_sign_of_mem {secret : Secret} {c : Claims} (hsecret : secret ∈ i.keys.secrets)
    (hc : c.Bounded) (hgood : 0 ≤ c.expiresAt ∧ c.issuer = i.name)
    (hbound : c.subject = c.device ∧ c.user = userOf c.device) (hnow : now.seconds < c.expiresAt) :
    i.validate (Token.sign secret c) c.kind now = .ok c :=
  validate_eq_ok_iff.2 ⟨by rw [verify_sign_of_mem hsecret hc, if_pos hgood], hnow, rfl, hbound⟩

theorem validate_of_badSignature (h : i.verify token = .error .badSignature) (expected : Kind)
    (now : Instant) : i.validate token expected now = .error .badSignature := by
  unfold validate
  rw [h]
  rfl

theorem bearer?_of_validate {c : Claims} (h : i.validate token kind now = .ok c) :
    i.bearer? token kind now = some c.device := by
  rw [bearer?, h]
  rfl

theorem bearer?_of_refused {e : Error} (h : i.validate token kind now = .error e) :
    i.bearer? token kind now = none := by
  rw [bearer?, h]
  rfl

theorem exists_validate_of_bearer? {device : String} (h : i.bearer? token kind now = some device) :
    ∃ c, i.validate token kind now = .ok c ∧ c.device = device ∧ c.user = userOf device := by
  rw [bearer?] at h
  cases hclaims : i.validate token kind now with
  | error e =>
    rw [hclaims] at h
    cases h
  | ok c =>
    rw [hclaims] at h
    obtain rfl : c.device = device := Option.some.inj h
    exact ⟨c, rfl, rfl, (validate_eq_ok_iff.1 hclaims).2.2.2.2⟩

theorem bearer?_empty (i : Issuer) (kind : Kind) (now : Instant) :
    i.bearer? "" kind now = none := by
  have hverify : i.verify "" = .error .badSignature := by
    apply verify_eq_badSignature
    intro secret _ c h
    obtain ⟨p, hparts, -⟩ := Token.exists_parts_of_verify h
    cases hparts
  exact bearer?_of_refused (validate_of_badSignature hverify kind now)

/-! ## Issuing -/

section Issuing

variable {c : Claims}

theorem exists_expiry_of_claimsAt? (h : i.claimsAt? device user kind now = some c) :
    ∃ expiry, now.addNanos? (i.lifetime kind) = some expiry ∧
      c = ⟨device, device, user, kind, i.name, now.seconds, expiry.seconds⟩ := by
  obtain ⟨expiry, hexpiry, hc⟩ := Option.map_eq_some_iff.1 h
  exact ⟨expiry, hexpiry, hc.symm⟩

theorem bounded_of_claimsAt? (h : i.claimsAt? device user kind now = some c) : c.Bounded := by
  obtain ⟨expiry, -, rfl⟩ := exists_expiry_of_claimsAt? h
  exact ⟨now.seconds_bounded, expiry.seconds_bounded⟩

/-- Both credentials of a pair are signed under the current secret. -/
theorem exists_claims_of_issue {issued : Issued} (h : i.issue device user now = .ok issued)
    (kind : Kind) :
    ∃ c, i.claimsAt? device user kind now = some c ∧
      issued.token kind = Token.sign i.keys.current c := by
  have hsign {kind : Kind} {token : String} (h : i.signAt device user kind now = .ok token) :
      ∃ c, i.claimsAt? device user kind now = some c ∧ token = Token.sign i.keys.current c := by
    unfold signAt at h
    split at h
    next c hc => exact ⟨c, hc, (Except.ok.inj h).symm⟩
    next => cases h
  obtain ⟨access, haccess, h⟩ := bind_eq_ok_iff.1 h
  obtain ⟨refresh, hrefresh, h⟩ := bind_eq_ok_iff.1 h
  obtain rfl := Except.ok.inj h
  cases kind with
  | access => exact hsign haccess
  | refresh => exact hsign hrefresh

end Issuing

end Issuer

end DeviceSync.Credential
