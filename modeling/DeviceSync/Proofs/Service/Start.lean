import DeviceSync.Proofs.Bytes.Base64
import DeviceSync.Proofs.Credential.Lifetime
import DeviceSync.Proofs.Service.Reachable

/-!
# Starting from Valid Settings

What validation promises about the service that is started afterwards. The bounds that are put on
numbers at the start have no effect on settings that passed it: the service keeps as many manifests,
hands out pages as long and issues credentials that last as long as the settings say.

Validation does not look at the signing secret. A service is started from valid settings exactly if
the secret in them, should there be one, can be decoded and is long enough.
-/

namespace DeviceSync

open Credential (Claims Issued Issuer Kind Secret)

/-! ## Valid settings -/

namespace Settings

variable {settings : Settings}

theorem validate_eq_ok_iff :
    settings.validate = .ok () ↔
      settings.retention ≠ 0 ∧ settings.pageSize ≠ 0 ∧ settings.accessSeconds ≠ 0 ∧
        settings.accessSeconds ≤ settings.refreshSeconds ∧
        settings.refreshSeconds ≤ maxSeconds ∧ settings.profileFields ≠ [] := by
  have hflaw : settings.validate = .ok () ↔ settings.flaw? = none := by
    unfold validate
    cases settings.flaw? <;> simp
  rw [hflaw, flaw?]
  split_ifs <;> grind

/-- The secret, if there is one, is the written form of at least 32 bytes, up to the blanks around
it. -/
def HasGoodSecret (settings : Settings) : Prop :=
  ∀ text ∈ settings.secret, ∃ bytes : List UInt8,
    32 ≤ bytes.length ∧ Text.trim text.toList = Base64.standard.encode bytes

end Settings

/-! ## The secret -/

theorem Credential.Secret.exists_ofBase64_eq_ok_iff {text : String} :
    (∃ secret, ofBase64 text = .ok secret) ↔
      ∃ bytes, minSecretLength ≤ bytes.length ∧
        Text.trim text.toList = Base64.standard.encode bytes := by
  simp only [← Base64.distinct_standard.decode?_eq_some_iff]
  unfold ofBase64
  cases Base64.standard.decode? (Text.trim text.toList) with
  | none => simp
  | some bytes =>
    dsimp only
    unfold ofBytes
    split
    next hlong => simp [hlong]
    next hshort => simp [hshort]

namespace Service

/-- Of all that a service is made from, only the secret can keep it from being started. -/
theorem exists_start_eq_ok_iff {settings : Settings} {fresh : Secret} :
    (∃ s, start settings fresh = .ok s) ↔ settings.HasGoodSecret := by
  -- Everything but the issuer is put together without a check.
  have hissuer : (∃ s, start settings fresh = .ok s) ↔ ∃ i, issuerOf settings fresh = .ok i := by
    unfold start
    cases issuerOf settings fresh with
    | error e => exact iff_of_false nofun nofun
    | ok i => exact iff_of_true ⟨_, rfl⟩ ⟨i, rfl⟩
  rw [hissuer, Settings.HasGoodSecret]
  unfold issuerOf
  cases settings.secret with
  | none => exact iff_of_true ⟨_, rfl⟩ nofun
  | some text =>
    simp only [Option.mem_some_iff, forall_eq']
    refine Iff.trans ?_ Secret.exists_ofBase64_eq_ok_iff
    cases Secret.ofBase64 text with
    | error e => exact iff_of_false nofun nofun
    | ok secret => exact iff_of_true ⟨_, rfl⟩ ⟨secret, rfl⟩

end Service

/-! ## Lifetimes -/

namespace Credential.Issuer

variable {i : Issuer} {device user : String} {now : Instant} {issued : Issued}

/-- A lifetime in whole seconds is what lies between the seconds of a credential. -/
theorem exists_claims_of_lifetime (h : i.issue device user now = .ok issued) {kind : Kind}
    {seconds : Nat} (hlifetime : i.lifetime kind = 1000000000 * seconds) :
    ∃ c : Claims, issued.token kind = Token.sign i.keys.current c ∧ c.kind = kind ∧
      c.issuedAt = now.seconds ∧ c.expiresAt = now.seconds + seconds := by
  obtain ⟨c, hc, htoken⟩ := exists_claims_of_issue h kind
  obtain ⟨expiry, hexpiry, rfl⟩ := exists_expiry_of_claimsAt? hc
  rw [hlifetime] at hexpiry
  have hseconds := Instant.seconds_of_addNanos? hexpiry (by omega)
  refine ⟨_, htoken, rfl, rfl, ?_⟩
  dsimp only
  omega

theorem expiresIn_of_issue (h : i.issue device user now = .ok issued) {seconds : Nat}
    (hlifetime : i.lifetime .access = 1000000000 * seconds) : issued.expiresIn = seconds := by
  have hwhole : i.accessSeconds = seconds := by
    change ((i.lifetime .access).tdiv 1000000000).toNat = seconds
    rw [hlifetime, Int.mul_tdiv_cancel_left _ (by decide), Int.toNat_natCast]
  obtain ⟨access, -, h⟩ := bind_eq_ok_iff.1 h
  obtain ⟨refresh, -, h⟩ := bind_eq_ok_iff.1 h
  cases h
  exact hwhole

end Credential.Issuer

/-- The text of one of the two credentials in an answer. -/
def AuthResponse.token (response : AuthResponse) : Kind → String
  | .access => response.access
  | .refresh => response.refresh

namespace Service

section Lifetimes

variable {settings : Settings} {s : Service}

theorem Reachable.lifetime (h : Reachable settings s) (kind : Kind) :
    s.issuer.lifetime kind =
      1000000000 * (min (settings.seconds kind) Settings.maxSeconds : Nat) := by
  induction h with
  | start h =>
    obtain ⟨i, hi, hs⟩ := bind_eq_ok_iff.1 h
    cases hs
    exact Issuer.lifetime_of_issuerOf hi kind
  | step h c ih =>
    rw [issuer_step]
    exact ih
  | rotate h secret ih =>
    cases kind with
    | access | refresh => exact ih

/-- A call that is answered with credentials had a pair issued. -/
theorem exists_issue_of_step {c : Call} {response : AuthResponse}
    (h : (s.step c).2 = .credentials (.ok response)) :
    ∃ issued : Issued, s.issuer.issue issued.device issued.user c.time = .ok issued ∧
      response = s.authResponse issued := by
  obtain ⟨request, now⟩ := c
  cases request with
  | authenticate r =>
    change Answer.credentials (s.authenticate r now).2 = _ at h
    unfold authenticate at h
    dsimp only at h
    split at h
    · cases h
    next issued hissued =>
      split at h
      · cases h
      · cases h
        exact ⟨issued, Issuer.issue_eq_ok_self (Issuer.issue_of_authenticate hissued), rfl⟩
  | refresh r =>
    change Answer.credentials (s.refresh r now).2 = _ at h
    unfold refresh at h
    split at h
    · cases h
    next issued hissued =>
      cases h
      obtain ⟨c, -, hissue⟩ := Issuer.refresh_eq_ok_iff.1 hissued
      exact ⟨issued, Issuer.issue_eq_ok_self hissue, rfl⟩
  | upload | download | sync | status => cases h

end Lifetimes

/-! ## What validation promises -/

/-- A service is started from valid settings if their secret is good, and only then. Whatever is
asked of it afterwards, it pages and retains as the settings say, and every pair of credentials that
it hands out lasts for exactly the seconds in them, the refresh credential no shorter than the
other. -/
theorem start_of_validate {settings : Settings} (hvalid : settings.validate = .ok ()) :
    (∀ fresh, (∃ s, start settings fresh = .ok s) ↔ settings.HasGoodSecret) ∧
      ∀ s, Reachable settings s →
        s.pageSize = settings.pageSize ∧ s.backend.store.retention = settings.retention ∧
        (∀ kind, s.issuer.lifetime kind = 1000000000 * settings.seconds kind) ∧
        ∀ c response, (s.step c).2 = .credentials (.ok response) →
          response.expiresIn = settings.accessSeconds ∧
          ∃ claims : Kind → Claims,
            (∀ kind,
              response.token kind = Credential.Token.sign s.issuer.keys.current (claims kind) ∧
              (claims kind).kind = kind ∧ (claims kind).issuedAt = c.time.seconds ∧
              (claims kind).expiresAt - (claims kind).issuedAt = settings.seconds kind) ∧
            (claims .access).expiresAt ≤ (claims .refresh).expiresAt := by
  obtain ⟨hretention, hpageSize, -, horder, hlongest, -⟩ := Settings.validate_eq_ok_iff.1 hvalid
  refine ⟨fun fresh ↦ exists_start_eq_ok_iff, fun s hs ↦ ?_⟩
  -- Valid lifetimes stay within a year, where they are not cut off.
  have hlifetime (kind : Kind) : s.issuer.lifetime kind = 1000000000 * settings.seconds kind := by
    rw [hs.lifetime kind, Nat.min_eq_left]
    cases kind with
    | access => exact horder.trans hlongest
    | refresh => exact hlongest
  refine ⟨?_, ?_, hlifetime, ?_⟩
  · rw [hs.sound.pageSize]
    omega
  · rw [hs.sound.retention]
    omega
  intro c response hresponse
  obtain ⟨issued, hissue, rfl⟩ := exists_issue_of_step hresponse
  refine ⟨Issuer.expiresIn_of_issue hissue (hlifetime .access), ?_⟩
  choose claims htoken hkind hissued hexpires using
    fun kind ↦ Issuer.exists_claims_of_lifetime hissue (hlifetime kind)
  refine ⟨claims, fun kind ↦ ⟨?_, hkind kind, hissued kind, ?_⟩, ?_⟩
  · rw [← htoken kind]
    cases kind <;> rfl
  · rw [hexpires, hissued]
    omega
  · rw [hexpires, hexpires]
    simp only [Settings.seconds]
    omega

/-- A device authenticates with a service that was started with a secret of 32 bytes. -/
theorem start_of_validate_authenticate :
    let settings := { Settings.standard "localhost" with
      secret := some "KioqKioqKioqKioqKioqKioqKioqKioqKioqKioqKio=" }
    let fresh : Secret := ⟨.replicate 32 0, by decide⟩
    let c : Call :=
      ⟨.authenticate ⟨"a", "AAAAAAAAAAAAAAAAAAAAAAAAAAAAAAAAAAAAAAAAAAA="⟩, .epoch⟩
    settings.validate = .ok () ∧ ∃ s, start settings fresh = .ok s ∧ s.pageSize = 100 ∧
      s.backend.store.retention = 100 ∧
      ∃ response, (s.step c).2 = .credentials (.ok response) ∧ response.expiresIn = 3600 ∧
        ∃ access refresh : Claims,
          response.access = Credential.Token.sign s.issuer.keys.current access ∧
          response.refresh = Credential.Token.sign s.issuer.keys.current refresh ∧
          access.expiresAt - access.issuedAt = 3600 ∧
          refresh.expiresAt - refresh.issuedAt = 86400 := by
  intro settings fresh c
  have hvalid : settings.validate = .ok () := by decide
  have hsecret : settings.HasGoodSecret := by
    intro text htext
    cases htext
    exact ⟨.replicate 32 42, by decide, by decide⟩
  obtain ⟨hstart, hreachable⟩ := start_of_validate hvalid
  obtain ⟨s, hs⟩ := (hstart fresh).2 hsecret
  have hs' : Reachable settings s := .start hs
  obtain ⟨hpageSize, hretention, hlifetime, hpair⟩ := hreachable s hs'
  have hkey : Credential.PublicKey.decode "AAAAAAAAAAAAAAAAAAAAAAAAAAAAAAAAAAAAAAAAAAA=" =
      .ok (.replicate 32 0) := by rfl
  have hexpiry (kind : Kind) : Instant.epoch.addNanos? (s.issuer.lifetime kind) =
      some (if kind = .access then ⟨3600, 0, by decide⟩ else ⟨86400, 0, by decide⟩) := by
    rw [hlifetime kind]
    cases kind <;> decide
  obtain ⟨issued, hissued, -⟩ : ∃ issued, s.issuer.issue "a" (Credential.userOf "a") .epoch =
      .ok issued ∧ issued.expiresIn = s.issuer.accessSeconds :=
    Issuer.exists_issued_of_expiry hexpiry
  have hanswer : (s.step c).2 = .credentials (.ok (s.authResponse issued)) :=
    step_authenticate_eq_ok s hs'.sound.down
      ((Issuer.authenticate_eq_issue (by decide) hkey).trans hissued)
  obtain ⟨hexpiresIn, claims, hclaims, -⟩ := hpair c _ hanswer
  exact ⟨hvalid, s, hs, hpageSize, hretention, s.authResponse issued, hanswer, hexpiresIn,
    claims .access, claims .refresh, (hclaims .access).1, (hclaims .refresh).1,
    (hclaims .access).2.2.2, (hclaims .refresh).2.2.2⟩

/-- Settings with a secret of five bytes are valid, and no service is started from them. -/
theorem not_start_of_short_secret :
    let settings := { Settings.standard "localhost" with secret := some "c2hvcnQ=" }
    settings.validate = .ok () ∧
      ∀ fresh, start settings fresh = .error (.tooShort 5) := by
  intro settings
  exact ⟨by decide, fun fresh ↦ rfl⟩

end Service

end DeviceSync
