import DeviceSync.Proofs.Credential.Issuer
import DeviceSync.Service.Basic

/-!
# The Lifetime of Credentials

A device that presents a name and a public key gets a pair of credentials. Each of them says who it
is for, and is good up to the second in which it expires. How the device calls itself makes no
difference: a name may hold quotes and control characters.

Expiry is looked at before the kind, so that a credential of the wrong kind is told apart from an
expired one only as long as it has not expired.
-/

namespace DeviceSync

/-- How many seconds the credentials of a kind are to last. -/
def Settings.seconds (settings : Settings) : Credential.Kind → Nat
  | .access => settings.accessSeconds
  | .refresh => settings.refreshSeconds

namespace Credential.Issuer

variable {i : Issuer} {device user publicKey : String} {now : Instant} {expiry : Kind → Instant}

/-- A pair is issued when both expiries can be told. -/
theorem exists_issued_of_expiry
    (hexpiry : ∀ kind, now.addNanos? (i.lifetime kind) = some (expiry kind)) :
    ∃ issued, i.issue device user now = .ok issued ∧ issued.expiresIn = i.accessSeconds := by
  have hsign (kind : Kind) : ∃ token, i.signAt device user kind now = .ok token := by
    rw [signAt, claimsAt?, hexpiry kind]
    exact ⟨_, rfl⟩
  obtain ⟨access, haccess⟩ := hsign .access
  obtain ⟨refresh, hrefresh⟩ := hsign .refresh
  refine ⟨⟨device, user, access, refresh, i.accessSeconds⟩, ?_, rfl⟩
  rw [issue, haccess, hrefresh]
  rfl

theorem authenticate_eq_issue {key : List UInt8} (hdevice : Text.trim device.toList ≠ [])
    (hkey : PublicKey.decode publicKey = .ok key) :
    i.authenticate device publicKey now = i.issue device (userOf device) now := by
  rw [authenticate, if_neg hdevice, hkey]

/-- A credential that the issuer stated the claims of is judged by its expiry and its kind. -/
theorem validate_sign_of_claimsAt? {kind : Kind} {c : Claims}
    (hc : i.claimsAt? device (userOf device) kind now = some c) (hepoch : 0 ≤ c.expiresAt)
    (expected : Kind) (t : Instant) :
    i.validate (Token.sign i.keys.current c) expected t =
      if c.expiresAt ≤ t.seconds then .error .expired
      else if kind = expected then .ok c else .error (.invalid (.wrongKind expected kind)) := by
  have hbounded := bounded_of_claimsAt? hc
  obtain ⟨expiry, -, rfl⟩ := exists_expiry_of_claimsAt? hc
  apply validate_of_verify_ok
  · rw [verify_sign_of_mem List.mem_cons_self hbounded, if_pos ⟨hepoch, rfl⟩]
  · rfl
  · rfl

/-- The issuer of some settings is a new one around some secret. -/
theorem exists_new_of_issuerOf {settings : Settings} {fresh : Secret}
    (h : Service.issuerOf settings fresh = .ok i) :
    ∃ secret, i = new settings.issuer (Service.lifetimeOf settings.accessSeconds)
      (Service.lifetimeOf settings.refreshSeconds) secret := by
  unfold Service.issuerOf at h
  cases hsecret : settings.secret with
  | none =>
    rw [hsecret] at h
    exact ⟨fresh, (Except.ok.inj h).symm⟩
  | some text =>
    rw [hsecret] at h
    obtain ⟨secret, -, h⟩ := bind_eq_ok_iff.1 h
    exact ⟨secret, (Except.ok.inj h).symm⟩

/-- Settings state lifetimes in whole seconds, and those of more than a year are cut off there. -/
theorem lifetime_of_issuerOf {settings : Settings} {fresh : Secret}
    (h : Service.issuerOf settings fresh = .ok i) (kind : Kind) :
    i.lifetime kind = 1000000000 * (min (settings.seconds kind) Settings.maxSeconds : Nat) := by
  obtain ⟨secret, rfl⟩ := exists_new_of_issuerOf h
  cases kind with
  | access | refresh =>
    simp only [lifetime, new, Service.lifetimeOf, Settings.seconds]
    omega

/-- The credentials of a pair are good for exactly what the issuer says in them, for as long as it
says. -/
theorem validate_authenticate {key : List UInt8} (hdevice : Text.trim device.toList ≠ [])
    (hkey : PublicKey.decode publicKey = .ok key)
    (hexpiry : ∀ kind, now.addNanos? (i.lifetime kind) = some (expiry kind))
    (hepoch : ∀ kind, 0 ≤ (expiry kind).seconds) :
    ∃ issued, i.authenticate device publicKey now = .ok issued ∧
      (∀ kind expected t, i.validate (issued.token kind) expected t =
        if (expiry kind).seconds ≤ t.seconds then .error .expired
        else if kind = expected then
          .ok { subject := device, device, user := userOf device, kind, issuer := i.name
                issuedAt := now.seconds, expiresAt := (expiry kind).seconds }
        else .error (.invalid (.wrongKind expected kind))) ∧
      (∀ kind, 0 ≤ i.lifetime kind → (expiry kind).seconds =
        (now.seconds * 1000000000 + now.nanos % 1000000000 + i.lifetime kind) / 1000000000) ∧
      ∀ settings fresh, Service.issuerOf settings fresh = .ok i →
        (expiry .access).seconds - now.seconds = issued.expiresIn ∧
          issued.expiresIn = min settings.accessSeconds Settings.maxSeconds := by
  obtain ⟨issued, hissued, hexpires⟩ : ∃ issued,
      i.issue device (userOf device) now = .ok issued ∧ issued.expiresIn = i.accessSeconds :=
    exists_issued_of_expiry hexpiry
  refine ⟨issued, (authenticate_eq_issue hdevice hkey).trans hissued, ?_, ?_, ?_⟩
  · intro kind expected t
    obtain ⟨c, hc, htoken⟩ := exists_claims_of_issue hissued kind
    obtain ⟨expiry', hexpiry', hclaims⟩ := exists_expiry_of_claimsAt? hc
    obtain rfl : expiry kind = expiry' := Option.some.inj ((hexpiry kind).symm.trans hexpiry')
    subst hclaims
    rw [htoken, validate_sign_of_claimsAt? hc (hepoch kind)]
  · intro kind hlifetime
    exact Instant.seconds_of_addNanos? (hexpiry kind) hlifetime
  · intro settings fresh hsettings
    have hlifetime : i.lifetime .access =
        1000000000 * (min settings.accessSeconds Settings.maxSeconds : Nat) :=
      lifetime_of_issuerOf hsettings .access
    have hseconds := Instant.seconds_of_addNanos? (hlifetime ▸ hexpiry .access) (by omega)
    have hexpiresIn : issued.expiresIn = min settings.accessSeconds Settings.maxSeconds := by
      rw [hexpires, accessSeconds]
      change ((i.lifetime .access).tdiv 1000000000).toNat = _
      rw [hlifetime, Int.mul_tdiv_cancel_left _ (by decide), Int.toNat_natCast]
    exact ⟨by omega, hexpiresIn⟩

/-- A device with quotes, a line break and a control character in its name, half a second after the
epoch. -/
theorem validate_authenticate_quoted :
    let settings := Settings.standard "localhost"
    let secret : Secret := ⟨.replicate 32 0, by decide⟩
    let i : Issuer := .new settings.issuer (Service.lifetimeOf settings.accessSeconds)
      (Service.lifetimeOf settings.refreshSeconds) secret
    let device := "\"a\"\n\x01"
    let now : Instant := ⟨0, 500000000, by decide⟩
    let publicKey := "AAAAAAAAAAAAAAAAAAAAAAAAAAAAAAAAAAAAAAAAAAA="
    ∃ issued, i.authenticate device publicKey now = .ok issued ∧
      issued.expiresIn = 3600 ∧
      i.validate issued.access .access ⟨3599, 999999999, by decide⟩ =
        .ok ⟨device, device, userOf device, .access, "bifrost-sync", 0, 3600⟩ ∧
      i.validate issued.access .refresh ⟨3599, 999999999, by decide⟩ =
        .error (.invalid (.wrongKind .refresh .access)) ∧
      i.validate issued.access .access ⟨3600, 0, by decide⟩ = .error .expired := by
  intro settings secret i device now publicKey
  let expiry (kind : Kind) : Instant :=
    if kind = .access then ⟨3600, 500000000, by decide⟩ else ⟨86400, 500000000, by decide⟩
  have hexpiry (kind : Kind) : now.addNanos? (i.lifetime kind) = some (expiry kind) := by
    cases kind <;> decide
  have hepoch (kind : Kind) : 0 ≤ (expiry kind).seconds := by
    cases kind <;> decide
  have hkey : PublicKey.decode "AAAAAAAAAAAAAAAAAAAAAAAAAAAAAAAAAAAAAAAAAAA=" =
      .ok (.replicate 32 0) := by rfl
  obtain ⟨issued, hissued, hvalidate, -, hsettings⟩ :=
    validate_authenticate (by decide : Text.trim device.toList ≠ []) hkey hexpiry hepoch
  exact ⟨issued, hissued, (hsettings settings secret rfl).2, hvalidate .access .access _,
    hvalidate .access .refresh _, hvalidate .access .access _⟩

end Credential.Issuer

end DeviceSync
