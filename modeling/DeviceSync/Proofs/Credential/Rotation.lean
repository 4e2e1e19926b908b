import DeviceSync.Proofs.Credential.Issuer

/-!
# Rotating the Secret

An issuer with two secrets accepts what an issuer with the one or an issuer with the other accepts,
and nothing else. A credential therefore outlives one rotation unchanged. With the second one its
secret leaves the ring, and then the credential is refused, unless a later secret happens to give
its text the same signature.
-/

namespace DeviceSync.Credential

namespace Token

variable {name token : String} {secret other : Secret} {c : Claims}

theorem signedUnder_of_verify (h : verify name secret token = .ok c) :
    SignedUnder secret token := by
  obtain ⟨p, hparts, -, hsignature, -⟩ := exists_parts_of_verify h
  exact ⟨p, hparts, hsignature⟩

theorem signedUnder_sign_iff : SignedUnder other (sign secret c) ↔
    signatureOf secret (signingInput c) = signatureOf other (signingInput c) := by
  rw [SignedUnder, parts?_sign]
  constructor
  · rintro ⟨p, hp, hsignature⟩
    obtain rfl := Option.some.inj hp
    exact hsignature
  · exact fun h ↦ ⟨_, rfl, h⟩

end Token

namespace Issuer

variable {i j k : Issuer} {token : String} {kind : Kind} {now : Instant}

/-- Whether an issuer gives out a pair to a device that asks for its first one, or in exchange for a
refresh credential. -/
def Issues (i : Issuer) (issued : Issued) : Prop :=
  (∃ device publicKey now, i.authenticate device publicKey now = .ok issued) ∨
    ∃ token now, i.refresh token now = .ok issued

theorem Issues.exists_claims {issued : Issued} (h : i.Issues issued) (kind : Kind) :
    ∃ c : Claims, c.Bounded ∧ issued.token kind = Token.sign i.keys.current c := by
  have hissue : ∃ now, i.issue issued.device issued.user now = .ok issued := by
    rcases h with ⟨device, publicKey, now, h⟩ | ⟨token, now, h⟩
    · exact ⟨now, issue_eq_ok_self (issue_of_authenticate h)⟩
    · obtain ⟨c, -, h⟩ := refresh_eq_ok_iff.1 h
      exact ⟨now, issue_eq_ok_self h⟩
  obtain ⟨now, hissue⟩ := hissue
  obtain ⟨c, hc, htoken⟩ := exists_claims_of_issue hissue kind
  exact ⟨c, bounded_of_claimsAt? hc, htoken⟩

theorem name_foldl_rotate (secrets : List Secret) (i : Issuer) :
    (secrets.foldl rotate i).name = i.name := by
  induction secrets generalizing i with
  | nil => rfl
  | cons secret secrets ih => exact ih (i.rotate secret)

/-- One rotation keeps the secret that was current. -/
theorem current_mem_secrets_of_length_le {secrets : List Secret} (h : secrets.length ≤ 1) :
    i.keys.current ∈ (secrets.foldl rotate i).keys.secrets := by
  match secrets with
  | [] => exact List.mem_cons_self
  | [secret] => exact List.mem_cons_of_mem _ List.mem_cons_self
  | _ :: _ :: _ => exact absurd h (by simp)

theorem secrets_foldl_rotate (secrets : List Secret) (previous current : Secret) (i : Issuer) :
    ((secrets ++ [previous, current]).foldl rotate i).keys.secrets = [current, previous] := by
  rw [List.foldl_append]
  rfl

theorem verify_eq_ok_iff_or {current previous : Secret} (hi : i.keys = ⟨current, some previous⟩)
    (hj : j.keys = ⟨current, none⟩) (hk : k.keys = ⟨previous, none⟩) (hji : j.name = i.name)
    (hki : k.name = i.name) {c : Claims} :
    i.verify token = .ok c ↔ j.verify token = .ok c ∨ k.verify token = .ok c := by
  simp only [verify_eq_ok_iff, KeyRing.secrets, hi, hj, hk, hji, hki, Option.toList,
    List.mem_cons, List.not_mem_nil, or_false, exists_eq_or_imp, exists_eq_left]

/-- A second secret adds what an issuer with that secret alone accepts; a credential is judged as
before after one rotation, and refused after two. -/
theorem validate_of_rotation (i : Issuer) :
    (∀ current previous, i.keys = ⟨current, some previous⟩ →
      ∀ j k : Issuer, j.name = i.name → j.keys = ⟨current, none⟩ →
        k.name = i.name → k.keys = ⟨previous, none⟩ →
        ∀ token kind now c, i.validate token kind now = .ok c ↔
          j.validate token kind now = .ok c ∨ k.validate token kind now = .ok c) ∧
      ∀ issued, i.Issues issued → ∀ kind expected now,
        (∀ secrets : List Secret, secrets.length ≤ 1 →
          (secrets.foldl rotate i).validate (issued.token kind) expected now =
            i.validate (issued.token kind) expected now) ∧
        ∀ (secrets : List Secret) (previous current : Secret),
          ¬Token.SignedUnder previous (issued.token kind) →
          ¬Token.SignedUnder current (issued.token kind) →
          ((secrets ++ [previous, current]).foldl rotate i).validate (issued.token kind) expected
            now = .error .badSignature := by
  constructor
  · intro current previous hi j k hji hj hki hk token kind now c
    rw [validate_eq_ok_iff, validate_eq_ok_iff, validate_eq_ok_iff,
      verify_eq_ok_iff_or hi hj hk hji hki, or_and_right]
  intro issued hissued kind expected now
  obtain ⟨c, hc, htoken⟩ := hissued.exists_claims kind
  constructor
  · intro secrets hlength
    apply validate_congr
    rw [htoken, verify_sign_of_mem (current_mem_secrets_of_length_le hlength) hc,
      verify_sign_of_mem List.mem_cons_self hc, name_foldl_rotate]
  · intro secrets previous current hprevious hcurrent
    apply validate_of_badSignature
    apply verify_eq_badSignature
    intro secret hsecret d hverify
    rw [secrets_foldl_rotate, List.mem_cons, List.mem_singleton] at hsecret
    have hsigned := Token.signedUnder_of_verify hverify
    rcases hsecret with rfl | rfl
    · exact hcurrent hsigned
    · exact hprevious hsigned

/-- A secret of ones and one of twos give the first credential of a device different signatures. -/
theorem signatureOf_ones_ne_twos :
    let secretOf (n : UInt8) : Secret := ⟨.replicate 32 n, Nat.le_of_eq List.length_replicate.symm⟩
    let c : Claims := ⟨"a", "a", userOf "a", .access, defaultName, 0, 3600⟩
    Token.signatureOf (secretOf 1) (Token.signingInput c) ≠
      Token.signatureOf (secretOf 2) (Token.signingInput c) := by
  decide +kernel

/-- An issuer with two secrets gives out a pair, and rotates to another secret twice. -/
theorem validate_of_rotation_twice :
    let secretOf (n : UInt8) : Secret := ⟨.replicate 32 n, Nat.le_of_eq List.length_replicate.symm⟩
    let i : Issuer := (new defaultName defaultAccessLifetime defaultRefreshLifetime
      (secretOf 0)).rotate (secretOf 1)
    let j : Issuer := new defaultName 0 0 (secretOf 1)
    let k : Issuer := new defaultName 0 0 (secretOf 0)
    let c : Claims := ⟨"a", "a", userOf "a", .access, defaultName, 0, 3600⟩
    let token := Token.sign (secretOf 1) c
    (i.validate token .access .epoch = .ok c ↔
      j.validate token .access .epoch = .ok c ∨ k.validate token .access .epoch = .ok c) ∧
    (i.rotate (secretOf 2)).validate token .access .epoch = i.validate token .access .epoch ∧
    ((i.rotate (secretOf 2)).rotate (secretOf 2)).validate token .access .epoch =
      .error .badSignature := by
  intro secretOf i j k c token
  obtain ⟨heither, hissued⟩ := validate_of_rotation i
  let issued : Issued := ⟨"a", userOf "a", token,
    Token.sign (secretOf 1) ⟨"a", "a", userOf "a", .refresh, defaultName, 0, 86400⟩, 3600⟩
  have hissues : i.Issues issued :=
    .inl ⟨"a", "AAAAAAAAAAAAAAAAAAAAAAAAAAAAAAAAAAAAAAAAAAA=", .epoch, rfl⟩
  obtain ⟨honce, htwice⟩ := hissued issued hissues .access .access .epoch
  have hunsigned : ¬Token.SignedUnder (secretOf 2) token :=
    fun hsigned ↦ signatureOf_ones_ne_twos (Token.signedUnder_sign_iff.1 hsigned)
  exact ⟨heither _ _ rfl j k rfl rfl rfl rfl token .access .epoch c, honce [secretOf 2] (by decide),
    htwice [] (secretOf 2) (secretOf 2) hunsigned hunsigned⟩

end Issuer

end DeviceSync.Credential
