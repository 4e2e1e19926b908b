import DeviceSync.Proofs.Credential.Lifetime
import DeviceSync.Proofs.Credential.Rotation

/-!
# Where Credentials Come From

An issuer remembers nothing of what it gives out, and tells its own credentials by their signature.
The keyed hash is taken as ideal: a token only comes in signed under a secret of the ring if its
text is one that was signed before. Then every credential that is accepted says what an earlier one
said, and going back from refresh to refresh ends where its device asked for a first pair.

The signature itself may be another one than before. A text that was signed under one secret of the
ring has a token under the other as well, and an issuer takes both.
-/

namespace DeviceSync.Credential.Issuer

/-! ## Runs -/

/-- What an issuer is asked to do. -/
inductive Request where
  | authenticate (device publicKey : String)
  | refresh (token : String)
  | validate (token : String) (expected : Kind)
  | rotate (secret : Secret)
deriving DecidableEq

structure Call where
  request : Request
  time : Instant

/-- The token that comes in with a request, and the kind it must have. -/
def Request.presented? : Request → Option (String × Kind)
  | .refresh token => some (token, .refresh)
  | .validate token expected => some (token, expected)
  | _ => none

/-- Nothing but a rotation changes an issuer. -/
def after (i : Issuer) : Request → Issuer
  | .rotate secret => i.rotate secret
  | _ => i

/-- A call, and the issuer as it was when the call came. -/
structure Entry where
  issuer : Issuer
  call : Call

/-- The calls of a run, the first one first. -/
def history (i : Issuer) : List Call → List Entry
  | [] => []
  | call :: calls => ⟨i, call⟩ :: history (i.after call.request) calls

namespace Entry

/-- A call is answered with a pair. -/
inductive Issues (e : Entry) (issued : Issued) : Prop where
  | authenticate {device publicKey : String} :
    e.call.request = .authenticate device publicKey →
      e.issuer.authenticate device publicKey e.call.time = .ok issued → Issues e issued
  | refresh {presented : String} :
    e.call.request = .refresh presented →
      e.issuer.refresh presented e.call.time = .ok issued → Issues e issued

def Returns (e : Entry) (token : String) : Prop :=
  ∃ issued kind, e.Issues issued ∧ issued.token kind = token

/-- A call returns a token into which it signs some claims. -/
def Signs (e : Entry) (token : String) (c : Claims) : Prop :=
  ∃ issued, e.Issues issued ∧ issued.token c.kind = token ∧
    e.issuer.claimsAt? issued.device issued.user c.kind e.call.time = some c

/-- A token comes in and is found good. A refresh judges its token like a call that asks for
nothing else. -/
def Accepts (e : Entry) (token : String) (kind : Kind) (c : Claims) : Prop :=
  e.call.request.presented? = some (token, kind) ∧ e.issuer.validate token kind e.call.time = .ok c

end Entry

/-- What holds of every call of a run together with the calls before it. -/
def Throughout (P : List Entry → Entry → Prop) (h : List Entry) : Prop :=
  ∀ earlier e, earlier ++ [e] <+: h → P earlier e

namespace Throughout

variable {P : List Entry → Entry → Prop} {h : List Entry} {e : Entry}

theorem nil : Throughout P [] := by
  intro earlier e hbegins
  exact absurd (List.prefix_nil.1 hbegins) (by simp)

theorem concat (hthroughout : Throughout P h) (hlast : P h e) : Throughout P (h ++ [e]) := by
  intro earlier last hbegins
  rcases List.prefix_concat_iff.1 hbegins with heq | hbegins
  · obtain ⟨rfl, hsingle⟩ := List.append_inj' heq rfl
    obtain rfl := List.singleton_inj.1 hsingle
    exact hlast
  · exact hthroughout earlier last hbegins

end Throughout

/-! ## Forgeries -/

/-- The text of a token was signed by one of some calls. -/
def Covered (entries : List Entry) (token : String) : Prop :=
  ∃ e ∈ entries, ∃ returned, e.Returns returned ∧
    Token.signedText? returned = Token.signedText? token

/-- No token comes in that is signed under a secret of the ring and not covered by what was returned
before. -/
def Unforged : List Entry → Prop :=
  Throughout fun earlier e ↦ ∀ token kind, e.call.request.presented? = some (token, kind) →
    ∀ secret ∈ e.issuer.keys.secrets, Token.SignedUnder secret token → Covered earlier token

/-- No token comes in that is signed under a secret of the ring and not covered by what was returned
before under this very secret. -/
def UnforgedUnderEach : List Entry → Prop :=
  Throughout fun earlier e ↦ ∀ token kind, e.call.request.presented? = some (token, kind) →
    ∀ secret ∈ e.issuer.keys.secrets, Token.SignedUnder secret token →
      Covered (earlier.filter fun e' ↦ e'.issuer.keys.current = secret) token

/-- Claims go back to the call with which their device asked for its first pair. -/
inductive Descends (device : String) : List Entry → Claims → Prop where
  | authenticate {h earlier : List Entry} {e : Entry} {publicKey token : String} {c : Claims} :
    earlier ++ [e] <+: h → e.call.request = .authenticate device publicKey → e.Signs token c →
      Descends device h c
  | refresh {h earlier : List Entry} {e : Entry} {presented token : String} {c parent : Claims} :
    earlier ++ [e] <+: h → e.call.request = .refresh presented →
      e.Accepts presented .refresh parent → Descends device earlier parent → e.Signs token c →
      Descends device h c

variable {h entries earlier : List Entry} {e : Entry} {token returned : String} {kind : Kind}
  {c : Claims}

theorem UnforgedUnderEach.unforged (hunforged : UnforgedUnderEach h) : Unforged h := by
  intro earlier e hbegins token kind hpresented secret hsecret hsigned
  obtain ⟨e', he', hcovers⟩ :=
    hunforged earlier e hbegins token kind hpresented secret hsecret hsigned
  exact ⟨e', (List.mem_filter.1 he').1, hcovers⟩

/-! ## Signing -/

theorem Entry.Issues.issue_eq_ok {issued : Issued} (hissues : e.Issues issued) :
    e.issuer.issue issued.device issued.user e.call.time = .ok issued := by
  cases hissues with
  | authenticate _ hok => exact issue_eq_ok_self (issue_of_authenticate hok)
  | refresh _ hok =>
    obtain ⟨parent, -, hissue⟩ := refresh_eq_ok_iff.1 hok
    exact issue_eq_ok_self hissue

theorem Entry.Returns.exists_signs (hreturns : e.Returns returned) : ∃ c, e.Signs returned c := by
  obtain ⟨issued, kind, hissues, htoken⟩ := hreturns
  obtain ⟨c, hc, -⟩ := exists_claims_of_issue hissues.issue_eq_ok kind
  have hkind : c.kind = kind := by
    obtain ⟨expiry, -, rfl⟩ := exists_expiry_of_claimsAt? hc
    rfl
  exact ⟨c, issued, hissues, hkind ▸ htoken, hkind ▸ hc⟩

theorem Entry.Signs.bounded (hsigns : e.Signs returned c) : c.Bounded := by
  obtain ⟨_, -, -, hc⟩ := hsigns
  exact bounded_of_claimsAt? hc

theorem Entry.Signs.eq_sign (hsigns : e.Signs returned c) :
    returned = Token.sign e.issuer.keys.current c := by
  obtain ⟨issued, hissues, htoken, hc⟩ := hsigns
  obtain ⟨d, hd, hsign⟩ := exists_claims_of_issue hissues.issue_eq_ok c.kind
  obtain rfl := Option.some.inj (hc.symm.trans hd)
  exact htoken.symm.trans hsign

theorem Entry.Returns.signedUnder (hreturns : e.Returns returned) :
    Token.SignedUnder e.issuer.keys.current returned := by
  obtain ⟨c, hsigns⟩ := hreturns.exists_signs
  rw [hsigns.eq_sign]
  exact Token.signedUnder_sign_iff.2 rfl

/-- What is covered is accepted for no other claims than those signed before. -/
theorem Covered.exists_signs {name : String} {secret : Secret} (hcovered : Covered entries token)
    (hverify : Token.verify name secret token = .ok c) :
    ∃ e ∈ entries, ∃ returned, e.Signs returned c ∧
      Token.signedText? returned = Token.signedText? token := by
  obtain ⟨e, he, returned, hreturns, htext⟩ := hcovered
  obtain ⟨d, hsigns⟩ := hreturns.exists_signs
  have hsigned : Token.signedText? token = some (Token.signingInput d) := by
    rw [← htext, hsigns.eq_sign, Token.signedText?_sign]
  obtain rfl := Token.eq_of_verify_of_signedText? hverify hsigns.bounded hsigned
  exact ⟨e, he, returned, hsigns, htext⟩

/-! ## Going back -/

theorem Entry.Accepts.exists_verify (haccepts : e.Accepts token kind c) :
    ∃ secret ∈ e.issuer.keys.secrets, Token.verify e.issuer.name secret token = .ok c :=
  verify_eq_ok_iff.1 (validate_eq_ok_iff.1 haccepts.2).1

theorem exists_signs_of_accepts (hunforged : Unforged h) (hbegins : earlier ++ [e] <+: h)
    (haccepts : e.Accepts token kind c) :
    ∃ e' ∈ earlier, ∃ returned, e'.Signs returned c ∧
      Token.signedText? returned = Token.signedText? token := by
  obtain ⟨secret, hsecret, hverify⟩ := haccepts.exists_verify
  have hcovered := hunforged earlier e hbegins token kind haccepts.1 secret hsecret
    (Token.signedUnder_of_verify hverify)
  exact hcovered.exists_signs hverify

theorem exists_signs_of_accepts_of_underEach (hunforged : UnforgedUnderEach h)
    (hbegins : earlier ++ [e] <+: h) (haccepts : e.Accepts token kind c) :
    ∃ e' ∈ earlier, e'.Signs token c := by
  obtain ⟨secret, hsecret, hverify⟩ := haccepts.exists_verify
  have hsigned := Token.signedUnder_of_verify hverify
  have hcovered := hunforged earlier e hbegins token kind haccepts.1 secret hsecret hsigned
  obtain ⟨e', he', returned, hsigns, htext⟩ := hcovered.exists_signs hverify
  obtain ⟨hmem, hcurrent⟩ := List.mem_filter.1 he'
  have htoken : token = returned := by
    rw [hsigns.eq_sign, of_decide_eq_true hcurrent]
    apply Token.eq_sign_of_signedUnder hsigned
    rw [← htext, hsigns.eq_sign, Token.signedText?_sign]
  exact ⟨e', hmem, htoken ▸ hsigns⟩

/-- Every step back is to an earlier call, so that it ends. -/
theorem descends_of_accepts (hunforged : Unforged h) (hbegins : earlier ++ [e] <+: h)
    (haccepts : e.Accepts token kind c) : Descends c.device earlier c := by
  -- on the number of earlier calls: a refresh presents what one of them returned
  induction hlength : earlier.length using Nat.strongRecOn
    generalizing earlier e token kind c with
  | ind n ih =>
    obtain ⟨e', he', returned, hsigns, -⟩ := exists_signs_of_accepts hunforged hbegins haccepts
    obtain ⟨first, rest, hsplit⟩ := List.append_of_mem he'
    have hearlier : first ++ [e'] <+: earlier := ⟨rest, by rw [hsplit, List.append_assoc]; rfl⟩
    have hbegins' : first ++ [e'] <+: h :=
      (hearlier.trans (List.prefix_append _ _)).trans hbegins
    have hshorter : first.length < n := by
      rw [← hlength, hsplit, List.length_append, List.length_cons]
      omega
    obtain ⟨issued, hissues, -, hc⟩ := id hsigns
    obtain ⟨expiry, -, hclaims⟩ := exists_expiry_of_claimsAt? hc
    have hdevice : c.device = issued.device := congrArg Claims.device hclaims
    cases hissues with
    | authenticate hrequest hok =>
      rw [hdevice, (issued_of_authenticate hok).1]
      exact .authenticate hearlier hrequest hsigns
    | refresh hrequest hok =>
      obtain ⟨parent, hparent, hissue⟩ := refresh_eq_ok_iff.1 hok
      have haccepts' : e'.Accepts _ .refresh parent := ⟨by rw [hrequest]; rfl, hparent⟩
      rw [hdevice, (issued_of_issue hissue).1]
      exact .refresh hearlier hrequest haccepts' (ih _ hshorter hbegins' haccepts' rfl) hsigns

/-- Without forgeries a credential that is accepted is bound to one device, says what was signed
before, and goes back to the call with which this device asked for its first pair; without
forgeries under each single secret it was itself returned before. -/
theorem origin_of_accepts {i : Issuer} {calls : List Call}
    (hunforged : Unforged (history i calls)) (hbegins : earlier ++ [e] <+: history i calls)
    (haccepts : e.Accepts token kind c) :
    c.subject = c.device ∧ c.user = userOf c.device ∧ c.kind = kind ∧
      Descends c.device earlier c ∧
      (∃ e' ∈ earlier, ∃ returned, e'.Signs returned c ∧
        Token.signedText? returned = Token.signedText? token) ∧
      (UnforgedUnderEach (history i calls) → ∃ e' ∈ earlier, e'.Signs token c) := by
  obtain ⟨-, -, hkind, hsubject, huser⟩ := validate_eq_ok_iff.1 haccepts.2
  exact ⟨hsubject, huser, hkind, descends_of_accepts hunforged hbegins haccepts,
    exists_signs_of_accepts hunforged hbegins haccepts,
    fun hunder ↦ exists_signs_of_accepts_of_underEach hunder hbegins haccepts⟩

/-- The pair that a standard issuer gives a device at the epoch. -/
def firstPair (secret : Secret) : Issued where
  device := "a"
  user := userOf "a"
  access := Token.sign secret ⟨"a", "a", userOf "a", .access, defaultName, 0, 3600⟩
  refresh := Token.sign secret ⟨"a", "a", userOf "a", .refresh, defaultName, 0, 86400⟩
  expiresIn := 3600

theorem issue_new_epoch (secret : Secret) :
    (new defaultName defaultAccessLifetime defaultRefreshLifetime secret).issue "a" (userOf "a")
      .epoch = .ok (firstPair secret) := by
  rfl

theorem authenticate_new_epoch (secret : Secret) :
    (new defaultName defaultAccessLifetime defaultRefreshLifetime secret).authenticate "a"
      "AAAAAAAAAAAAAAAAAAAAAAAAAAAAAAAAAAAAAAAAAAA=" .epoch = .ok (firstPair secret) :=
  (authenticate_eq_issue (by decide) (by rfl)).trans (issue_new_epoch secret)

/-- A device asks for a pair, renews it, and comes with a credential of the new pair after a
rotation. -/
theorem origin_of_accepts_renewed :
    let secretOf (n : UInt8) : Secret := ⟨.replicate 32 n, Nat.le_of_eq List.length_replicate.symm⟩
    let i := new defaultName defaultAccessLifetime defaultRefreshLifetime (secretOf 1)
    let c : Claims := ⟨"a", "a", userOf "a", .access, defaultName, 0, 3600⟩
    let parent : Claims := ⟨"a", "a", userOf "a", .refresh, defaultName, 0, 86400⟩
    let token := Token.sign (secretOf 1) c
    let calls : List Call :=
      [⟨.authenticate "a" "AAAAAAAAAAAAAAAAAAAAAAAAAAAAAAAAAAAAAAAAAAA=", .epoch⟩,
        ⟨.refresh (Token.sign (secretOf 1) parent), .epoch⟩, ⟨.rotate (secretOf 2), .epoch⟩,
        ⟨.validate token .access, .epoch⟩]
    let earlier := (history i calls).take 3
    UnforgedUnderEach (history i calls) ∧ Descends "a" earlier c ∧
      ∃ e' ∈ earlier, e'.Signs token c := by
  intro secretOf i c parent token calls earlier
  let e₀ : Entry :=
    ⟨i, ⟨.authenticate "a" "AAAAAAAAAAAAAAAAAAAAAAAAAAAAAAAAAAAAAAAAAAA=", .epoch⟩⟩
  let e₁ : Entry := ⟨i, ⟨.refresh (Token.sign (secretOf 1) parent), .epoch⟩⟩
  let e₂ : Entry := ⟨i, ⟨.rotate (secretOf 2), .epoch⟩⟩
  let e₃ : Entry := ⟨i.rotate (secretOf 2), ⟨.validate token .access, .epoch⟩⟩
  let issued := firstPair (secretOf 1)
  have hparent : i.validate (Token.sign (secretOf 1) parent) .refresh .epoch = .ok parent :=
    validate_sign_of_mem (c := parent) List.mem_cons_self ⟨by decide, by decide⟩ ⟨by decide, rfl⟩
      ⟨rfl, rfl⟩ (by decide)
  have hissues₀ : e₀.Issues issued := .authenticate rfl (authenticate_new_epoch _)
  have hissues₁ : e₁.Issues issued :=
    .refresh rfl (refresh_eq_ok_iff.2 ⟨parent, hparent, issue_new_epoch _⟩)
  have hrefresh : UnforgedUnderEach ([] ++ [e₀] ++ [e₁]) := by
    refine .concat (.concat .nil nofun) fun _ _ hpresented secret hsecret _ ↦ ?_
    obtain ⟨rfl, rfl⟩ := Prod.mk.inj (Option.some.inj hpresented)
    obtain rfl := List.mem_singleton.1 hsecret
    exact ⟨e₀, List.mem_filter.2 ⟨List.mem_cons_self, decide_eq_true rfl⟩, _,
      ⟨issued, .refresh, hissues₀, rfl⟩, rfl⟩
  have hunforged : UnforgedUnderEach (history i calls) := by
    change UnforgedUnderEach ([] ++ [e₀] ++ [e₁] ++ [e₂] ++ [e₃])
    refine .concat (.concat hrefresh nofun) fun _ _ hpresented secret hsecret hsigned ↦ ?_
    obtain ⟨rfl, rfl⟩ := Prod.mk.inj (Option.some.inj hpresented)
    rcases List.mem_cons.1 hsecret with rfl | hsecret
    · exact absurd (Token.signedUnder_sign_iff.1 hsigned) signatureOf_ones_ne_twos
    · obtain rfl := List.mem_singleton.1 hsecret
      exact ⟨e₁, List.mem_filter.2 ⟨by simp, decide_eq_true rfl⟩, _,
        ⟨issued, .access, hissues₁, rfl⟩, rfl⟩
  have haccepts : e₃.Accepts token .access c :=
    ⟨rfl, validate_sign_of_mem (c := c) (List.mem_cons_of_mem _ List.mem_cons_self)
      ⟨by decide, by decide⟩ ⟨by decide, rfl⟩ ⟨rfl, rfl⟩ (by decide)⟩
  have hbegins : earlier ++ [e₃] <+: history i calls := List.prefix_refl _
  have horigin := origin_of_accepts hunforged.unforged hbegins haccepts
  exact ⟨hunforged, horigin.2.2.2.1, horigin.2.2.2.2.2 hunforged⟩

/-- A text that was signed under one secret comes in signed under the next one: nothing in it is
forged, and the token is accepted though it was never returned. -/
theorem not_returned_of_accepts :
    let secretOf (n : UInt8) : Secret := ⟨.replicate 32 n, Nat.le_of_eq List.length_replicate.symm⟩
    let i := new defaultName defaultAccessLifetime defaultRefreshLifetime (secretOf 1)
    let c : Claims := ⟨"a", "a", userOf "a", .access, defaultName, 0, 3600⟩
    let token := Token.sign (secretOf 2) c
    let calls : List Call :=
      [⟨.authenticate "a" "AAAAAAAAAAAAAAAAAAAAAAAAAAAAAAAAAAAAAAAAAAA=", .epoch⟩,
        ⟨.rotate (secretOf 2), .epoch⟩, ⟨.validate token .access, .epoch⟩]
    Unforged (history i calls) ∧
      ∃ earlier e, earlier ++ [e] <+: history i calls ∧ e.Accepts token .access c ∧
        ∀ e' ∈ earlier, ¬e'.Returns token := by
  intro secretOf i c token calls
  let e₀ : Entry :=
    ⟨i, ⟨.authenticate "a" "AAAAAAAAAAAAAAAAAAAAAAAAAAAAAAAAAAAAAAAAAAA=", .epoch⟩⟩
  let e₁ : Entry := ⟨i, ⟨.rotate (secretOf 2), .epoch⟩⟩
  let e₂ : Entry := ⟨i.rotate (secretOf 2), ⟨.validate token .access, .epoch⟩⟩
  let issued := firstPair (secretOf 1)
  have hissues : e₀.Issues issued := .authenticate rfl (authenticate_new_epoch _)
  have hunforged : Unforged ([] ++ [e₀] ++ [e₁] ++ [e₂]) := by
    refine .concat (.concat (.concat .nil nofun) nofun) fun _ _ hpresented secret hsecret _ ↦ ?_
    obtain ⟨rfl, rfl⟩ := Prod.mk.inj (Option.some.inj hpresented)
    exact ⟨e₀, List.mem_cons_self, _, ⟨issued, .access, hissues, rfl⟩,
      (Token.signedText?_sign _ _).trans (Token.signedText?_sign _ _).symm⟩
  have haccepts : e₂.Accepts token .access c :=
    ⟨rfl, validate_sign_of_mem (c := c) List.mem_cons_self ⟨by decide, by decide⟩ ⟨by decide, rfl⟩
      ⟨rfl, rfl⟩ (by decide)⟩
  refine ⟨hunforged, [e₀, e₁], e₂, List.prefix_refl _, haccepts, ?_⟩
  intro e' he' hreturns
  have hissuer : ∀ e ∈ [e₀, e₁], e.issuer = i :=
    List.forall_mem_cons.2 ⟨rfl, List.forall_mem_singleton.2 rfl⟩
  have hsigned := hreturns.signedUnder
  rw [hissuer e' he'] at hsigned
  exact signatureOf_ones_ne_twos (Token.signedUnder_sign_iff.1 hsigned).symm

end DeviceSync.Credential.Issuer
