import DeviceSync.Credential.Token
import DeviceSync.Proofs.Text.Cut
import DeviceSync.Proofs.Wire.Carries

/-!
# Tokens Read Back

The token of some claims is accepted for these claims, under every secret that gives its text the
same signature, and is a mismatch under any other secret. Escapes, base64 and dots do not get into
each other's way, so that the text which a signature covers determines the claims.

A secret only decides about the signature. A token that is accepted under one secret is therefore
never unusable under another, and says the same under every secret that accepts it.
-/

namespace DeviceSync.Credential

open Json (Document)

theorem Kind.codec_carries (k : Kind) : Kind.codec.Carries k := by
  refine Codec.named_carries ?_
  cases k <;> rfl

/-- Claims whose times are integers of 64 bits. -/
structure Claims.Bounded (c : Claims) : Prop where
  issuedAt : -(twoTo 63 : Int) ≤ c.issuedAt ∧ c.issuedAt < twoTo 63
  expiresAt : -(twoTo 63 : Int) ≤ c.expiresAt ∧ c.expiresAt < twoTo 63

namespace Claims.Bounded
variable {c : Claims} (h : c.Bounded)
include h

theorem carries : Claims.codec.Carries c := by
  refine Codec.record_carries (by decide) ?_ rfl
  exact ⟨Codec.text_carries _, Codec.text_carries _, Codec.text_carries _, Kind.codec_carries _,
    Codec.text_carries _, Codec.signed64_carries h.issuedAt, Codec.signed64_carries h.expiresAt,
    trivial⟩

theorem ofOctets_toText : Claims.codec.ofOctets (Text.octets (Claims.codec.toText c)) = .ok c := by
  have hdepth : (Claims.codec.encode c).depth = 1 := rfl
  have hroom : 1 ≤ Document.maxDepth := by decide
  exact h.carries.ofOctets_toText (hdepth ▸ hroom)

end Claims.Bounded

namespace Token

theorem dot_not_mem_encode (bytes : List UInt8) : '.' ∉ encode bytes := by
  intro h
  have hsymbol : ∀ n, n < 64 → Base64.urlSafeBare.symbol n ≠ '.' := by decide
  rcases Base64.eq_of_mem_encode h with h | ⟨n, hn, h⟩
  · exact absurd h (by decide)
  · exact hsymbol n hn h.symm

theorem decode?_encode (bytes : List UInt8) : decode? (encode bytes) = some bytes :=
  Base64.distinct_urlSafeBare.decode?_encode bytes

theorem ofOctets_headerText : Header.codec.ofOctets (Text.octets headerText) = .ok () := by
  let header := Json.object [("typ", .text "JWT"), ("alg", .text "HS256")]
  have htext : headerText = header.compact := by decide +kernel
  have hread : Document.ofOctets (Text.octets headerText) = (.ofJson header, true) := by
    rw [htext, Document.ofOctets_octets, Document.ofText_compact (v := header)
      ⟨trivial, trivial, trivial⟩]
  rw [Codec.ofOctets, hread]
  rfl

/-! ## Parts -/

theorem parts?_append {p : Parts} (hpayload : '.' ∉ p.payload) (hsignature : '.' ∉ p.signature) :
    parts? (p.signed ++ '.' :: p.signature) = some p := by
  rw [parts?, Text.cutLast_append _ hsignature]
  dsimp only [bind, Option.bind]
  rw [Parts.signed, Text.cutLast_append _ hpayload]
  rfl

theorem eq_of_parts? {cs : List Char} {p : Parts} (h : parts? cs = some p) :
    cs = p.signed ++ '.' :: p.signature ∧ '.' ∉ p.payload ∧ '.' ∉ p.signature := by
  obtain ⟨⟨signed, signature⟩, houter, h⟩ := Option.bind_eq_some_iff.1 h
  obtain ⟨⟨header, payload⟩, hinner, h⟩ := Option.bind_eq_some_iff.1 h
  obtain rfl := Option.some.inj h
  obtain ⟨rfl, hsignature⟩ := Text.eq_of_cutLast houter
  obtain ⟨rfl, hpayload⟩ := Text.eq_of_cutLast hinner
  exact ⟨rfl, hpayload, hsignature⟩

/-- A text that was signed for some claims has these claims for its payload. -/
theorem Parts.payload_of_signed {p : Parts} {c : Claims} (hp : '.' ∉ p.payload)
    (h : p.signed = signingInput c) : p.payload = encode (Text.octets (Claims.codec.toText c)) := by
  have hcut := Text.cutLast_append p.header hp
  rw [← Parts.signed, h, signingInput, Text.cutLast_append _ (dot_not_mem_encode _)] at hcut
  exact (Prod.mk.inj (Option.some.inj hcut)).2.symm

/-- The parts of the token for some claims. -/
def signedParts (secret : Secret) (c : Claims) : Parts :=
  ⟨encode (Text.octets headerText), encode (Text.octets (Claims.codec.toText c)),
    signatureOf secret (signingInput c)⟩

theorem signed_signedParts (secret : Secret) (c : Claims) :
    (signedParts secret c).signed = signingInput c := by
  rw [Parts.signed, signedParts, signingInput]

theorem parts?_sign (secret : Secret) (c : Claims) :
    parts? (sign secret c).toList = some (signedParts secret c) := by
  have hparts := parts?_append (p := signedParts secret c) (dot_not_mem_encode _)
    (dot_not_mem_encode _)
  rw [signed_signedParts] at hparts
  rw [sign, String.toList_ofList, ← hparts, signedParts]

/-- A token is made of symbols and dots. -/
theorem forall_mem_sign {P : Char → Prop} (hdot : P '.') (hpad : P '=')
    (hsymbol : ∀ n, n < 64 → P (Base64.urlSafeBare.symbol n)) (secret : Secret) (c : Claims) :
    ∀ d ∈ (sign secret c).toList, P d := by
  have hencode (bytes : List UInt8) : ∀ d ∈ encode bytes, P d := by
    intro d hd
    rcases Base64.eq_of_mem_encode hd with rfl | ⟨n, hn, rfl⟩
    · exact hpad
    · exact hsymbol n hn
  intro d hd
  simp only [sign, signingInput, signatureOf, String.toList_ofList, List.mem_append,
    List.mem_cons] at hd
  rcases hd with (hd | rfl | hd) | rfl | hd
  · exact hencode _ d hd
  · exact hdot
  · exact hencode _ d hd
  · exact hdot
  · exact hencode _ d hd

/-- Claims are read back from a payload by an issuer with their name, unless they expire before
1970. -/
theorem claims?_encode {c : Claims} (h : c.Bounded) (name : String) :
    claims? name (encode (Text.octets (Claims.codec.toText c))) =
      if 0 ≤ c.expiresAt ∧ c.issuer = name then some c else none := by
  have hdocument := Claims.codec.ofOctets_toText h.carries.integral
  have hadmissible : admissible (Document.ofJson (Claims.codec.encode c)) = true := by
    rfl
  rw [claims?, decode?_encode]
  dsimp only [bind, Option.bind]
  rw [h.ofOctets_toText, hdocument]
  simp only [Except.toOption, hadmissible, true_and]

/-- The token of some claims is judged like its payload under a secret that gives it the same
signature, and is a mismatch under any other. -/
theorem verify_sign (name : String) (secret other : Secret) {c : Claims} (h : c.Bounded) :
    verify name other (sign secret c) =
      if signatureOf secret (signingInput c) = signatureOf other (signingInput c) then
        if 0 ≤ c.expiresAt ∧ c.issuer = name then .ok c else .error .unusable
      else .error .mismatch := by
  have hheader : (decode? (signedParts secret c).header).map Header.codec.ofOctets =
      some (.ok ()) := by
    rw [signedParts, decode?_encode, Option.map_some, ofOctets_headerText]
  have hsignature : (signedParts secret c).signature = signatureOf secret (signingInput c) := by
    rw [signedParts]
  have hclaims : claims? name (signedParts secret c).payload =
      if 0 ≤ c.expiresAt ∧ c.issuer = name then some c else none := by
    rw [signedParts, claims?_encode h]
  rw [verify, parts?_sign]
  dsimp only
  rw [hheader]
  dsimp only
  rw [hsignature, signed_signedParts, hclaims]
  by_cases hgood : 0 ≤ c.expiresAt ∧ c.issuer = name
  · rw [if_pos hgood, if_pos hgood]
  · rw [if_neg hgood, if_neg hgood]

/-! ## What is accepted -/

variable {name token : String} {secret other : Secret} {c : Claims}

theorem exists_parts_of_verify (h : verify name secret token = .ok c) :
    ∃ p, parts? token.toList = some p ∧
      (decode? p.header).map Header.codec.ofOctets = some (.ok ()) ∧
      p.signature = signatureOf secret p.signed ∧ claims? name p.payload = some c := by
  unfold verify at h
  split at h
  next => cases h
  next p hparts =>
    split at h
    next hheader =>
      split at h
      next hsignature =>
        split at h
        next claims hclaims =>
          cases h
          exact ⟨p, hparts, hheader, hsignature, hclaims⟩
        next => cases h
      next => cases h
    next => cases h

/-- A token that is accepted under one secret is at most a mismatch under another: nothing but the
signature is looked at in a different way. -/
theorem verify_ne_unusable (h : verify name secret token = .ok c) (other : Secret) :
    verify name other token ≠ .error .unusable := by
  obtain ⟨p, hparts, hheader, -, hclaims⟩ := exists_parts_of_verify h
  rw [verify, hparts]
  dsimp only
  rw [hheader]
  dsimp only
  rw [hclaims]
  split <;> nofun

/-- A secret under which a token is accepted makes no difference to its claims. -/
theorem eq_of_verify {d : Claims} (h : verify name secret token = .ok c)
    (hother : verify name other token = .ok d) : c = d := by
  obtain ⟨p, hparts, -, -, hclaims⟩ := exists_parts_of_verify h
  obtain ⟨q, hparts', -, -, hclaims'⟩ := exists_parts_of_verify hother
  obtain rfl := Option.some.inj (hparts.symm.trans hparts')
  exact Option.some.inj (hclaims.symm.trans hclaims')

/-- Whether a token carries the signature of its text under a secret. -/
def SignedUnder (secret : Secret) (token : String) : Prop :=
  ∃ p, parts? token.toList = some p ∧ p.signature = signatureOf secret p.signed

/-- The text that the signature of a token covers. -/
def signedText? (token : String) : Option (List Char) :=
  (parts? token.toList).map Parts.signed

theorem signedText?_sign (secret : Secret) (c : Claims) :
    signedText? (sign secret c) = some (signingInput c) := by
  rw [signedText?, parts?_sign, Option.map_some, signed_signedParts]

/-- A signed text has one token under a secret. -/
theorem eq_sign_of_signedUnder (h : SignedUnder secret token)
    (htext : signedText? token = some (signingInput c)) : token = sign secret c := by
  obtain ⟨p, hparts, hsignature⟩ := h
  have hsigned : p.signed = signingInput c := by
    rw [signedText?, hparts] at htext
    exact Option.some.inj htext
  have htoken := (eq_of_parts? hparts).1
  rw [hsignature, hsigned] at htoken
  rw [sign, ← htoken, String.ofList_toList]

/-- A token whose signature covers the text of some claims is accepted for none but these. -/
theorem eq_of_verify_of_signedText? {d : Claims} (h : verify name secret token = .ok c)
    (hd : d.Bounded) (htext : signedText? token = some (signingInput d)) : c = d := by
  obtain ⟨p, hparts, -, -, hclaims⟩ := exists_parts_of_verify h
  have hsigned : p.signed = signingInput d := by
    rw [signedText?, hparts] at htext
    exact Option.some.inj htext
  rw [Parts.payload_of_signed (eq_of_parts? hparts).2.1 hsigned, claims?_encode hd] at hclaims
  split at hclaims
  · exact (Option.some.inj hclaims).symm
  · cases hclaims

end Token

end DeviceSync.Credential
