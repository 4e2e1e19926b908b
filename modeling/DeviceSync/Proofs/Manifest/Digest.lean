import DeviceSync.Manifest.Digest
import DeviceSync.Proofs.Text.Cut
import Mathlib.Data.String.Basic

/-!
# The Grammar of Digests

A declared digest is either the name of an algorithm, a colon and as many hexadecimal digits as the
algorithm has, or a text without a colon, in the alphabets of base64 and not longer than a bound.
`Spells` is this grammar, and the main statement says that a digest is read exactly as the grammar
says and refused if it fits none of its rules.

The bound is held against the octets of a text. A text of the grammar has as many characters as
octets, so that it makes no difference there.
-/

namespace DeviceSync.Manifest

/-! ## Characters -/

/-- The characters of hexadecimal text and of both alphabets of base64. -/
def InDigestAlphabet (c : Char) : Prop :=
  ('A' ≤ c ∧ c ≤ 'Z') ∨ ('a' ≤ c ∧ c ≤ 'z') ∨ ('0' ≤ c ∧ c ≤ '9') ∨ c ∈ ['+', '/', '_', '=', '-']

/-- The hexadecimal digits of both cases. -/
def IsHexDigit (c : Char) : Prop :=
  ('0' ≤ c ∧ c ≤ '9') ∨ ('a' ≤ c ∧ c ≤ 'f') ∨ ('A' ≤ c ∧ c ≤ 'F')

theorem isBareChar_iff (c : Char) : DigestForm.isBareChar c = true ↔ InDigestAlphabet c := by
  delta DigestForm.isBareChar Char.isAlphanum Char.isAlpha Char.isUpper Char.isLower Char.isDigit
  simp only [Bool.or_eq_true, Bool.and_eq_true, decide_eq_true_eq, InDigestAlphabet,
    List.mem_cons, List.not_mem_nil, or_false, Char.le_def, ge_iff_le, or_assoc]

theorem isDigit_iff (c : Char) : Hex.isDigit c = true ↔ IsHexDigit c := by
  unfold Hex.isDigit Hex.nibble? IsHexDigit
  split
  next hdigit => exact iff_of_true rfl (.inl hdigit)
  next hdigit =>
    split
    next hsmall => exact iff_of_true rfl (.inr (.inl hsmall))
    next hsmall =>
      split
      next hcapital => exact iff_of_true rfl (.inr (.inr hcapital))
      next hcapital => simp [hdigit, hsmall, hcapital]

/-- A character of a digest is in ASCII and neither ends a line nor separates a name. -/
theorem InDigestAlphabet.plain {c : Char} (h : InDigestAlphabet c) :
    c.toNat < 128 ∧ c ≠ '\n' ∧ c ≠ ':' := by
  have hrange {least greatest : Char} (hc : least ≤ c ∧ c ≤ greatest)
      (hends : 58 < least.toNat ∨ (10 < least.toNat ∧ greatest.toNat < 58))
      (hascii : greatest.toNat < 128) : c.toNat < 128 ∧ c ≠ '\n' ∧ c ≠ ':' := by
    have hleast : least.toNat ≤ c.toNat := hc.1
    have hgreatest : c.toNat ≤ greatest.toNat := hc.2
    refine ⟨by omega, ?_, ?_⟩
    · rintro rfl
      have hvalue : '\n'.toNat = 10 := rfl
      omega
    · rintro rfl
      have hvalue : ':'.toNat = 58 := rfl
      omega
  rcases h with hcapital | hsmall | hdigit | hsign
  · exact hrange hcapital (.inl (by decide)) (by decide)
  · exact hrange hsmall (.inl (by decide)) (by decide)
  · exact hrange hdigit (.inr (by decide)) (by decide)
  · simp only [List.mem_cons, List.not_mem_nil, or_false] at hsign
    rcases hsign with rfl | rfl | rfl | rfl | rfl <;> decide

theorem IsHexDigit.inDigestAlphabet {c : Char} (h : IsHexDigit c) : InDigestAlphabet c := by
  rcases h with hdigit | hsmall | hcapital
  · exact .inr (.inr (.inl hdigit))
  · exact .inr (.inl ⟨hsmall.1, Char.le_trans hsmall.2 (by decide)⟩)
  · exact .inl ⟨hcapital.1, Char.le_trans hcapital.2 (by decide)⟩

/-- Text of the alphabet has an octet for each character. -/
theorem utf8ByteSize_of_inDigestAlphabet {s : String} (h : ∀ c ∈ s.toList, InDigestAlphabet c) :
    s.utf8ByteSize = s.length := by
  rw [← String.utf8Len_toList, ← String.length_toList]
  generalize s.toList = cs at h ⊢
  induction cs with
  | nil => rfl
  | cons c cs ih =>
    obtain ⟨hc, hcs⟩ := List.forall_mem_cons.1 h
    have hascii : c.toNat ≤ 127 := Nat.le_of_lt_succ hc.plain.1
    rw [String.utf8Len_cons, List.length_cons, ih hcs, Char.utf8Size_eq_one_iff.2 hascii]

/-! ## Names -/

/-- The name of an algorithm is known by its small letters. -/
theorem Algorithm.ofName?_eq_some_iff {name : List Char} {a : Algorithm} :
    ofName? (String.ofList name) = some a ↔ name.map Char.toLower = a.name.toList := by
  have hlower : Text.asciiLower (String.ofList name) = String.ofList (name.map Char.toLower) := by
    rw [Text.asciiLower, String.toList_ofList]
  rw [ofName?, hlower]
  constructor
  · intro h
    have hfound := List.find?_some h
    have hname : a.name = String.ofList (name.map Char.toLower) := of_decide_eq_true hfound
    rw [hname, String.toList_ofList]
  · intro h
    rw [h, String.ofList_toList]
    cases a <;> decide

theorem inDigestAlphabet_of_mem_name {name : List Char} {a : Algorithm}
    (h : name.map Char.toLower = a.name.toList) {c : Char} (hc : c ∈ name) :
    InDigestAlphabet c := by
  have hknown : a.name.toList.all DigestForm.isBareChar = true := by
    cases a <;> decide
  have hmem : c.toLower ∈ a.name.toList := h ▸ List.mem_map_of_mem hc
  by_cases hcapital : 'A' ≤ c ∧ c ≤ 'Z'
  · exact .inl hcapital
  · have hsame : c.toLower = c := dif_neg hcapital
    rw [hsame] at hmem
    exact (isBareChar_iff c).1 (List.all_eq_true.1 hknown c hmem)

namespace DigestForm

/-! ## The grammar -/

/-- The algorithms with their names and the number of digits of their digests. -/
inductive Lists : Algorithm → String → Nat → Prop where
  | sha256 : Lists .sha256 "sha256" 64
  | sha512 : Lists .sha512 "sha512" 128
  | blake3 : Lists .blake3 "blake3" 64

theorem lists_iff {a : Algorithm} {tag : String} {digits : Nat} :
    Lists a tag digits ↔ tag = a.name ∧ digits = a.hexLength := by
  constructor
  · intro h
    cases h <;> exact ⟨rfl, rfl⟩
  · rintro ⟨rfl, rfl⟩
    cases a
    · exact .sha256
    · exact .sha512
    · exact .blake3

/-- How a digest of some form is written. -/
inductive Spells : DigestForm → List Char → Prop where
  | bare {cs : List Char} (hlength : 1 ≤ cs.length ∧ cs.length ≤ 128)
      (hchars : ∀ c ∈ cs, InDigestAlphabet c) : Spells .bare cs
  /-- The name of an algorithm may be in any case. -/
  | tagged {a : Algorithm} {tag : String} {digits : Nat} {name body : List Char}
      (hlists : Lists a tag digits) (hname : name.map Char.toLower = tag.toList)
      (hlength : body.length = digits) (hdigits : ∀ c ∈ body, IsHexDigit c) :
      Spells (.tagged a) (name ++ ':' :: body)

theorem ofTagged_eq_ok_iff {name body : List Char} {form : DigestForm} :
    ofTagged name body = .ok form ↔
      ∃ a, form = .tagged a ∧ name.map Char.toLower = a.name.toList ∧
        body.length = a.hexLength ∧ ∀ c ∈ body, IsHexDigit c := by
  have hbody {a : Algorithm} : (body.length = a.hexLength ∧ body.all Hex.isDigit = true) ↔
      body.length = a.hexLength ∧ ∀ c ∈ body, IsHexDigit c := by
    simp only [List.all_eq_true, isDigit_iff]
  unfold ofTagged
  cases hname : Algorithm.ofName? (String.ofList name) with
  | none =>
    refine iff_of_false nofun ?_
    rintro ⟨a, -, ha, -⟩
    rw [Algorithm.ofName?_eq_some_iff.2 ha] at hname
    cases hname
  | some a =>
    dsimp only
    constructor
    · intro h
      split at h
      next hgood =>
        cases h
        exact ⟨a, rfl, Algorithm.ofName?_eq_some_iff.1 hname, hbody.1 hgood⟩
      next => cases h
    · rintro ⟨b, rfl, hb, hgood⟩
      rw [Algorithm.ofName?_eq_some_iff.2 hb] at hname
      cases hname
      exact if_pos (hbody.2 hgood)

/-- Nothing but the first colon can separate a name. -/
theorem cutFirst_of_lists {a : Algorithm} {tag : String} {digits : Nat} {name : List Char}
    (hlists : Lists a tag digits) (hname : name.map Char.toLower = tag.toList)
    (body : List Char) : Text.cutFirst ':' (name ++ ':' :: body) = some (name, body) := by
  apply Text.cutFirst_append
  intro hcolon
  rw [(lists_iff.1 hlists).1] at hname
  exact (inDigestAlphabet_of_mem_name hname hcolon).plain.2.2 rfl

/-- The bound on a text without a colon, which is a bound on its octets, is one on its
characters. -/
theorem bare_iff {s : String} :
    (s.utf8ByteSize ≤ maxBareLength ∧ s.toList.all isBareChar = true) ↔
      s.toList.length ≤ maxBareLength ∧ ∀ c ∈ s.toList, InDigestAlphabet c := by
  have hchars : s.toList.all isBareChar = true ↔ ∀ c ∈ s.toList, InDigestAlphabet c := by
    simp only [List.all_eq_true, isBareChar_iff]
  rw [hchars]
  apply and_congr_left
  intro hall
  rw [utf8ByteSize_of_inDigestAlphabet hall, String.length_toList]

theorem not_spells_nil {form : DigestForm} : ¬Spells form [] := by
  generalize hcs : ([] : List Char) = cs
  intro h
  cases h with
  | bare hlength =>
    rw [← hcs] at hlength
    exact absurd hlength.1 (by decide)
  | tagged => exact absurd (congrArg List.length hcs) (by simp)

theorem spells_of_cutFirst {cs name body : List Char} {form : DigestForm}
    (hcut : Text.cutFirst ':' cs = some (name, body)) :
    Spells form cs ↔ ofTagged name body = .ok form := by
  obtain ⟨htext, -⟩ := Text.eq_of_cutFirst hcut
  rw [ofTagged_eq_ok_iff]
  constructor
  · intro h
    cases h with
    | bare _ hchars =>
      have hmem : ':' ∈ cs := by simp [htext]
      exact absurd rfl (hchars _ hmem).plain.2.2
    | tagged hlists hname hlength hdigits =>
      rw [cutFirst_of_lists hlists hname] at hcut
      cases hcut
      obtain ⟨rfl, rfl⟩ := lists_iff.1 hlists
      exact ⟨_, rfl, hname, hlength, hdigits⟩
  · rintro ⟨a, rfl, hname, hlength, hdigits⟩
    rw [htext]
    exact .tagged (lists_iff.2 ⟨rfl, rfl⟩) hname hlength hdigits

theorem spells_of_cutFirst_eq_none {cs : List Char} {form : DigestForm}
    (hcut : Text.cutFirst ':' cs = none) (hcs : cs ≠ []) :
    Spells form cs ↔
      form = .bare ∧ cs.length ≤ maxBareLength ∧ ∀ c ∈ cs, InDigestAlphabet c := by
  constructor
  · intro h
    cases h with
    | bare hlength hchars => exact ⟨rfl, hlength.2, hchars⟩
    | tagged hlists hname =>
      rw [cutFirst_of_lists hlists hname] at hcut
      cases hcut
  · rintro ⟨rfl, hlength, hchars⟩
    exact .bare ⟨List.length_pos_iff.2 hcs, hlength⟩ hchars

/-! ## What is read -/

/-- A digest is read as the grammar says. -/
theorem ofText_eq_ok_iff {s : String} {form : DigestForm} :
    ofText s = .ok form ↔ Spells form s.toList := by
  unfold ofText
  split
  next hempty =>
    rw [hempty]
    exact iff_of_false nofun not_spells_nil
  next hsome =>
    have htext : s.toList ≠ [] := fun hnil ↦ hsome (String.toList_inj.1 hnil)
    -- With a colon only the tagged rule can apply, and without one only the bare rule.
    split
    next name body hcut => exact (spells_of_cutFirst hcut).symm
    next hcut =>
      rw [spells_of_cutFirst_eq_none hcut htext, ← bare_iff, ← not_lt]
      split
      next hlong => simp [hlong]
      next hshort =>
        split
        next hchars => simp [hshort, hchars, eq_comm]
        next hchars => simp [hchars]

theorem ofText_eq_missing_iff {s : String} : ofText s = .error .missing ↔ s = "" := by
  constructor
  · intro h
    by_contra hsome
    unfold ofText ofTagged at h
    rw [if_neg hsome] at h
    -- Every other ending is a form or a flaw.
    repeat' split at h
    all_goals cases h
  · rintro rfl
    rfl

/-- No character of a digest stands outside ASCII or ends a line, and the only colon is the one
that separates a name. -/
theorem Spells.plain {form : DigestForm} {cs : List Char} (h : Spells form cs) :
    (form = .bare → ':' ∉ cs) ∧ cs.count ':' ≤ 1 ∧ ∀ c ∈ cs, c.toNat < 128 ∧ c ≠ '\n' := by
  have hcolon {ds : List Char} (hds : ∀ c ∈ ds, InDigestAlphabet c) : ':' ∉ ds :=
    fun hmem ↦ (hds _ hmem).plain.2.2 rfl
  cases h with
  | bare _ hchars =>
    refine ⟨fun _ ↦ hcolon hchars, ?_, fun c hc ↦ ?_⟩
    · rw [List.count_eq_zero_of_not_mem (hcolon hchars)]
      exact Nat.zero_le 1
    · exact ⟨(hchars c hc).plain.1, (hchars c hc).plain.2.1⟩
  | @tagged a tag digits name body hlists hname hlength hdigits =>
    rw [(lists_iff.1 hlists).1] at hname
    have hleft : ∀ c ∈ name, InDigestAlphabet c := fun c ↦ inDigestAlphabet_of_mem_name hname
    have hright : ∀ c ∈ body, InDigestAlphabet c := fun c hc ↦ (hdigits c hc).inDigestAlphabet
    refine ⟨nofun, ?_, fun c hc ↦ ?_⟩
    · rw [List.count_append, List.count_cons_self,
        List.count_eq_zero_of_not_mem (hcolon hleft),
        List.count_eq_zero_of_not_mem (hcolon hright)]
    · rcases List.mem_append.1 hc with hc | hc
      · exact ⟨(hleft c hc).plain.1, (hleft c hc).plain.2.1⟩
      rcases List.mem_cons.1 hc with rfl | hc
      · decide
      · exact ⟨(hright c hc).plain.1, (hright c hc).plain.2.1⟩

/-- A digest is missing if it is empty, has the form whose rule it fits, and is malformed if it
fits none. No digest with a colon is a bare one, and none is accepted with a second colon, the end
of a line or a character outside ASCII. -/
theorem ofText_grammar (s : String) :
    (ofText s = .error .missing ↔ s = "") ∧
      (∀ form, ofText s = .ok form ↔ Spells form s.toList) ∧
      ((∃ flaw, ofText s = .error (.malformed flaw)) ↔
        s ≠ "" ∧ ∀ form, ¬Spells form s.toList) ∧
      ∀ form, ofText s = .ok form → (form = .bare → ':' ∉ s.toList) ∧
        s.toList.count ':' ≤ 1 ∧ ∀ c ∈ s.toList, c.toNat < 128 ∧ c ≠ '\n' := by
  refine ⟨ofText_eq_missing_iff, fun _ ↦ ofText_eq_ok_iff, ?_,
    fun form hform ↦ (ofText_eq_ok_iff.1 hform).plain⟩
  simp only [ne_eq, ← ofText_eq_missing_iff, ← ofText_eq_ok_iff]
  cases ofText s with
  | ok form => simp
  | error flaw => cases flaw <;> simp

/-- The name of an algorithm may be in capitals. -/
theorem ofText_capital_name :
    let s := String.ofList ("SHA256".toList ++ ':' :: List.replicate 64 'f')
    ofText s = .ok (.tagged .sha256) ∧ s.toList.count ':' ≤ 1 := by
  intro s
  have hdigits : ∀ c ∈ List.replicate 64 'f', IsHexDigit c := by
    intro c hc
    rw [List.eq_of_mem_replicate hc]
    exact .inr (.inl (by decide))
  have hspells : Spells (.tagged .sha256) s.toList := by
    rw [String.toList_ofList]
    exact .tagged .sha256 (by decide) List.length_replicate hdigits
  have hform : ofText s = .ok (.tagged .sha256) := ((ofText_grammar s).2.1 _).2 hspells
  exact ⟨hform, ((ofText_grammar s).2.2.2 _ hform).2.1⟩

end DigestForm

end DeviceSync.Manifest
