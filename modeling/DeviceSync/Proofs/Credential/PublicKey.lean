import DeviceSync.Credential.PublicKey
import DeviceSync.Proofs.Bytes.Base64
import DeviceSync.Proofs.Text.Cut

/-!
# Public Keys are Unambiguous

A key may be written in four encodings, and several of the decoders may accept what was written in
one of them. The main statement says that this does no harm: a text is accepted as a key exactly if
it presents the key in one of the encodings, and it does not matter which decoder is tried first.

The four encodings use two alphabets that differ in the last two symbols, and none of these four
symbols is in both. So decoders that read the same text read the same bytes from it.
-/

namespace DeviceSync.Credential.PublicKey

open Text

variable {order : List Base64} {s : String} {cs text : List Char} {k : List UInt8}

/-! ## The encodings -/

theorem distinct_of_mem_encodings : ∀ e ∈ encodings, e.Distinct := by
  simp [encodings, Base64.distinct_standard, Base64.distinct_standardBare,
    Base64.distinct_urlSafe, Base64.distinct_urlSafeBare]

theorem agrees_of_mem_encodings : ∀ e ∈ encodings, ∀ f ∈ encodings, e.Agrees f := by
  decide

theorem isBlank_symbol : ∀ e ∈ encodings, ∀ n, n < 64 → isBlank (e.symbol n) = false := by
  decide

theorem isBlank_of_mem_encode {e : Base64} (he : e ∈ encodings) {c : Char} (h : c ∈ e.encode k) :
    isBlank c = false := by
  rcases Base64.eq_of_mem_encode h with rfl | ⟨n, hn, rfl⟩
  · decide
  · exact isBlank_symbol e he n hn

theorem encode_ne_nil {e : Base64} (he : e ∈ encodings) (hk : k ≠ []) : e.encode k ≠ [] := by
  intro hnil
  have hread : e.decode? (e.encode k) = some k := (distinct_of_mem_encodings e he).decode?_encode k
  rw [hnil] at hread
  exact hk (Option.some.inj hread).symm

/-! ## Decoders in turn -/

/-- If no two members come to different results, the first result is the result of any. -/
theorem findSome?_eq_some_iff_exists {α β : Type} {f : α → Option β} {xs : List α}
    (hagree : ∀ x ∈ xs, ∀ y ∈ xs, ∀ a b, f x = some a → f y = some b → a = b) {b : β} :
    xs.findSome? f = some b ↔ ∃ x ∈ xs, f x = some b := by
  refine ⟨List.exists_of_findSome?_eq_some, ?_⟩
  rintro ⟨x, hx, hb⟩
  obtain ⟨a, ha⟩ : ∃ a, xs.findSome? f = some a :=
    Option.isSome_iff_exists.1 (List.findSome?_isSome_iff.2 ⟨x, hx, by rw [hb]; rfl⟩)
  obtain ⟨y, hy, hya⟩ := List.exists_of_findSome?_eq_some ha
  rw [ha, hagree y hy x hx a b hya hb]

theorem findSome?_decode?_eq_some_iff (h : order.Perm encodings) :
    (order.findSome? fun e ↦ e.decode? text) = some k ↔
      ∃ e ∈ encodings, text = e.encode k := by
  have hagree : ∀ e ∈ order, ∀ f ∈ order, ∀ a b,
      e.decode? text = some a → f.decode? text = some b → a = b := fun e he f hf a b ↦
    (agrees_of_mem_encodings e (h.mem_iff.1 he) f (h.mem_iff.1 hf)).decode?_eq
  rw [findSome?_eq_some_iff_exists hagree]
  refine exists_congr fun e ↦ and_congr_left' h.mem_iff |>.trans (and_congr_right fun he ↦ ?_)
  exact (distinct_of_mem_encodings e he).decode?_eq_some_iff

theorem decodeWith_eq_of_perm (h : order.Perm encodings) (s : String) :
    decodeWith order s = decode s := by
  have hfirst (cs : List Char) : (order.findSome? fun e ↦ e.decode? cs) =
      encodings.findSome? fun e ↦ e.decode? cs := by
    apply Option.ext
    intro k
    rw [findSome?_decode?_eq_some_iff h, findSome?_decode?_eq_some_iff (.refl _)]
  unfold decode decodeWith
  simp only [hfirst]

theorem decode_eq (s : String) :
    decode s =
      if trim s.toList = [] then .error .emptyKey
      else (body (trim s.toList)).bind fun text ↦
        match encodings.findSome? fun e ↦ e.decode? text with
        | none => .error .undecodableKey
        | some bytes =>
          if minKeyLength ≤ bytes.length ∧ bytes.length ≤ maxKeyLength then .ok bytes
          else .error (.keyLength bytes.length) :=
  rfl

theorem decode_eq_ok_iff :
    decode s = .ok k ↔ minKeyLength ≤ k.length ∧ k.length ≤ maxKeyLength ∧
      ∃ e ∈ encodings, body (trim s.toList) = .ok (e.encode k) := by
  rw [decode_eq]
  split
  next hblank =>
    refine iff_of_false (fun h ↦ nomatch h) ?_
    rintro ⟨hlength, -, e, he, hbody⟩
    rw [hblank] at hbody
    have hk : k ≠ [] := List.ne_nil_of_length_pos (Nat.lt_of_lt_of_le (by decide) hlength)
    exact encode_ne_nil he hk (Except.ok.inj hbody).symm
  next =>
    cases body (trim s.toList) with
    | error defect => exact iff_of_false (fun h ↦ nomatch h) fun ⟨_, _, _, _, h⟩ ↦ nomatch h
    | ok text =>
      simp only [Except.ok.injEq, ← findSome?_decode?_eq_some_iff (List.Perm.refl encodings)]
      cases hfirst : encodings.findSome? fun e ↦ e.decode? text with
      | none => simp [Except.bind, hfirst]
      | some bytes =>
        simp only [Except.bind, hfirst, Option.some.injEq]
        split
        next hlength =>
          rw [Except.ok.injEq]
          exact ⟨fun h ↦ h ▸ ⟨hlength.1, hlength.2, rfl⟩, fun h ↦ h.2.2⟩
        next hlength =>
          exact iff_of_false (fun h ↦ nomatch h) fun ⟨hmin, hmax, h⟩ ↦ hlength (h ▸ ⟨hmin, hmax⟩)

/-! ## Texts that present a key -/

/-- How base64 is presented: bare, with blanks around it, or in a PEM block, with blanks around
the block and anywhere inside. -/
inductive Presents (text : List Char) : List Char → Prop where
  | bare {front back : List Char} (hfront : ∀ c ∈ front, isBlank c = true)
      (hback : ∀ c ∈ back, isBlank c = true) : Presents text (front ++ text ++ back)
  | block {front inner back : List Char} (hfront : ∀ c ∈ front, isBlank c = true)
      (hback : ∀ c ∈ back, isBlank c = true) (hinner : squeeze inner = text) :
      Presents text (front ++ (pemBegin ++ inner ++ pemEnd) ++ back)

theorem body_of_not_blank (h : ∀ c ∈ cs, isBlank c = false) : body cs = .ok cs := by
  have hnone : afterLead pemBegin cs = none := by
    rw [Option.eq_none_iff_forall_ne_some]
    intro rest hlead
    have hspace : ' ' ∈ cs := by
      rw [afterLead_eq_some_iff.1 hlead]
      exact List.mem_append_left _ (by decide)
    exact absurd (h ' ' hspace) (by decide)
  rw [body, hnone]

theorem beforeTail_eq_some_iff {tail before : List Char} :
    beforeTail tail cs = some before ↔ cs = before ++ tail := by
  rw [beforeTail, Option.map_eq_some_iff]
  constructor
  · rintro ⟨reversed, hreversed, rfl⟩
    rw [← List.reverse_inj, afterLead_eq_some_iff.1 hreversed]
    simp
  · rintro rfl
    exact ⟨before.reverse, afterLead_eq_some_iff.2 List.reverse_append, List.reverse_reverse _⟩

theorem body_block (inner : List Char) :
    body (pemBegin ++ inner ++ pemEnd) = .ok (squeeze inner) := by
  rw [body, afterLead_eq_some_iff.2 (List.append_assoc ..)]
  dsimp only
  rw [beforeTail_eq_some_iff.2 rfl]

theorem eq_of_body (h : body cs = .ok text) :
    cs = text ∨ ∃ inner, cs = pemBegin ++ inner ++ pemEnd ∧ squeeze inner = text := by
  unfold body at h
  split at h
  next =>
    cases h
    exact .inl rfl
  next rest hlead =>
    split at h
    next inner htail =>
      cases h
      refine .inr ⟨inner, ?_, rfl⟩
      rw [afterLead_eq_some_iff.1 hlead, beforeTail_eq_some_iff.1 htail, List.append_assoc]
    next => exact nomatch h

theorem body_trim_eq_ok_iff (htext : ∀ c ∈ text, isBlank c = false) :
    body (trim cs) = .ok text ↔ Presents text cs := by
  constructor
  · intro h
    obtain ⟨front, back, hfront, hback, hcs⟩ := exists_eq_append_trim cs
    rcases eq_of_body h with htrim | ⟨inner, htrim, hinner⟩
    · rw [hcs, htrim]
      exact .bare hfront hback
    · rw [hcs, htrim]
      exact .block hfront hback hinner
  · intro h
    cases h with
    | bare hfront hback =>
      rw [trim_append hfront hback (fun c hc ↦ htext c (List.mem_of_mem_head? hc))
        (fun c hc ↦ htext c (List.mem_of_getLast? hc)), body_of_not_blank htext]
    | @block front inner back hfront hback hinner =>
      have hhead : ∀ c ∈ (pemBegin ++ inner ++ pemEnd).head?, isBlank c = false := by
        intro c hc
        obtain rfl : '-' = c := Option.some.inj hc
        decide
      have hlast : ∀ c ∈ (pemBegin ++ inner ++ pemEnd).getLast?, isBlank c = false := by
        intro c hc
        rw [List.getLast?_append] at hc
        obtain rfl : '-' = c := Option.some.inj hc
        decide
      rw [trim_append hfront hback hhead hlast, body_block, hinner]

/-- A text is accepted as a key exactly if the key has 32 to 4096 bytes and the text presents it in
one of the four encodings. The encodings may be tried in any order. -/
theorem decode_eq_ok_iff_presents (s : String) (k : List UInt8) :
    let encodings : List Base64 := [.standard, .standardBare, .urlSafe, .urlSafeBare]
    (decode s = .ok k ↔ 32 ≤ k.length ∧ k.length ≤ 4096 ∧
        ∃ e ∈ encodings, Presents (e.encode k) s.toList) ∧
      ∀ order : List Base64, order.Perm encodings → decodeWith order s = decode s := by
  intro encodings
  refine ⟨decode_eq_ok_iff.trans ?_, fun order h ↦ decodeWith_eq_of_perm h s⟩
  refine and_congr_right fun _ ↦ and_congr_right fun _ ↦ exists_congr fun e ↦
    and_congr_right fun he ↦ ?_
  exact body_trim_eq_ok_iff fun c hc ↦ isBlank_of_mem_encode he hc

/-- A block of 32 bytes with a line break and an em space in it, read in the reverse order. -/
theorem decode_eq_ok_iff_presents_block :
    let k : List UInt8 := .replicate 32 0
    let s := " -----BEGIN PUBLIC KEY-----AAAAAAAAAAAAAAAAAAAAAAAAAAAAAAAA\nAAAAAAAA\u2003AAA=" ++
      "-----END PUBLIC KEY-----\n"
    Presents (Base64.standard.encode k) s.toList ∧ encodings.reverse.Perm encodings ∧
      decode s = .ok k ∧ decodeWith encodings.reverse s = decode s := by
  intro k s
  have hpresents : Presents (Base64.standard.encode k) s.toList := by
    let inner := "AAAAAAAAAAAAAAAAAAAAAAAAAAAAAAAA\nAAAAAAAA\u2003AAA=".toList
    have hs : s.toList = [' '] ++ (pemBegin ++ inner ++ pemEnd) ++ ['\n'] := by decide +kernel
    rw [hs]
    exact .block (List.forall_mem_singleton.2 (by decide)) (List.forall_mem_singleton.2 (by decide))
      (by decide +kernel)
  have hperm : encodings.reverse.Perm encodings := List.reverse_perm _
  have h := decode_eq_ok_iff_presents s k
  exact ⟨hpresents, hperm, h.1.2 ⟨by decide, by decide, .standard, List.mem_cons_self, hpresents⟩,
    h.2 encodings.reverse hperm⟩

end DeviceSync.Credential.PublicKey
